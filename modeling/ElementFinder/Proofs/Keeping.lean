import ElementFinder.Proofs.Results
import ElementFinder.Timeouts.Program

/-!
# What steps with configurations keep

A step makes new configurations and changes only those that it made itself. What is in force changes at
the end of a step, when nothing can fail any more.
-/

namespace ElementFinder

open Run

/-! ## Contents -/

namespace Timeouts

variable {t u copy : Timeouts} {f g : TimeoutField}

theorem get_set (t : Timeouts) (f g : TimeoutField) (v : Value) :
    (t.set f v).get g = if g = f then v else t.get g := by
  cases f <;> cases g <;> rfl

theorem readSetting_settingValue (f : TimeoutField) (v : Value) :
    readSetting f (settingValue v) = v.toDouble.map .float := by
  have hfield : Value.field? timeoutKey [(.text timeoutKey, v)] = some v := rfl
  rw [settingValue, readSetting, hfield]
  dsimp only
  cases v.toDouble <;> rfl

/-- All timeouts of a copy are doubles: those that the timeouts stand for. -/
def CopyOf (t copy : Timeouts) : Prop := ∀ f, ∃ x, (t.get f).toDouble = .ok x ∧ copy.get f = .float x

theorem assignAll_copies {entries : List (Value × Value)}
    (hentries : ∀ f, Value.field? f.name entries = some (settingValue (t.get f)))
    {fields : List TimeoutField} {start : Timeouts} (h : assignAll entries fields start = (copy, none)) :
    (∀ f ∈ fields, ∃ x, (t.get f).toDouble = .ok x ∧ copy.get f = .float x) ∧
      ∀ f ∉ fields, copy.get f = start.get f := by
  induction fields generalizing start with
  | nil =>
      cases h
      simp
  | cons f fields ih =>
      rw [assignAll, hentries, Option.getD_some, readSetting_settingValue] at h
      cases hx : (t.get f).toDouble with
      | error e => simp [hx, Except.map] at h
      | ok x =>
          simp only [hx, Except.map] at h
          obtain ⟨hin, hout⟩ := ih h
          have hfirst : copy.get f = .float x := by
            by_cases hf : f ∈ fields
            · obtain ⟨y, hy, hcopy⟩ := hin f hf
              cases hx.symm.trans hy
              exact hcopy
            · rw [hout f hf, get_set, if_pos rfl]
          refine ⟨?_, ?_⟩
          · rintro g hg
            rcases List.mem_cons.mp hg with rfl | hg
            · exact ⟨x, hx, hfirst⟩
            · exact hin g hg
          · intro g hg
            rw [List.mem_cons, not_or] at hg
            rw [hout g hg.2, get_set, if_neg hg.1]

theorem copyOf_of_assign {start : Timeouts} (h : start.assign t.toValue = (copy, none)) : CopyOf t copy := by
  have hentries : ∀ f, Value.field? f.name (TimeoutField.all.map fun f =>
      (.text f.name, settingValue (t.get f))) = some (settingValue (t.get f)) := by
    intro f
    cases f <;> rfl
  intro f
  exact (assignAll_copies hentries h).1 f (by cases f <;> decide)

end Timeouts

/-! ## Stores -/

namespace ConfigStore

variable {s t u : ConfigStore} {id : ConfigId}

/-- A later store has the configurations of an earlier one as they were, and the same overrides. A default
that was made since is the usual one. -/
structure Keeps (s t : ConfigStore) : Prop where
  cells : s.cells <+: t.cells
  override? : t.override? = s.override?
  entered : t.entered = s.entered
  default? : t.default? = s.default? ∨
    s.default? = none ∧ ∃ id, t.default? = some id ∧ t.cells[id]? = some .usual

namespace Keeps

theorem getElem? (h : Keeps s t) {c : Timeouts} (hc : s.cells[id]? = some c) : t.cells[id]? = some c := by
  obtain ⟨hid, rfl⟩ := List.getElem?_eq_some_iff.mp hc
  exact List.prefix_iff_getElem?.mp h.cells id hid

theorem cell (h : Keeps s t) (hid : id < s.cells.length) : t.cell id = s.cell id := by
  have hc : s.cells[id]? = some s.cells[id] := List.getElem?_eq_getElem hid
  rw [ConfigStore.cell, ConfigStore.cell, hc, h.getElem? hc]

theorem refl (s : ConfigStore) : Keeps s s := ⟨List.prefix_refl _, rfl, rfl, Or.inl rfl⟩

theorem trans (h : Keeps s t) (h' : Keeps t u) : Keeps s u := by
  refine ⟨h.cells.trans h'.cells, h'.override?.trans h.override?, h'.entered.trans h.entered, ?_⟩
  rcases h.default? with hsame | ⟨hnone, id, hid, husual⟩
  · rcases h'.default? with hsame' | ⟨hnone', hmade⟩
    · exact Or.inl (hsame'.trans hsame)
    · exact Or.inr ⟨hsame.symm.trans hnone', hmade⟩
  · rcases h'.default? with hsame' | ⟨hnone', -⟩
    · exact Or.inr ⟨hnone, id, hsame'.trans hid, h'.getElem? husual⟩
    · cases hid.symm.trans hnone'

theorem alloc (s : ConfigStore) (c : Timeouts) : Keeps s (s.alloc c).2 :=
  ⟨List.prefix_append _ _, rfl, rfl, Or.inl rfl⟩

theorem install (h : Keeps s t) (id : ConfigId) : Keeps s (t.install id) := ⟨h.1, h.2, h.3, h.4⟩

theorem clearRun (h : Keeps s t) : Keeps s t.clearRun := ⟨h.1, h.2, h.3, h.4⟩

theorem default (s : ConfigStore) : Keeps s s.default.2 := by
  rw [ConfigStore.default]
  cases hdefault : s.default? with
  | some id => exact refl s
  | none =>
      refine ⟨List.prefix_append _ _, rfl, rfl, Or.inr ⟨hdefault, s.cells.length, rfl, ?_⟩⟩
      simp [ConfigStore.alloc]

theorem current (s : ConfigStore) : Keeps s s.current.2 := by
  rw [ConfigStore.current.eq_def]
  split
  · exact refl s
  · exact refl s
  · exact default s

end Keeps

theorem run?_default (s : ConfigStore) : s.default.2.run? = s.run? := by
  rw [default]
  cases s.default? <;> rfl

theorem run?_current (s : ConfigStore) : s.current.2.run? = s.run? := by
  rw [current.eq_def]
  split
  · rfl
  · rfl
  · exact run?_default s

/-- A copy is made in the next free place. -/
theorem cell_alloc_usual (s : ConfigStore) (id : ConfigId) : (s.alloc .usual).2.cell id = s.cell id := by
  rw [cell, cell, alloc]
  rcases Nat.lt_trichotomy id s.cells.length with h | rfl | h
  · rw [List.getElem?_append_left h]
  · simp
  · rw [List.getElem?_eq_none (by simp; omega), List.getElem?_eq_none (Nat.le_of_lt h)]

theorem update_alloc (s : ConfigStore) (c c' : Timeouts) :
    (s.alloc c).2.update s.cells.length c' = (s.alloc c').2 := by
  simp [alloc, update]

theorem cell_alloc (s : ConfigStore) (c : Timeouts) : (s.alloc c).2.cell s.cells.length = c := by
  simp [alloc, cell]

end ConfigStore

/-! ## Steps -/

namespace ConfigStep

variable {s u : ConfigStore} {id : ConfigId} {r : Except Failure Unit}

theorem ofExcept_run {α : Type} (o : Except Failure α) (s : ConfigStore) :
    (ofExcept o : ConfigStep α) s = (o, s) := by
  cases o <;> rfl

theorem ofExcept_inv {α : Type} {o r : Except Failure α} (h : (ofExcept o : ConfigStep α) s = (r, u)) :
    r = o ∧ u = s := by
  rw [ofExcept_run] at h
  cases h
  exact ⟨rfl, rfl⟩

/-- What a change comes to: a failure only if it has a fault. -/
def ofFault : Option Failure → Except Failure Unit
  | none => .ok ()
  | some e => .error e

theorem change_run (id : ConfigId) (f : Timeouts → Timeouts × Option Failure) (s : ConfigStore) :
    change id f s = (ofFault (f (s.cell id)).2, s.update id (f (s.cell id)).1) := by
  have hconst : change id f s = change id (fun _ => f (s.cell id)) s := rfl
  rw [hconst]
  generalize f (s.cell id) = changed
  obtain ⟨t, _ | e⟩ := changed <;> rfl

theorem change_inv {f : Timeouts → Timeouts × Option Failure} (h : change id f s = (r, u)) :
    u = s.update id (f (s.cell id)).1 ∧
      ((∃ e, r = .error e) ∨ r = .ok () ∧ (f (s.cell id)).2 = none) := by
  rw [change_run] at h
  cases h
  refine ⟨rfl, ?_⟩
  cases (f (s.cell id)).2 with
  | none => exact Or.inr ⟨rfl, rfl⟩
  | some e => exact Or.inl ⟨e, rfl⟩

/-- A copy is a new configuration, whether it can be filled or not. -/
theorem clone_inv {r : Except Failure ConfigId} (h : clone id s = (r, u)) :
    ∃ copy, u = (s.alloc copy).2 ∧
      ((∃ e, r = .error e) ∨ r = .ok s.cells.length ∧ (s.cell id).CopyOf copy) := by
  have hrun : clone id s = (do
      assign s.cells.length (s.cell id).toValue
      return s.cells.length : ConfigStep ConfigId) (s.alloc .usual).2 := by
    rw [← s.cell_alloc_usual id]
    rfl
  rw [hrun] at h
  rcases bind_inv h with ⟨e, hassign, rfl⟩ | ⟨_, t, hassign, hend⟩
  · obtain ⟨rfl, -⟩ := change_inv hassign
    exact ⟨_, s.update_alloc _ _, Or.inl ⟨e, rfl⟩⟩
  · cases hend
    obtain ⟨rfl, ⟨e, ⟨⟩⟩ | ⟨-, hnone⟩⟩ := change_inv hassign
    rw [s.cell_alloc] at hnone
    have hassigned := Timeouts.copyOf_of_assign (Prod.ext rfl hnone)
    refine ⟨_, s.update_alloc _ _, Or.inr ⟨rfl, ?_⟩⟩
    rwa [s.cell_alloc]

/-- Changing the configuration that was made last is as making it otherwise. -/
theorem change_alloc_run (c : Timeouts) (f : Timeouts → Timeouts × Option Failure) (s : ConfigStore) :
    change s.cells.length f (s.alloc c).2 = (ofFault (f c).2, (s.alloc (f c).1).2) := by
  rw [change_run, s.cell_alloc, s.update_alloc]

theorem change_alloc_inv {c : Timeouts} {f : Timeouts → Timeouts × Option Failure}
    (h : change s.cells.length f (s.alloc c).2 = (r, u)) :
    u = (s.alloc (f c).1).2 ∧ ((∃ e, r = .error e) ∨ r = .ok () ∧ (f c).2 = none) := by
  have hchange := change_inv h
  rwa [s.cell_alloc, s.update_alloc] at hchange

theorem current_bind {α : Type} {f : ConfigId → ConfigStep α} :
    (current >>= f) s = f s.current.1 s.current.2 := rfl

theorem applyPreset_inv {name : Option String} (h : applyPreset name s = (r, u)) :
    ∃ t, ((∃ e, r = .error e) ∧ u = (s.current.2.alloc t).2) ∨
      r = .ok () ∧ u = ((s.current.2.alloc t).2).install s.current.2.cells.length := by
  rw [applyPreset, current_bind] at h
  rcases bind_inv h with ⟨e, hclone, rfl⟩ | ⟨base, t, hclone, h⟩
  · obtain ⟨copy, rfl, -⟩ := clone_inv hclone
    exact ⟨copy, Or.inl ⟨⟨e, rfl⟩, rfl⟩⟩
  obtain ⟨copy, rfl, ⟨e, ⟨⟩⟩ | ⟨hbase, -⟩⟩ := clone_inv hclone
  cases hbase
  rcases bind_inv h with ⟨e, hpreset, rfl⟩ | ⟨preset, t, hpreset, h⟩
  · obtain ⟨-, rfl⟩ := ofExcept_inv hpreset
    exact ⟨copy, Or.inl ⟨⟨e, rfl⟩, rfl⟩⟩
  obtain ⟨-, rfl⟩ := ofExcept_inv hpreset
  rcases bind_inv h with ⟨e, hassign, rfl⟩ | ⟨_, t, hassign, h⟩
  · obtain ⟨rfl, -⟩ := change_alloc_inv hassign
    exact ⟨_, Or.inl ⟨⟨e, rfl⟩, rfl⟩⟩
  · obtain ⟨rfl, -⟩ := change_alloc_inv hassign
    cases h
    exact ⟨_, Or.inr ⟨rfl, rfl⟩⟩

/-- What entering an override comes to: nothing, or a new configuration that is of no use, or one that is
a copy of the one in force with the overrides. -/
theorem enter_inv {values : Value} {r : Except Failure ConfigId} (h : enter values s = (r, u)) :
    ((∃ e, r = .error e) ∧ (u = s ∨ ∃ t, u = (s.current.2.alloc t).2)) ∨
    ∃ entries copy t, values = .map entries ∧ (s.current.2.cell s.current.1).CopyOf copy ∧
      copy.override entries = (t, none) ∧ r = .ok s.current.2.cells.length ∧
      u = { (s.current.2.alloc t).2 with
        override? := some s.current.2.cells.length, entered := s.override? :: s.entered } := by
  cases values with
  | map entries =>
      rw [enter.eq_def] at h
      dsimp only at h
      split at h
      · cases h
        exact Or.inl ⟨⟨_, rfl⟩, Or.inl rfl⟩
      · have hrun : (clone s.current.1 >>= fun new => override new entries >>= fun _ =>
            (modify fun t => { t with override? := some new, entered := s.override? :: t.entered }) >>=
              fun _ => (pure new : ConfigStep ConfigId)) s.current.2 = (r, u) := h
        have hentered : s.current.2.entered = s.entered := (ConfigStore.Keeps.current s).entered
        rcases bind_inv hrun with ⟨e, hclone, rfl⟩ | ⟨new, t, hclone, hrun⟩
        · obtain ⟨copy, rfl, -⟩ := clone_inv hclone
          exact Or.inl ⟨⟨e, rfl⟩, Or.inr ⟨copy, rfl⟩⟩
        obtain ⟨copy, rfl, ⟨e, ⟨⟩⟩ | ⟨hnew, hcopy⟩⟩ := clone_inv hclone
        cases hnew
        rcases bind_inv hrun with ⟨e, hoverride, rfl⟩ | ⟨_, t, hoverride, hrun⟩
        · obtain ⟨rfl, -⟩ := change_alloc_inv hoverride
          exact Or.inl ⟨⟨e, rfl⟩, Or.inr ⟨_, rfl⟩⟩
        · obtain ⟨rfl, ⟨e, ⟨⟩⟩ | ⟨-, hnone⟩⟩ := change_alloc_inv hoverride
          cases hrun
          refine Or.inr ⟨entries, copy, _, rfl, hcopy, Prod.ext rfl hnone, rfl, ?_⟩
          rw [← hentered]
          rfl
  | _ =>
      cases h
      exact Or.inl ⟨⟨_, rfl⟩, Or.inl rfl⟩

theorem enter_error_keeps {values : Value} {e : Failure} (h : enter values s = (.error e, u)) :
    s.Keeps u ∧ u.run? = s.run? := by
  obtain ⟨-, rfl | ⟨t, rfl⟩⟩ | ⟨_, _, _, -, -, -, ⟨⟩, -⟩ := enter_inv h
  · exact ⟨.refl u, rfl⟩
  · exact ⟨(ConfigStore.Keeps.current s).trans (.alloc _ t), s.run?_current⟩

theorem known_inv {r : Except Failure ConfigId} (h : known id s = (r, u)) :
    u = s ∧ ((∃ e, r = .error e) ∨ r = .ok id ∧ id < s.cells.length) := by
  have hrun : (if id < s.cells.length then pure id else throw .outOfRange : ConfigStep ConfigId) s =
      (r, u) := h
  split at hrun
  · cases hrun
    exact ⟨rfl, Or.inr ⟨rfl, ‹_›⟩⟩
  · cases hrun
    exact ⟨rfl, Or.inl ⟨_, rfl⟩⟩

end ConfigStep

/-! ## Building -/

namespace Timeouts

variable {t u : Timeouts} {entries : List (Value × Value)}

/-- The timeouts with all overrides, or the fault of the first override that has one. -/
def overrideAll (t : Timeouts) (entries : List (Value × Value)) : Except Failure Timeouts :=
  match t.override entries with
  | (u, none) => .ok u
  | (_, some e) => .error e

theorem overrideAll_eq_ok : t.overrideAll entries = .ok u ↔ t.override entries = (u, none) := by
  rw [overrideAll]
  obtain ⟨v, _ | e⟩ := t.override entries <;> simp

/-- What is built, wherever it is kept. -/
def built (name : Option String) (overrides appDefaults : Value) : Except Failure Timeouts := do
  let base ← ofPreset name
  let changed ← base.overrideAll (← optionalEntries overrides)
  if name = some usualPreset then changed.overrideAll (← appOverrides appDefaults)
  else return changed

theorem appOverrides_of_not_truthy {appDefaults : Value} (h : appDefaults.truthy = false) :
    appOverrides appDefaults = .ok [] := by
  cases appDefaults with
  | map entries =>
      obtain rfl : entries = [] := by simpa [Value.truthy] using h
      rfl
  | _ => simp [appOverrides, optionalEntries, h]; rfl

end Timeouts

namespace ConfigStep

variable {s t u : ConfigStore} {id : ConfigId} {name : Option String} {overrides appDefaults : Value}

/-- Nothing was made since, or one more configuration. -/
def MadeAtMostOne (s t : ConfigStore) : Prop := t = s ∨ ∃ c, t = (s.alloc c).2

/-- A step ends with a new configuration that has this content, or fails as this does. -/
def Yields (s : ConfigStore) (r : Except Failure Timeouts) (x : Except Failure ConfigId × ConfigStore) : Prop :=
  match r with
  | .ok t => x = (.ok s.cells.length, (s.alloc t).2)
  | .error e => x.1 = .error e ∧ MadeAtMostOne s x.2

namespace Yields

/-- Overriding a new configuration, and what is done with it then. -/
theorem override_bind {c : Timeouts} {entries : List (Value × Value)} {f : Timeouts → Except Failure Timeouts}
    {rest : Unit → ConfigStep ConfigId} (h : ∀ d, Yields s (f d) (rest () (s.alloc d).2)) :
    Yields s (c.overrideAll entries >>= f) ((override s.cells.length entries >>= rest) (s.alloc c).2) := by
  have hrun : override s.cells.length entries (s.alloc c).2 = _ := change_alloc_run c _ s
  rw [Timeouts.overrideAll]
  cases hentries : c.override entries with
  | mk d fault =>
      rw [hentries] at hrun
      cases fault with
      | none =>
          rw [bind_ok hrun]
          exact h d
      | some e =>
          rw [bind_error hrun]
          exact ⟨rfl, Or.inr ⟨d, rfl⟩⟩

theorem ofExcept_bind {α : Type} {o : Except Failure α} {f : α → Except Failure Timeouts}
    {rest : α → ConfigStep ConfigId} (ht : MadeAtMostOne s t) (h : ∀ a, Yields s (f a) (rest a t)) :
    Yields s (o >>= f) ((ofExcept o >>= rest) t) := by
  have hrun := ofExcept_run o t
  cases o with
  | error e =>
      rw [bind_error hrun]
      exact ⟨rfl, ht⟩
  | ok a =>
      rw [bind_ok hrun]
      exact h a

end Yields

theorem build_yields (name : Option String) (overrides appDefaults : Value) (s : ConfigStore) :
    Yields s (Timeouts.built name overrides appDefaults) (build name overrides appDefaults s) := by
  have hmade : ∀ c : Timeouts, MadeAtMostOne s (s.alloc c).2 := fun c => Or.inr ⟨c, rfl⟩
  refine .ofExcept_bind (Or.inl rfl) fun base => ?_
  refine .ofExcept_bind (hmade base) fun entries => ?_
  refine .override_bind fun changed => ?_
  have hdone : Yields s (.ok changed) ((pure s.cells.length : ConfigStep ConfigId) (s.alloc changed).2) := rfl
  by_cases hname : name = some Timeouts.usualPreset
  · rw [if_pos hname]
    cases htrue : appDefaults.truthy with
    | false =>
        rw [Timeouts.appOverrides_of_not_truthy htrue]
        exact hdone
    | true =>
        rw [if_pos (by simp [hname])]
        refine .ofExcept_bind (hmade changed) fun more => ?_
        rw [← bind_pure (Timeouts.overrideAll changed more)]
        exact .override_bind fun u => rfl
  · rw [if_neg hname, if_neg (by simp [hname])]
    exact hdone

theorem build_inv {r : Except Failure ConfigId} (h : build name overrides appDefaults s = (r, u)) :
    MadeAtMostOne s u := by
  have hyields := build_yields name overrides appDefaults s
  rw [h] at hyields
  cases hbuilt : Timeouts.built name overrides appDefaults with
  | ok t =>
      rw [hbuilt] at hyields
      exact Or.inr ⟨t, congrArg Prod.snd hyields⟩
  | error e =>
      rw [hbuilt] at hyields
      exact hyields.2

theorem built_of_build_ok (h : build name overrides appDefaults s = (.ok id, u)) :
    ∃ t, Timeouts.built name overrides appDefaults = .ok t ∧ u = (s.alloc t).2 := by
  have hyields := build_yields name overrides appDefaults s
  rw [h] at hyields
  cases hbuilt : Timeouts.built name overrides appDefaults with
  | ok t =>
      rw [hbuilt] at hyields
      exact ⟨t, rfl, congrArg Prod.snd hyields⟩
  | error e =>
      rw [hbuilt] at hyields
      cases hyields.1

end ConfigStep

/-! ## Calls -/

namespace ConfigCall

variable {s u : ConfigStore} {r : Except Failure Unit}

/-- A call keeps what there was. What is in force for the run changes only when nothing fails, and then it
is a configuration that there is. -/
theorem run_inv {c : ConfigCall} (h : c.run s = (r, u)) :
    s.Keeps u ∧ (u.run? = s.run? ∨ r = .ok () ∧ ∀ id ∈ u.run?, id < u.cells.length) := by
  have hmade := fun t => (ConfigStore.Keeps.current s).trans (.alloc s.current.2 t)
  have hpreset : ∀ name, ConfigStep.applyPreset name s = (r, u) →
      s.Keeps u ∧ (u.run? = s.run? ∨ r = .ok () ∧ ∀ id ∈ u.run?, id < u.cells.length) := by
    intro name h
    obtain ⟨t, ⟨-, rfl⟩ | ⟨rfl, rfl⟩⟩ := ConfigStep.applyPreset_inv h
    · exact ⟨hmade t, Or.inl s.run?_current⟩
    · exact ⟨(hmade t).install _, Or.inr ⟨rfl, by simp [ConfigStore.install, ConfigStore.alloc]⟩⟩
  cases c with
  | current =>
      cases h
      exact ⟨.current s, Or.inl s.run?_current⟩
  | install id =>
      rcases bind_inv h with ⟨e, hknown, rfl⟩ | ⟨id', t, hknown, hrun⟩
      · obtain ⟨rfl, -⟩ := ConfigStep.known_inv hknown
        exact ⟨.refl u, Or.inl rfl⟩
      · obtain ⟨rfl, ⟨e, ⟨⟩⟩ | ⟨hid', hid⟩⟩ := ConfigStep.known_inv hknown
        cases hid'
        cases hrun
        exact ⟨(ConfigStore.Keeps.refl t).install id, Or.inr ⟨rfl, by simpa [ConfigStore.install] using hid⟩⟩
  | clearRun =>
      cases h
      exact ⟨(ConfigStore.Keeps.refl s).clearRun, Or.inr ⟨rfl, by simp [ConfigStore.clearRun]⟩⟩
  | applyPreset name => exact hpreset name h
  | applyCi => exact hpreset _ h
  | applyLocal => exact hpreset _ h
  | build preset overrides appDefaults =>
      have hbuilt : ∀ {r : Except Failure ConfigId},
          ConfigStep.build preset overrides appDefaults s = (r, u) → s.Keeps u ∧ u.run? = s.run? := by
        intro r h
        obtain rfl | ⟨t, rfl⟩ := ConfigStep.build_inv h
        · exact ⟨.refl u, rfl⟩
        · exact ⟨.alloc s t, rfl⟩
      rcases bind_inv h with ⟨e, hbuild, -⟩ | ⟨id, t, hbuild, hrun⟩
      · exact (hbuilt hbuild).imp id Or.inl
      · cases hrun
        exact (hbuilt hbuild).imp (fun h => h) Or.inl
  | clone id =>
      have hcloned : ∀ {t} {r : Except Failure ConfigId}, ConfigStep.clone id s = (r, t) →
          s.Keeps t ∧ t.run? = s.run? := by
        intro t r h
        obtain ⟨copy, rfl, -⟩ := ConfigStep.clone_inv h
        exact ⟨.alloc s copy, rfl⟩
      rcases bind_inv h with ⟨e, hknown, rfl⟩ | ⟨id', t, hknown, hrun⟩
      · obtain ⟨rfl, -⟩ := ConfigStep.known_inv hknown
        exact ⟨.refl u, Or.inl rfl⟩
      obtain ⟨rfl, ⟨e, ⟨⟩⟩ | ⟨hid', -⟩⟩ := ConfigStep.known_inv hknown
      cases hid'
      rcases bind_inv hrun with ⟨e, hclone, -⟩ | ⟨copy, v, hclone, hend⟩
      · exact (hcloned hclone).imp (fun h => h) Or.inl
      · cases hend
        exact (hcloned hclone).imp (fun h => h) Or.inl

end ConfigCall

end ElementFinder
