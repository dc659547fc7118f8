import ElementFinder.Proofs.GivenTimeouts

/-!
# Stored timeouts

A program that makes, copies and overrides configurations stores doubles, and the timeouts that it gives in
mappings or as settings. So its configurations can be copied without a failure or a change exactly if each
timeout that it gives is a number that some double is.
-/

namespace ElementFinder

open Run

/-! ## What steps make -/

namespace ConfigStore

variable {s u : ConfigStore} {P : Value → Prop}

/-- All timeouts of all configurations have a property. -/
def All (P : Value → Prop) (s : ConfigStore) : Prop := ∀ t ∈ s.cells, t.All P

theorem current_made (s : ConfigStore) :
    ∃ made : List Timeouts, (∀ t ∈ made, t.Plain) ∧ s.current.2.cells = s.cells ++ made := by
  have hnone : ∃ made : List Timeouts, (∀ t ∈ made, t.Plain) ∧ s.cells = s.cells ++ made :=
    ⟨[], nofun, (List.append_nil _).symm⟩
  rw [current.eq_def]
  split
  · exact hnone
  · exact hnone
  · rw [default]
    split
    · exact hnone
    · exact ⟨[.usual], by simpa using Timeouts.plain_usual, rfl⟩

theorem All.cell (h : s.All P) (husual : Timeouts.usual.All P) (id : ConfigId) : (s.cell id).All P := by
  rw [ConfigStore.cell]
  cases hid : s.cells[id]? with
  | none => exact husual
  | some t => exact h t (List.mem_of_getElem? hid)

theorem All.current (h : s.All P) (hP : ∀ x, P (.float x)) :
    (s.current.2.cell s.current.1).All P := by
  obtain ⟨made, hmade, hcells⟩ := s.current_made
  refine All.cell ?_ (Timeouts.plain_usual.all hP) _
  intro t ht
  rw [hcells] at ht
  rcases List.mem_append.mp ht with ht | ht
  · exact h t ht
  · exact (hmade t ht).all hP

end ConfigStore

namespace ConfigStep

variable {s u : ConfigStore} {id : ConfigId} {name : Option String}

theorem applyPreset_ok_inv (h : applyPreset name s = (.ok (), u)) :
    ∃ t : Timeouts, t.Plain ∧ u.cells = s.current.2.cells ++ [t] := by
  rw [applyPreset, current_bind] at h
  obtain ⟨base, v, hclone, h⟩ := bind_inv_ok h
  obtain ⟨copy, rfl, ⟨e, ⟨⟩⟩ | ⟨hbase, -⟩⟩ := clone_inv hclone
  cases hbase
  obtain ⟨preset, v, hpreset, h⟩ := bind_inv_ok h
  obtain ⟨-, rfl⟩ := ofExcept_inv hpreset
  obtain ⟨_, v, hassign, h⟩ := bind_inv_ok h
  obtain ⟨rfl, ⟨e, ⟨⟩⟩ | ⟨-, hnone⟩⟩ := change_alloc_inv hassign
  cases h
  exact ⟨_, (Timeouts.copyOf_of_assign (Prod.ext rfl hnone)).plain, rfl⟩

theorem build_ok_inv {preset : Option String} {overrides appDefaults : Value}
    (h : build preset overrides appDefaults s = (.ok id, u)) :
    ∃ (base : Timeouts) (entries : List (Value × Value)) (t : Timeouts), base.Plain ∧
      Timeouts.overridesOfBuild preset overrides appDefaults = .ok entries ∧
      base.override entries = (t, none) ∧ u = (s.alloc t).2 := by
  obtain ⟨t, hbuilt, rfl⟩ := built_of_build_ok h
  obtain ⟨base, hpreset, hbuilt⟩ := except_bind_ok.mp hbuilt
  obtain ⟨entries, hentries, hbuilt⟩ := except_bind_ok.mp hbuilt
  obtain ⟨changed, hchanged, hbuilt⟩ := except_bind_ok.mp hbuilt
  rw [Timeouts.overrideAll_eq_ok] at hchanged
  rw [Timeouts.overridesOfBuild, hentries]
  by_cases husual : preset = some Timeouts.usualPreset
  · rw [if_pos husual] at hbuilt
    obtain ⟨more, hmore, hlast⟩ := except_bind_ok.mp hbuilt
    rw [Timeouts.overrideAll_eq_ok, ← Timeouts.override_append hchanged] at hlast
    refine ⟨base, entries ++ more, t, Timeouts.plain_ofPreset hpreset, ?_, hlast, rfl⟩
    show (if _ then _ else _) = _
    cases htrue : appDefaults.truthy with
    | true => rw [if_pos (by simp [husual]), hmore]; rfl
    | false =>
        rw [Timeouts.appOverrides_of_not_truthy htrue] at hmore
        cases hmore
        rw [List.append_nil]
        rfl
  · rw [if_neg husual] at hbuilt
    cases hbuilt
    refine ⟨base, entries, _, Timeouts.plain_ofPreset hpreset, ?_, hchanged, rfl⟩
    show (if _ then _ else _) = _
    rw [if_neg (by simp [husual])]
    rfl

theorem clone_ok (h : (s.cell id).Copyable) :
    ∃ copy, clone id s = (.ok s.cells.length, (s.alloc copy).2) ∧ (s.cell id).CopyOf copy := by
  have hrun : clone id s = (assign s.cells.length (s.cell id).toValue >>= fun _ =>
      (pure s.cells.length : ConfigStep ConfigId)) (s.alloc .usual).2 := by
    rw [← s.cell_alloc_usual id]
    rfl
  have hassign : assign s.cells.length (s.cell id).toValue (s.alloc .usual).2 =
      (.ok (), (s.alloc (Timeouts.usual.assign (s.cell id).toValue).1).2) := by
    rw [assign, change_run, s.cell_alloc, Timeouts.assign_fault h, s.update_alloc, ofFault]
  exact ⟨_, hrun.trans (bind_ok hassign),
    Timeouts.copyOf_of_assign (Prod.ext rfl (Timeouts.assign_fault h .usual))⟩

/-- A preset is refused only for its name, if there is nothing in force that cannot be copied. -/
theorem applyPreset_result (h : (s.current.2.cell s.current.1).Copyable) :
    (applyPreset name s).1 = (Timeouts.ofPreset name).map fun _ => () := by
  obtain ⟨copy, hclone, -⟩ := clone_ok h
  rw [applyPreset, current_bind, bind_ok hclone]
  cases hpreset : Timeouts.ofPreset name with
  | error e => rw [bind_error (rfl : ofExcept (.error e) _ = _)]; rfl
  | ok preset =>
      obtain ⟨t, hassign⟩ : ∃ t, assign s.current.2.cells.length preset.toValue
          (s.current.2.alloc copy).2 = (.ok (), t) := by
        rw [assign, change_run, Timeouts.assign_fault (Timeouts.plain_ofPreset hpreset).copyable, ofFault]
        exact ⟨_, rfl⟩
      rw [bind_ok (rfl : ofExcept (.ok preset) _ = _), bind_ok hassign]
      rfl

/-- What entering an override comes to, if there is nothing in force that cannot be copied. -/
def enterResult : Value → Except Failure Unit
  | .map entries =>
    if !entries.all (namesArgument ·.1) then .error .wrongType else ofFault (Timeouts.usual.override entries).2
  | _ => .error .wrongType

theorem enter_result (h : (s.current.2.cell s.current.1).Copyable) (values : Value) :
    (enter values s).1.map (fun _ => ()) = enterResult values := by
  cases values with
  | map entries =>
      rw [enter.eq_def, enterResult]
      dsimp only
      split
      · rfl
      · obtain ⟨copy, hclone, -⟩ := clone_ok h
        show ((clone s.current.1 >>= fun new => override new entries >>= fun _ =>
          (modify fun t => { t with override? := some new, entered := s.override? :: t.entered }) >>=
            fun _ => (pure new : ConfigStep ConfigId)) s.current.2).1.map _ = _
        rw [bind_ok hclone]
        obtain ⟨t, hoverride⟩ : ∃ t, override s.current.2.cells.length entries
            (s.current.2.alloc copy).2 = (ofFault (Timeouts.usual.override entries).2, t) := by
          rw [override, change_run, ConfigStore.cell_alloc, Timeouts.override_fault copy .usual]
          exact ⟨_, rfl⟩
        cases hfault : (Timeouts.usual.override entries).2 with
        | some e =>
            rw [hfault] at hoverride
            rw [bind_error hoverride]
            rfl
        | none =>
            rw [hfault] at hoverride
            rw [bind_ok hoverride]
            rfl
  | _ => rfl

end ConfigStep

/-! ## Programs -/

/-- A part of a program that does not fail: a call, an override that is entered or left, or a reset. -/
inductive ConfigAct where
  | call (c : ConfigCall)
  | enter (values : Value)
  | leave
  | reset

namespace ConfigAct

def run : ConfigAct → ConfigStep Unit
  | call c => c.run
  | enter values => do let _ ← ConfigStep.enter values
  | leave => ConfigStep.leave
  | reset => modify fun s => s.reset

/-- Runs the parts one after the other. -/
def runAll : List ConfigAct → ConfigStep Unit
  | [] => return ()
  | act :: rest => do
    act.run
    runAll rest

/-- What is given for a kind of operation. -/
def given? (f : TimeoutField) : ConfigAct → Option Value
  | call (.build preset overrides appDefaults) =>
    (Timeouts.overridesOfBuild preset overrides appDefaults).toOption.bind (Timeouts.given? f)
  | enter (.map entries) => Timeouts.given? f entries
  | _ => none

variable {s u : ConfigStore} {P : Value → Prop} {act : ConfigAct}

/-- What is made besides doubles is what is given. -/
def Makes (P : Value → Prop) (s u : ConfigStore) (given? : TimeoutField → Option Value) : Prop :=
  ∃ made : List Timeouts, u.cells = s.cells ++ made ∧
    ((∀ t ∈ made, t.All P) ↔ ∀ f v, given? f = some v → P v)

theorem makes_of_plain (hP : ∀ x, P (.float x)) {made : List Timeouts} (hmade : ∀ t ∈ made, t.Plain)
    (hcells : u.cells = s.cells ++ made) : Makes P s u fun _ => none :=
  ⟨made, hcells, iff_of_true (fun t ht => (hmade t ht).all hP) nofun⟩

theorem makes_nothing (hP : ∀ x, P (.float x)) (hcells : u.cells = s.cells) : Makes P s u fun _ => none :=
  makes_of_plain hP (List.forall_mem_nil _) (hcells.trans (List.append_nil _).symm)

theorem call_makes (hP : ∀ x, P (.float x)) {c : ConfigCall} (h : c.run s = (.ok (), u)) :
    Makes P s u fun f => (call c).given? f := by
  obtain ⟨current, hcurrent, hcells⟩ := s.current_made
  have hpreset : ∀ {name}, ConfigStep.applyPreset name s = (.ok (), u) → Makes P s u fun _ => none := by
    intro name h
    obtain ⟨t, ht, hmade⟩ := ConfigStep.applyPreset_ok_inv h
    have hplain : ∀ t' ∈ current ++ [t], t'.Plain := by
      intro t' ht'
      rcases List.mem_append.mp ht' with ht' | ht'
      · exact hcurrent t' ht'
      · exact List.mem_singleton.mp ht' ▸ ht
    exact makes_of_plain hP hplain (by rw [hmade, hcells, List.append_assoc])
  cases c with
  | current =>
      cases h
      exact makes_of_plain hP hcurrent hcells
  | install id =>
      obtain ⟨id', t, hknown, hrun⟩ := bind_inv_ok h
      obtain ⟨rfl, -⟩ := ConfigStep.known_inv hknown
      cases hrun
      exact makes_nothing hP rfl
  | clearRun =>
      cases h
      exact makes_nothing hP rfl
  | applyPreset name => exact hpreset h
  | applyCi => exact hpreset h
  | applyLocal => exact hpreset h
  | build preset overrides appDefaults =>
      obtain ⟨id, t, hbuild, hrun⟩ := bind_inv_ok h
      cases hrun
      obtain ⟨base, entries, t, hbase, hentries, hoverride, rfl⟩ := ConfigStep.build_ok_inv hbuild
      refine ⟨[t], rfl, ?_⟩
      simp only [List.forall_mem_singleton, given?, hentries]
      exact hbase.override_all_iff hP hoverride
  | clone id =>
      obtain ⟨id', t, hknown, hrun⟩ := bind_inv_ok h
      obtain ⟨rfl, -⟩ := ConfigStep.known_inv hknown
      obtain ⟨copy, v, hclone, hend⟩ := bind_inv_ok hrun
      cases hend
      obtain ⟨copy, rfl, ⟨e, ⟨⟩⟩ | ⟨-, hcopy⟩⟩ := ConfigStep.clone_inv hclone
      exact makes_of_plain hP (List.forall_mem_singleton.mpr hcopy.plain) rfl

theorem run_makes (hP : ∀ x, P (.float x)) (h : act.run s = (.ok (), u)) :
    Makes P s u fun f => act.given? f := by
  cases act with
  | call c => exact call_makes hP h
  | enter values =>
      obtain ⟨id, t, henter, hrun⟩ := bind_inv_ok h
      cases hrun
      obtain ⟨⟨_, ⟨⟩⟩, -⟩ | ⟨entries, copy, t, rfl, hcopy, hoverride, -, rfl⟩ := ConfigStep.enter_inv henter
      obtain ⟨current, hcurrent, hcells⟩ := s.current_made
      refine ⟨current ++ [t], ?_, ?_⟩
      · rw [← List.append_assoc, ← hcells]
        rfl
      · rw [List.forall_mem_append, List.forall_mem_singleton]
        exact (and_iff_right fun t ht => (hcurrent t ht).all hP).trans
          (hcopy.plain.override_all_iff hP hoverride)
  | leave =>
      obtain ⟨cells, default?, run?, override?, _ | ⟨before, rest⟩⟩ := s <;> cases h
      exact makes_nothing hP rfl
  | reset =>
      cases h
      exact makes_of_plain hP (List.forall_mem_singleton.mpr Timeouts.plain_usual) rfl

theorem run_all_iff (hP : ∀ x, P (.float x)) (h : act.run s = (.ok (), u)) :
    u.All P ↔ s.All P ∧ ∀ f v, act.given? f = some v → P v := by
  obtain ⟨made, hcells, hmade⟩ := run_makes hP h
  rw [ConfigStore.All, hcells, List.forall_mem_append, hmade]
  rfl

/-- All that is stored has a property of doubles exactly if all that is given has it. -/
theorem runAll_all_iff (hP : ∀ x, P (.float x)) {acts : List ConfigAct} (h : runAll acts s = (.ok (), u)) :
    u.All P ↔ s.All P ∧ ∀ act ∈ acts, ∀ f v, act.given? f = some v → P v := by
  induction acts generalizing s with
  | nil =>
      cases h
      simp
  | cons act rest ih =>
      obtain ⟨_, t, hrun, hrest⟩ := bind_inv_ok h
      rw [ih hrest, run_all_iff hP hrun, List.forall_mem_cons, and_assoc]

end ConfigAct

/-! ## Well-formed configurations -/

/-- All configurations are numbers that can be copied as they are. With any of them in force, a preset and
an override are refused only for what they are given. -/
structure ConfigStore.WellFormed (s : ConfigStore) : Prop where
  number : s.All fun v => v.numeric?.isSome
  clone : ∀ id < s.cells.length, ∃ copy u, ConfigStep.clone id s = (.ok copy, u) ∧
    (s.cell id).Same (u.cell copy)
  applyPreset : ∀ u : ConfigStore, u.cells = s.cells → ∀ name,
    (ConfigStep.applyPreset name u).1 = (ConfigStep.applyPreset name {}).1
  enter : ∀ u : ConfigStore, u.cells = s.cells → ∀ values,
    (ConfigStep.enter values u).1.map (fun _ => ()) = (ConfigStep.enter values {}).1.map fun _ => ()

theorem ConfigStore.wellFormed_iff {s : ConfigStore} : s.WellFormed ↔ s.All Value.IsDouble := by
  constructor
  · intro h t ht f
    obtain ⟨id, hid, rfl⟩ := List.mem_iff_getElem.mp ht
    have hcell : s.cell id = s.cells[id] := by rw [cell, List.getElem?_eq_getElem hid, Option.getD_some]
    obtain ⟨copy, u, hclone, hsame⟩ := h.clone id hid
    obtain ⟨c, rfl, ⟨e, ⟨⟩⟩ | ⟨hcopy, hcopyOf⟩⟩ := ConfigStep.clone_inv hclone
    cases hcopy
    rw [cell_alloc] at hsame
    rw [← hcell]
    exact hcopyOf.same_iff.mp hsame f
  · intro h
    have hcopyable : ∀ u : ConfigStore, u.cells = s.cells → (u.current.2.cell u.current.1).Copyable := by
      intro u hcells
      have hu : u.All Value.IsDouble := by rwa [All, hcells]
      intro f
      obtain ⟨-, x, hx, -⟩ := hu.current Value.isDouble_float f
      exact ⟨x, hx⟩
    have hstart : (ConfigStore.current {}).2.cell (ConfigStore.current {}).1 |>.Copyable :=
      Timeouts.plain_usual.copyable
    refine ⟨fun t ht f => (h t ht f).1, ?_, ?_, ?_⟩
    · intro id _
      have hid := h.cell (Timeouts.plain_usual.all Value.isDouble_float) id
      obtain ⟨copy, hclone, hcopy⟩ := ConfigStep.clone_ok fun f => (hid f).2.imp fun _ hx => hx.1
      refine ⟨_, _, hclone, ?_⟩
      rw [cell_alloc]
      exact hcopy.same_iff.mpr hid
    · intro u hcells name
      rw [ConfigStep.applyPreset_result (hcopyable u hcells), ConfigStep.applyPreset_result hstart]
    · intro u hcells values
      rw [ConfigStep.enter_result (hcopyable u hcells), ConfigStep.enter_result hstart]

/-- The configurations of a program stay well formed exactly if each timeout that it gives is a double. -/
theorem configs_stay_well_formed_iff {acts : List ConfigAct} {u : ConfigStore}
    (h : ConfigAct.runAll acts {} = (.ok (), u)) :
    u.WellFormed ↔ ∀ act ∈ acts, ∀ f v, act.given? f = some v → v.IsDouble := by
  rw [ConfigStore.wellFormed_iff, ConfigAct.runAll_all_iff Value.isDouble_float h]
  exact and_iff_right nofun

/-- A whole number is given in a mapping, and a double in an override of what is built from it. -/
def patientActs : List ConfigAct :=
  [.call (.build (some "default") (.map [(.text "find_quick", Timeouts.settingValue (.int 2))]) .null),
    .call (.install 0), .enter (.map [(.text "element_gone", .float 20.5)])]

theorem configs_stay_well_formed_iff_patient :
    ∃ u, ConfigAct.runAll patientActs {} = (.ok (), u) ∧ u.WellFormed := by
  have hgiven : ∀ act ∈ patientActs, ∀ f v, act.given? f = some v → v = .int 2 ∨ v = .float 20.5 := by
    intro act hact f v hv
    rw [patientActs, List.mem_cons, List.mem_cons, List.mem_singleton] at hact
    obtain rfl | rfl | rfl := hact <;> cases f <;> cases hv <;> simp
  obtain ⟨u, hu⟩ : ∃ u, ConfigAct.runAll patientActs {} = (.ok (), u) := ⟨_, rfl⟩
  refine ⟨u, hu, (configs_stay_well_formed_iff hu).mpr ?_⟩
  intro act hact f v hv
  obtain rfl | rfl := hgiven act hact f v hv
  · exact ⟨rfl, 2.0, rfl, rfl⟩
  · exact Value.isDouble_float _

/-- A text is stored as a timeout. -/
def waitingActs : List ConfigAct :=
  [.call (.build (some "default") (.map [(.text "find_element", Timeouts.settingValue (.text "soon"))]) .null)]

theorem text_is_stored_as_timeout :
    ∃ u, ConfigAct.runAll waitingActs {} = (.ok (), u) ∧ (u.cell 0).findElement = .text "soon" ∧
      (ConfigStep.clone 0 u).1 = .error (.value "could not convert string to float: 'soon'") ∧
      ¬u.WellFormed := by
  obtain ⟨u, hu, hstored, hclone⟩ : ∃ u, ConfigAct.runAll waitingActs {} = (.ok (), u) ∧
      (u.cell 0).findElement = .text "soon" ∧
      (ConfigStep.clone 0 u).1 = .error (.value "could not convert string to float: 'soon'") :=
    ⟨_, rfl, rfl, rfl⟩
  refine ⟨u, hu, hstored, hclone, fun h => ?_⟩
  have hnumber : (u.cell 0).findElement.numeric?.isSome :=
    h.number.cell (Timeouts.plain_usual.all fun _ => rfl) 0 .findElement
  rw [hstored] at hnumber
  cases hnumber

end ElementFinder
