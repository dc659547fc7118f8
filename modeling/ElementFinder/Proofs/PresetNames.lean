import ElementFinder.Proofs.BuiltTimeouts

/-!
# Names of presets

Letter case does not count in the name of a preset, and an empty name stands for the usual preset. The same is built
for all names of a preset, but for one case: the defaults of an object map count only on the usual preset, and they
count there only if its name is given as it stands.
-/

namespace ElementFinder

open Run

/-- Two values are equal as data, whichever comes first. -/
def Value.Equal (v w : Value) : Prop := v = w ∨ v.sameKey w = true ∧ w.sameKey v = true

theorem Value.Equal.symm {v w : Value} (h : v.Equal w) : w.Equal v := h.imp Eq.symm And.symm

namespace Timeouts

variable {t u : Timeouts} {a b name : Option String} {overrides appDefaults : Value}
  {entries : List (Value × Value)} {r r' : Except Failure Timeouts}

/-- The timeouts are equal as data. -/
def Equal (t u : Timeouts) : Prop := ∀ f, (t.get f).Equal (u.get f)

/-- Either both results are timeouts, which are equal as data, or both are failures of one kind. -/
def Agree : Except Failure Timeouts → Except Failure Timeouts → Prop
  | .ok t, .ok u => t.Equal u
  | .error e, .error e' => e.kindName = e'.kindName
  | _, _ => False

theorem Agree.refl (r : Except Failure Timeouts) : Agree r r := by
  cases r with
  | error e => exact rfl
  | ok t => exact fun f => Or.inl rfl

theorem Agree.symm (h : Agree r r') : Agree r' r := by
  cases r <;> cases r'
  · exact Eq.symm h
  · exact h
  · exact h
  · exact fun f => (h f).symm

theorem Agree.comm : Agree r r' ↔ Agree r' r := ⟨.symm, .symm⟩

/-! ## Names with the same key -/

/-- Names with the same key stand for the same preset, or for none. -/
theorem ofPreset_of_key_eq (h : presetKey a = presetKey b) : ofPreset a = ofPreset b ∨
    ∃ text text', ofPreset a = .error (.value text) ∧ ofPreset b = .error (.value text') := by
  rw [ofPreset, ofPreset, h]
  cases presets.find? (·.1 == presetKey b) with
  | none => exact Or.inr ⟨_, _, rfl, rfl⟩
  | some p => exact Or.inl rfl

theorem built_agree (h : presetKey a = presetKey b) (husual : a = some usualPreset ↔ b = some usualPreset)
    (overrides appDefaults : Value) :
    Agree (built a overrides appDefaults) (built b overrides appDefaults) := by
  rw [built, built]
  rcases ofPreset_of_key_eq h with hsame | ⟨text, text', ha, hb⟩
  · simp only [hsame, husual]
    exact .refl _
  · rw [ha, hb]
    exact rfl

/-! ## The usual preset under another name -/

theorem appOverride_ok {f : TimeoutField} {key : String} {defaults : List (Value × Value)}
    (h : appOverride f key defaults = .ok entries) : ∃ x, entries = secondsEntry f x := by
  rw [appOverride] at h
  split at h
  · cases h
    exact ⟨none, rfl⟩
  · split at h
    · obtain ⟨x, -, h⟩ := except_bind_ok.mp h
      cases h
      exact ⟨some (x / 1000.0), rfl⟩
    · cases h
      exact ⟨none, rfl⟩

theorem appOverrides_ok (h : appOverrides appDefaults = .ok entries) :
    ∃ find optional, entries = secondsEntries find optional := by
  obtain ⟨defaults, -, h⟩ := except_bind_ok.mp h
  obtain ⟨_, hfind, h⟩ := except_bind_ok.mp h
  obtain ⟨_, hoptional, h⟩ := except_bind_ok.mp h
  obtain ⟨x, rfl⟩ := appOverride_ok hfind
  obtain ⟨y, rfl⟩ := appOverride_ok hoptional
  cases h
  exact ⟨x, y, rfl⟩

theorem equal_of_override_iff (h : t.override entries = (u, none)) :
    u.Equal t ↔ ∀ f v, given? f entries = some v → v.Equal (t.get f) := by
  constructor
  · intro hequal f v hv
    have hf := hequal f
    rwa [override_get h, hv] at hf
  · intro hgiven f
    rw [override_get h]
    cases hv : given? f entries with
    | none => exact Or.inl rfl
    | some v => exact hgiven f v hv

/-- The usual timeouts with overrides. -/
def usualWith (overrides : Value) : Except Failure Timeouts := do
  usual.overrideAll (← optionalEntries overrides)

/-- The timeouts are already what the defaults of an object map give. -/
def Follows (t : Timeouts) (appDefaults : Value) : Prop :=
  ∃ entries, appOverrides appDefaults = .ok entries ∧ ∀ f v, given? f entries = some v → v.Equal (t.get f)

theorem follows_iff_agree (t : Timeouts) (appDefaults : Value) :
    t.Follows appDefaults ↔ Agree (appOverrides appDefaults >>= t.overrideAll) (.ok t) := by
  rw [Follows]
  cases hentries : appOverrides appDefaults with
  | error e => exact iff_of_false nofun id
  | ok entries =>
      obtain ⟨find, optional, rfl⟩ := appOverrides_ok hentries
      obtain ⟨u, hu⟩ := exists_override_seconds find optional t
      show _ ↔ Agree (t.overrideAll _) (.ok t)
      rw [overrideAll_eq_ok.mpr hu]
      show _ ↔ u.Equal t
      rw [equal_of_override_iff hu]
      simp

theorem built_usual (h : presetKey name = presetKey (some usualPreset)) (overrides appDefaults : Value) :
    built name overrides appDefaults = usualWith overrides >>= fun t =>
      if name = some usualPreset then appOverrides appDefaults >>= t.overrideAll else .ok t := by
  have hpreset : ofPreset name = .ok usual := by
    rw [ofPreset, h]
    rfl
  rw [built, hpreset, usualWith, bind_assoc]
  rfl

theorem agree_usual_iff (h : presetKey name = presetKey (some usualPreset)) (hname : name ≠ some usualPreset) :
    Agree (built (some usualPreset) overrides appDefaults) (built name overrides appDefaults) ↔
      ∀ t, usualWith overrides = .ok t → t.Follows appDefaults := by
  rw [built_usual h, built_usual rfl]
  simp only [if_neg hname, if_true]
  cases usualWith overrides with
  | error e => exact iff_of_true rfl nofun
  | ok t =>
      simp only [Except.ok.injEq, forall_eq']
      exact (follows_iff_agree t appDefaults).symm

end Timeouts

/-! ## Main result -/

/-- The timeouts of a configuration that is built, whatever else is in the store. -/
def ConfigStep.builtIn (s : ConfigStore) (name : Option String) (overrides appDefaults : Value) :
    Except Failure Timeouts :=
  ((build name overrides appDefaults >>= read) s).1

theorem ConfigStep.builtIn_eq (s : ConfigStore) (name : Option String) (overrides appDefaults : Value) :
    builtIn s name overrides appDefaults = Timeouts.built name overrides appDefaults := by
  have hyields := build_yields name overrides appDefaults s
  rw [builtIn]
  cases hbuilt : Timeouts.built name overrides appDefaults with
  | ok t =>
      rw [hbuilt] at hyields
      rw [bind_ok hyields]
      exact congrArg Except.ok (s.cell_alloc t)
  | error e =>
      rw [hbuilt] at hyields
      rw [bind_error (Prod.ext hyields.1 rfl)]

/-- Two names that are alike build the same exactly if both of them or none are the name of the usual preset as it
stands, or the defaults of the object map give only what is there already. -/
theorem alike_names_build_the_same_iff {a b : Option String} (h : Timeouts.presetKey a = Timeouts.presetKey b)
    (overrides appDefaults : Value) (s s' : ConfigStore) :
    Timeouts.Agree (ConfigStep.builtIn s a overrides appDefaults) (ConfigStep.builtIn s' b overrides appDefaults) ↔
      (a = some Timeouts.usualPreset ↔ b = some Timeouts.usualPreset) ∨
        ∀ t, Timeouts.usualWith overrides = .ok t → t.Follows appDefaults := by
  rw [ConfigStep.builtIn_eq, ConfigStep.builtIn_eq]
  by_cases ha : a = some Timeouts.usualPreset <;> by_cases hb : b = some Timeouts.usualPreset
  · exact iff_of_true (Timeouts.built_agree h (iff_of_true ha hb) _ _) (Or.inl (iff_of_true ha hb))
  · subst ha
    rw [Timeouts.agree_usual_iff h.symm hb]
    simp [hb]
  · subst hb
    rw [Timeouts.Agree.comm, Timeouts.agree_usual_iff h ha]
    simp [ha]
  · exact iff_of_true (Timeouts.built_agree h (iff_of_false ha hb) _ _) (Or.inl (iff_of_false ha hb))

theorem alike_names_build_the_same_iff_fast :
    Timeouts.Agree (ConfigStep.builtIn {} (some "FAST") (.map mixedOverrides) (.map nineSeconds))
      (ConfigStep.builtIn {} (some "fast") (.map mixedOverrides) (.map nineSeconds)) :=
  (alike_names_build_the_same_iff (by decide) _ _ _ _).mpr (Or.inl (by decide))

/-- The object map sets nine seconds for finding an element. They count for one name of the usual preset, but not for
another. -/
theorem other_name_hides_app_timeouts :
    Timeouts.presetKey (some "Default") = Timeouts.presetKey (some "default") ∧
      ∃ t u, ConfigStep.builtIn {} (some "default") (.map []) (.map nineSeconds) = .ok t ∧
        ConfigStep.builtIn {} (some "Default") (.map []) (.map nineSeconds) = .ok u ∧
        t.findElement = .float 9.0 ∧ u.findElement = .float 17.0 ∧ ¬t.Equal u := by
  have hoverrides : Timeouts.AreOverrides [] := ⟨by simp, by simp, .nil⟩
  have hknown : Timeouts.KnownPreset (some "default") ∧ Timeouts.KnownPreset (some "Default") := by decide
  obtain ⟨t, ht, htimes⟩ := Timeouts.built_layered hknown.1 hoverrides fitsDouble_nineSeconds
  obtain ⟨u, hu, hutimes⟩ := Timeouts.built_layered hknown.2 hoverrides fitsDouble_nineSeconds
  have htfind : t.findElement = .float 9.0 := by
    refine (htimes .findElement).trans ?_
    rw [Timeouts.layered, if_pos (by decide), appLayer_nineSeconds]
    rfl
  have hufind : u.findElement = .float 17.0 := (hutimes .findElement).trans rfl
  refine ⟨by decide, t, u, by rw [ConfigStep.builtIn_eq, ht], by rw [ConfigStep.builtIn_eq, hu], htfind, hufind,
    fun h => ?_⟩
  have hfind : t.findElement.Equal u.findElement := h .findElement
  rw [htfind, hufind] at hfind
  rcases hfind with hsame | ⟨hsame, -⟩
  · exact absurd (Value.float.inj hsame) (by decide)
  · exact absurd hsame (by decide)

end ElementFinder
