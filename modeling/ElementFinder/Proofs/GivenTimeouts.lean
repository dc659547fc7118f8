import ElementFinder.Proofs.FailedChanges

/-!
# Given timeouts

What overrides give for a kind of operation, and what becomes of it: a timeout in a mapping or a setting is
stored as it stands, and becomes a double only in the first copy. All other timeouts that are ever stored
are doubles.
-/

namespace ElementFinder

open Run

/-! ## Doubles among the values -/

namespace Value

/-- The value is a number, and the double that it is turned into is the same number. -/
def IsDouble (v : Value) : Prop :=
  v.numeric?.isSome ∧ ∃ x, v.toDouble = .ok x ∧ v.sameKey (.float x) = true

theorem toDouble_int (n : Int) : (int n).toDouble.toOption = doubleOfInt? n := by
  rw [toDouble.eq_def]
  dsimp only [numeric?, Number.toDouble?]
  cases doubleOfInt? n <;> rfl

theorem float_same_self (x : Float) : (x == x || (x.isNaN && x.isNaN)) = true := by
  show (x.toModel.unpack.beq x.toModel.unpack || (x.toModel.unpack.isNaN && x.toModel.unpack.isNaN)) = true
  cases x.toModel.unpack with
  | infinity sign => cases sign <;> rfl
  | notANumber => rfl
  | zero sign => cases sign <;> rfl
  | finite sign mantissa exponent hpos =>
      have hsame : (compare exponent exponent).then (compare mantissa mantissa) = .eq := by
        rw [Int.compare_eq_eq.mpr rfl, Nat.compare_eq_eq.mpr rfl]
        rfl
      cases sign with
      | negative =>
          show (some ((compare exponent exponent).then (compare mantissa mantissa)).swap == some .eq || false) = true
          rw [hsame]
          rfl
      | positive =>
          show (some ((compare exponent exponent).then (compare mantissa mantissa)) == some .eq || false) = true
          rw [hsame]
          rfl

theorem isDouble_float (x : Float) : IsDouble (.float x) := by
  refine ⟨rfl, x, rfl, ?_⟩
  rw [sameKey] <;> first | exact float_same_self x | nofun

/-- Only a number is the same as a double. -/
theorem isSome_numeric?_of_sameKey {v : Value} {x : Float} (h : v.sameKey (.float x) = true) :
    v.numeric?.isSome := by
  cases v with
  | bool | int | float => rfl
  | _ => rw [sameKey] at h <;> first | cases h | nofun

end Value

/-! ## What overrides give -/

namespace Timeouts

variable {t u copy : Timeouts} {f : TimeoutField} {P : Value → Prop} {entries : List (Value × Value)}

/-- What a number gives: the double that it stands for. -/
def givenNumber? (v : Value) : Option Value :=
  v.numeric?.bind fun _ => v.toDouble.toOption.map .float

/-- What an entry of overrides gives: a setting or the number in a mapping as it stands, and any other
number as a double. -/
def givenBy? : Value → Option Value
  | .setting t => some t
  | .map entries => (Value.field? timeoutKey entries).filter (!·.isNull)
  | v => givenNumber? v

/-- The kind that a key of overrides names. -/
def keyField? : Value → Option TimeoutField
  | .text name => TimeoutField.ofName? name
  | _ => none

/-- What overrides give for a kind: what the last entry for it gives. -/
def given? (f : TimeoutField) : List (Value × Value) → Option Value
  | [] => none
  | (key, v) :: rest => (given? f rest).or (if keyField? key = some f then givenBy? v else none)

theorem fieldOfKey_ok {key : Value} (h : fieldOfKey key = .ok f) : keyField? key = some f := by
  rw [fieldOfKey.eq_def] at h
  dsimp only at h
  split at h
  · next hfound =>
    cases h
    exact hfound
  · obtain ⟨_, _, h⟩ := except_bind_ok.mp h
    cases h

theorem overridden_ok {old v w : Value} (h : overridden f old v = .ok w) : w = (givenBy? v).getD old := by
  rw [overridden.eq_def] at h
  split at h
  · cases h
    rfl
  · next entries =>
    rw [givenBy?]
    rcases hv : Value.field? timeoutKey entries with _ | t
    · rw [hv] at h
      cases h
      rfl
    · rw [hv] at h
      cases t <;> (cases h; rfl)
  · next hsetting hmap =>
    have hgiven : givenBy? v = givenNumber? v := by
      cases v <;> first | rfl | exact absurd rfl (hsetting _) | exact absurd rfl (hmap _)
    rw [hgiven, givenNumber?]
    cases hn : v.numeric? with
    | none =>
        rw [hn] at h
        obtain ⟨_, _, h⟩ := except_bind_ok.mp h
        cases h
    | some n =>
        rw [hn] at h
        obtain ⟨x, hx, h⟩ := except_bind_ok.mp h
        cases h
        rw [hx]
        rfl

theorem override_get (h : t.override entries = (u, none)) :
    u.get f = (given? f entries).getD (t.get f) := by
  induction entries generalizing t with
  | nil =>
      cases h
      rfl
  | cons entry rest ih =>
      obtain ⟨key, v⟩ := entry
      rw [override] at h
      split at h
      · next t' hstep =>
        obtain ⟨g, hg, hstep⟩ := except_bind_ok.mp hstep
        obtain ⟨w, hw, rfl⟩ := except_map_ok.mp hstep
        rw [ih h, given?, fieldOfKey_ok hg, overridden_ok hw, get_set]
        cases given? f rest with
        | some _ => rfl
        | none =>
            by_cases hg : f = g
            · subst hg
              simp
            · simp [hg, Ne.symm hg]
      · cases h

theorem override_append {more : List (Value × Value)} (h : t.override entries = (u, none)) :
    t.override (entries ++ more) = u.override more := by
  induction entries generalizing t with
  | nil =>
      cases h
      rfl
  | cons entry rest ih =>
      obtain ⟨key, v⟩ := entry
      rw [override] at h
      rw [List.cons_append, override]
      split at h
      · next t' hstep => rw [ih h]
      · cases h

/-- All overrides of a configuration that is built: those of the caller, then those of an object map. -/
def overridesOfBuild (preset : Option String) (overrides appDefaults : Value) :
    Except Failure (List (Value × Value)) := do
  let entries ← optionalEntries overrides
  if appDefaults.truthy && preset == some usualPreset then return entries ++ (← appOverrides appDefaults)
  else return entries

/-! ## Contents with a property -/

/-- All timeouts have a property. -/
def All (P : Value → Prop) (t : Timeouts) : Prop := ∀ f, P (t.get f)

/-- All timeouts are doubles. -/
def Plain (t : Timeouts) : Prop := ∀ f, ∃ x, t.get f = .float x

theorem Plain.all (ht : t.Plain) (hP : ∀ x, P (.float x)) : t.All P := by
  intro f
  obtain ⟨x, hx⟩ := ht f
  exact hx ▸ hP x

theorem CopyOf.plain (h : CopyOf t copy) : copy.Plain := by
  intro f
  obtain ⟨x, -, hx⟩ := h f
  exact ⟨x, hx⟩

theorem plain_usual : usual.Plain := fun f => ⟨f.usual, by cases f <;> rfl⟩

theorem Plain.set (ht : t.Plain) (f : TimeoutField) (x : Float) : (t.set f (.float x)).Plain := by
  intro g
  rw [get_set]
  split
  · exact ⟨x, rfl⟩
  · exact ht g

theorem plain_ofPreset {name : Option String} (h : ofPreset name = .ok t) : t.Plain := by
  rw [ofPreset] at h
  split at h
  · next changes _ =>
    cases h
    exact List.foldlRecOn changes _ plain_usual fun t ht c _ => ht.set c.1 c.2
  · cases h

/-- Overriding doubles stores only what is given besides. -/
theorem Plain.override_all_iff (ht : t.Plain) (hP : ∀ x, P (.float x))
    (h : t.override entries = (u, none)) : u.All P ↔ ∀ f v, given? f entries = some v → P v := by
  constructor
  · intro hu f v hv
    have hf := hu f
    rwa [override_get h, hv] at hf
  · intro hgiven f
    rw [override_get h]
    cases hv : given? f entries with
    | none => exact ht.all hP f
    | some v => exact hgiven f v hv

/-! ## Copies that can be made -/

/-- All timeouts can be turned into doubles. -/
def Copyable (t : Timeouts) : Prop := t.All fun v => ∃ x, v.toDouble = .ok x

theorem CopyOf.copyable (h : CopyOf t copy) : t.Copyable := by
  intro f
  obtain ⟨x, hx, -⟩ := h f
  exact ⟨x, hx⟩

theorem Plain.copyable (ht : t.Plain) : t.Copyable := ht.all fun x => ⟨x, rfl⟩

/-- The timeouts of two configurations are equal as data. -/
def Same (t u : Timeouts) : Prop := ∀ f, (t.get f).sameKey (u.get f) = true

/-- A copy is equal exactly if there are doubles only. -/
theorem CopyOf.same_iff (h : CopyOf t copy) : t.Same copy ↔ t.All Value.IsDouble := by
  constructor
  · intro hsame f
    obtain ⟨x, hx, hcopy⟩ := h f
    have hf := hsame f
    rw [hcopy] at hf
    exact ⟨Value.isSome_numeric?_of_sameKey hf, x, hx, hf⟩
  · intro hdouble f
    obtain ⟨x, hx, hcopy⟩ := h f
    obtain ⟨-, y, hy, hsame⟩ := hdouble f
    cases hx.symm.trans hy
    rwa [hcopy]

theorem assignAll_fault (ht : t.Copyable)
    (hentries : ∀ f, Value.field? f.name entries = some (settingValue (t.get f)))
    (fields : List TimeoutField) (start : Timeouts) : (assignAll entries fields start).2 = none := by
  induction fields generalizing start with
  | nil => rfl
  | cons f fields ih =>
      obtain ⟨x, hx⟩ := ht f
      rw [assignAll, hentries, Option.getD_some, readSetting_settingValue, hx]
      exact ih _

theorem assign_fault (ht : t.Copyable) (start : Timeouts) : (start.assign t.toValue).2 = none :=
  assignAll_fault ht (fun f => by cases f <;> rfl) _ _

/-- Whether a timeout can be overridden does not depend on the old one. -/
theorem overridden_fault (f : TimeoutField) (old old' v : Value) :
    (overridden f old v).map (fun _ => ()) = (overridden f old' v).map (fun _ => ()) := by
  rw [overridden.eq_def, overridden.eq_def]
  split
  · rfl
  · split <;> rfl
  · rfl

theorem override_fault (t u : Timeouts) (entries : List (Value × Value)) :
    (t.override entries).2 = (u.override entries).2 := by
  induction entries generalizing t u with
  | nil => rfl
  | cons entry rest ih =>
      obtain ⟨key, v⟩ := entry
      rw [override, override]
      cases fieldOfKey key with
      | error e => rfl
      | ok f =>
          have hsame := overridden_fault f (t.get f) (u.get f) v
          have hbind (g : TimeoutField → Except Failure Timeouts) : (Except.ok f >>= g) = g f := rfl
          rw [hbind, hbind]
          cases ht : overridden f (t.get f) v <;> cases hu : overridden f (u.get f) v <;>
            rw [ht, hu] at hsame <;> cases hsame
          · rfl
          · exact ih _ _

end Timeouts

end ElementFinder
