import ElementFinder.Proofs.Entries
import ElementFinder.Proofs.Written

/-!
# Orderly results

What is wrong with data that somebody wrote is answered as a failure of the configuration. A result is
orderly if it is a success or such a failure. The fields of selectors are read in an orderly way, but for
values that cannot be put into words and for doubles without bound.
-/

namespace ElementFinder

variable {α β : Type} {x : Except Failure α} {f : Failure}

/-- The failure says what is wrong with a configuration. -/
def Failure.IsConfig : Failure → Prop
  | .config _ => True
  | _ => False

/-- The result is a success or the failure of a configuration. -/
def Orderly (r : Except Failure α) : Prop := ∀ f, r = .error f → f.IsConfig

/-- The result is no success exactly on a condition, and then it is not orderly. -/
abbrev StraysWhen (p : Prop) (r : Except Failure α) : Prop := FailsWhen (¬·.IsConfig) p r

namespace Orderly

theorem ok (a : α) : Orderly (.ok a) := by
  rintro f ⟨⟩

theorem error_iff : Orderly (.error f : Except Failure α) ↔ f.IsConfig := by
  constructor
  · intro h
    exact h f rfl
  · rintro h _ ⟨rfl⟩
    exact h

theorem bind_iff {k : α → Except Failure β} :
    Orderly (x >>= k) ↔ Orderly x ∧ ∀ a, x = .ok a → Orderly (k a) := by
  cases x with
  | ok a =>
      constructor
      · intro h
        refine ⟨ok a, ?_⟩
        rintro _ ⟨rfl⟩
        exact h
      · intro h
        exact h.2 a rfl
  | error e => exact error_iff.trans (error_iff.symm.trans (and_iff_left nofun).symm)

theorem map_iff {g : α → β} : Orderly (x.map g) ↔ Orderly x :=
  forall_congr' fun _ => imp_congr_left except_map_error

/-- An orderly refusal with words that have to be found. -/
theorem refusal_iff {refuse : α → Failure} (h : ∀ a, (refuse a).IsConfig) :
    Orderly (x >>= fun a => (.error (refuse a) : Except Failure β)) ↔ Orderly x :=
  bind_iff.trans (and_iff_left fun a _ => error_iff.mpr (h a))

/-- A list is gone through in an orderly way exactly if each of its items is that is come to. -/
theorem mapM_iff {g : α → Except Failure β} {l : List α} :
    Orderly (l.mapM g) ↔ ∀ before a after, l = before ++ a :: after →
      (∀ b ∈ before, ∃ c, g b = .ok c) → Orderly (g a) := by
  induction l with
  | nil => exact iff_of_true (ok []) fun before _ _ h => by cases before <;> cases h
  | cons first rest ih =>
      have hrest (b : β) : Orderly (rest.mapM g >>= fun bs => pure (b :: bs)) ↔ Orderly (rest.mapM g) :=
        bind_iff.trans (and_iff_left fun bs _ => ok (b :: bs))
      rw [List.mapM_cons, bind_iff]
      constructor
      · rintro ⟨hfirst, hafter⟩ before a after hsplit hbefore
        cases before with
        | nil =>
            cases hsplit
            exact hfirst
        | cons _ before =>
            cases hsplit
            obtain ⟨⟨b, hb⟩, hbefore⟩ := List.forall_mem_cons.mp hbefore
            exact ih.mp ((hrest b).mp (hafter b hb)) before a after rfl hbefore
      · intro h
        refine ⟨h [] first rest rfl nofun, fun b hb => (hrest b).mpr (ih.mpr ?_)⟩
        rintro before a after rfl hbefore
        exact h (first :: before) a after rfl (List.forall_mem_cons.mpr ⟨⟨b, hb⟩, hbefore⟩)

/-- What can only fail in another way than that of a configuration is orderly when it does not fail. -/
theorem iff_of_strays {p : Prop} (h : StraysWhen p x) : Orderly x ↔ ¬p := by
  cases h with
  | ok hp => exact iff_of_true (ok _) hp
  | error he hp => exact iff_of_false (fun ho => he (ho _ rfl)) (not_not_intro hp)

end Orderly

open Orderly

/-! ## Fields -/

namespace Value

theorem writeOrFail_strays (v : Value) : StraysWhen v.HoldsTooLong v.writeOrFail :=
  v.write_writtenUnless.mapError fun _ _ => id

theorem displayOrFail_strays (v : Value) : StraysWhen v.HoldsTooLong v.displayOrFail :=
  v.display_writtenUnless.mapError fun _ _ => id

theorem writeOrFail_orderly_iff (v : Value) : Orderly v.writeOrFail ↔ ¬v.HoldsTooLong :=
  iff_of_strays v.writeOrFail_strays

theorem displayOrFail_orderly_iff (v : Value) : Orderly v.displayOrFail ↔ ¬v.HoldsTooLong :=
  iff_of_strays v.displayOrFail_strays

/-- The value is a double without bound. -/
inductive IsInfinite : Value → Prop
  | float {x : Float} : Binary.ofFloat? x = none → x.isNaN = false → IsInfinite (.float x)

/-- The value is no integer, and it cannot be put into words. -/
def IsUnspeakable (v : Value) : Prop := v.HoldsTooLong ∧ ∀ n, v ≠ .int n

theorem fieldInteger_cases (v : Value) :
    v.IsInfinite ∧ v.fieldInteger = .error .overflow ∨
    ¬v.IsInfinite ∧ ¬v.IsUnspeakable ∧ (∃ n, v.fieldInteger = .ok (some n)) ∨
    ¬v.IsInfinite ∧ (v.IsUnspeakable ↔ v.HoldsTooLong) ∧ v.fieldInteger = .ok none := by
  have hplain : (∀ n, v ≠ .int n) → (v.IsUnspeakable ↔ v.HoldsTooLong) := and_iff_left
  cases v with
  | int n =>
      refine Or.inr (Or.inl ⟨by rintro ⟨⟩, ?_, n, rfl⟩)
      rintro ⟨-, h⟩
      exact h n rfl
  | float x =>
      have hwords : ¬(Value.float x).IsUnspeakable := by rintro ⟨⟨⟩, -⟩
      rw [fieldInteger, toInteger]
      · cases hb : Binary.ofFloat? x with
        | some b =>
            refine Or.inr (Or.inl ⟨?_, hwords, _, rfl⟩)
            rintro ⟨h, -⟩
            cases hb.symm.trans h
        | none =>
            cases hnan : x.isNaN with
            | false => exact Or.inl ⟨⟨hb, hnan⟩, rfl⟩
            | true =>
                refine Or.inr (Or.inr ⟨?_, hplain (by rintro _ ⟨⟩), rfl⟩)
                rintro ⟨-, h⟩
                cases hnan.symm.trans h
      · rintro _ ⟨⟩
  | text s =>
      have hfinite : ¬(Value.text s).IsInfinite := by rintro ⟨⟩
      have hwords : ¬(Value.text s).IsUnspeakable := by rintro ⟨⟨⟩, -⟩
      cases hread : Numeral.read? s with
      | some n => exact Or.inr (Or.inl ⟨hfinite, hwords, n, congrArg Except.ok hread⟩)
      | none => exact Or.inr (Or.inr ⟨hfinite, hplain (by rintro _ ⟨⟩), congrArg Except.ok hread⟩)
  | bytes bs =>
      have hfinite : ¬(Value.bytes bs).IsInfinite := by rintro ⟨⟩
      have hwords : ¬(Value.bytes bs).IsUnspeakable := by rintro ⟨⟨⟩, -⟩
      cases hread : integerOfBytes? bs with
      | some n => exact Or.inr (Or.inl ⟨hfinite, hwords, n, congrArg Except.ok hread⟩)
      | none => exact Or.inr (Or.inr ⟨hfinite, hplain (by rintro _ ⟨⟩), congrArg Except.ok hread⟩)
  | _ => exact Or.inr (Or.inr ⟨by rintro ⟨⟩, hplain (by rintro _ ⟨⟩), rfl⟩)

end Value

theorem readInteger_orderly_iff (place : String) (v : Value) :
    Orderly (readInteger place v) ↔ ¬(v.IsInfinite ∨ v.IsUnspeakable) := by
  rw [readInteger_eq, not_or]
  obtain ⟨hinf, hread⟩ | ⟨hinf, hwords, n, hread⟩ | ⟨hinf, hwords, hread⟩ := v.fieldInteger_cases
  · rw [hread]
    exact iff_of_false (fun h => h _ rfl) fun h => h.1 hinf
  · rw [hread]
    exact iff_of_true (ok n) ⟨hinf, hwords⟩
  · rw [hread, and_iff_right hinf, hwords, ← v.displayOrFail_orderly_iff]
    exact refusal_iff fun _ => trivial

theorem readBool_orderly_iff (place : String) (v : Value) :
    Orderly (readBool place v) ↔ ¬v.HoldsTooLong := by
  have hrefused : ∀ shown, ((SelectorFault.notBool shown).failure place).IsConfig := fun _ => trivial
  cases v with
  | bool b =>
      refine iff_of_true (ok b) ?_
      rintro ⟨⟩
  | _ => exact (refusal_iff hrefused).trans (Value.displayOrFail_orderly_iff _)

/-- A field that is neither an anchor nor the descendants has a value with which it fails for another
reason than its form. -/
def FieldKey.Escapes (v : Value) : FieldKey → Prop
  | .text | .id | .index | .enabled | .selected | .focused => v.HoldsTooLong
  | .width | .height | .tolerance => v.IsInfinite ∨ v.IsUnspeakable
  | .anchor _ | .descendants => False

theorem FieldKey.not_escapes_null (key : FieldKey) : ¬key.Escapes .null := by
  rintro h
  cases key with
  | anchor r => exact h
  | descendants => exact h
  | width => exact h.elim nofun nofun
  | height => exact h.elim nofun nofun
  | tolerance => exact h.elim nofun nofun
  | _ => exact nomatch (h : Value.null.HoldsTooLong)

theorem readField_orderly_iff (key : FieldKey) (place : String) (v : Value) :
    Orderly (Selector.readField key place v) ↔ ¬key.Escapes v := by
  cases key with
  | text => exact map_iff.trans v.writeOrFail_orderly_iff
  | id => exact map_iff.trans v.writeOrFail_orderly_iff
  | index => exact map_iff.trans v.writeOrFail_orderly_iff
  | width => exact map_iff.trans (readInteger_orderly_iff place v)
  | height => exact map_iff.trans (readInteger_orderly_iff place v)
  | tolerance => exact map_iff.trans (readInteger_orderly_iff place v)
  | enabled => exact map_iff.trans (readBool_orderly_iff place v)
  | selected => exact map_iff.trans (readBool_orderly_iff place v)
  | focused => exact map_iff.trans (readBool_orderly_iff place v)
  | anchor r => exact iff_of_true (ok id) id
  | descendants => exact iff_of_true (ok id) id

end ElementFinder
