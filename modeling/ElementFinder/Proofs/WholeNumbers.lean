import ElementFinder.Proofs.ChosenNode
import ElementFinder.Proofs.FieldSources
import ElementFinder.Proofs.Numerals

/-!
# Whole numbers in selector data

A whole number may be given as an integer or as a double without a fraction. A size or a tolerance is the
number in both cases. An index is the written form of what is given, and that of a double is no numeral: it
stands for the first candidate, whatever the number is.
-/

namespace ElementFinder

/-! ## Whole numbers as values of fields -/

/-- The value is accepted as an integer, and equals it. -/
def Value.IsInteger (v : Value) (n : Int) : Prop := v.isWhole = true ∧ v.sameKey (.int n) = true

section

variable {v : Value} {n : Int}

theorem Value.IsInteger.cases (h : v.IsInteger n) :
    v = .int n ∨ ∃ x b, v = .float x ∧ Binary.ofFloat? x = some b ∧ b.truncate = n := by
  obtain ⟨hwhole, hsame⟩ := h
  cases v with
  | int m =>
      obtain rfl : m = n := by simpa [sameKey, numeric?, Number.same] using hsame
      exact Or.inl rfl
  | float x =>
      simp only [sameKey, numeric?, Number.same, Number.sameWhole] at hsame
      split at hsame
      · next b hb =>
        obtain ⟨-, rfl⟩ : b.isIntegral = true ∧ b.truncate = n := by simpa using hsame
        exact Or.inr ⟨x, b, rfl, hb, rfl⟩
      · cases hsame
  | _ => cases hwhole

theorem Value.IsInteger.isNull_eq (h : v.IsInteger n) : v.isNull = false := by
  obtain rfl | ⟨x, b, rfl, -, -⟩ := h.cases <;> rfl

theorem Value.IsInteger.readInteger (h : v.IsInteger n) (place : String) : readInteger place v = .ok n := by
  have hfield : v.fieldInteger = .ok (some n) := by
    obtain rfl | ⟨x, b, rfl, hb, rfl⟩ := h.cases
    · rfl
    · simp only [fieldInteger, toInteger, hb]
  rw [readInteger_eq, hfield]
  rfl

end

theorem EntryKind.ofKey_name (k : FieldKey) : EntryKind.ofKey (.text k.name) = .field k k.name := by
  cases k with
  | anchor r => cases r <;> rfl
  | _ => rfl

/-- A field other than the text is what the value of its name says, if that is not null. -/
theorem Selector.get_of_mem {strict : Bool} {place : String} {entries : List (Value × Value)} {s : Selector}
    {v : Value} {k : FieldKey} (hapart : NamesApart entries)
    (hs : ofValue strict place (.map entries) = .ok s) (hmem : (.text k.name, v) ∈ entries)
    (hnull : v.isNull = false) (htext : k ≠ .text) {a : k.Content}
    (ha : readContent strict place v k = .ok a) : s.get k = some a := by
  refine get_of_apart hapart hs hmem htext ?_ (says_of_readContent ha)
  simp [target, EntryKind.ofKey_name, hnull]

/-! ## Positions of whole numbers -/

section

variable {i : String} {candidates : List Node} {n : Int}

theorem pick_at (hi : i ≠ "") (h : candidates ≠ []) :
    pick candidates (some i) = .ok candidates[positionOf i candidates.length]? := by
  have hlt := positionOf_lt (List.length_pos_iff.mpr h) i
  have hgiven : (some i).filter (!·.isEmpty) = some i := by simp [Option.filter_some, hi]
  rw [List.getElem?_eq_getElem hlt]
  exact (pick_positioned hgiven).mpr (List.getElem?_eq_getElem hlt)

theorem pick_first (hi : i ≠ "") (hread : Numeral.read? i = none) (h : candidates ≠ []) :
    pick candidates (some i) = .ok candidates.head? := by
  rw [pick_at hi h, positionOf_of_unread hread, List.head?_eq_getElem?]

theorem Numeral.ne_empty_of_read (h : read? i = some n) : i ≠ "" := by
  rintro rfl
  cases h

/-- Candidates that can be told apart. -/
def candidatesUpTo (count : Nat) : List Node :=
  (List.range count).map fun k => { id := k }

theorem length_candidatesUpTo (count : Nat) : (candidatesUpTo count).length = count := by
  simp [candidatesUpTo]

theorem getElem?_candidatesUpTo {k count : Nat} (h : k < count) :
    (candidatesUpTo count)[k]? = some { id := k } := by
  simp [candidatesUpTo, h]

/-- A numeral picks the first one of all lists of candidates only if it is that of zero. Otherwise its position
is another one if there are just enough candidates to reach it. -/
theorem picks_first_iff (hread : Numeral.read? i = some n) :
    (∀ candidates ≠ [], pick candidates (some i) = .ok candidates.head?) ↔ n = 0 := by
  have hi := Numeral.ne_empty_of_read hread
  constructor
  · intro hfirst
    by_contra hn
    have hlength := length_candidatesUpTo (n.natAbs + 1)
    have hne : candidatesUpTo (n.natAbs + 1) ≠ [] := List.ne_nil_of_length_eq_add_one hlength
    have hposition : 0 < positionOf i (n.natAbs + 1) ∧ positionOf i (n.natAbs + 1) < n.natAbs + 1 := by
      rw [positionOf_of_read hread]
      split_ifs <;> omega
    have hsame := hfirst _ hne
    rw [pick_at hi hne, hlength, getElem?_candidatesUpTo hposition.2, List.head?_eq_getElem?,
      getElem?_candidatesUpTo (by omega)] at hsame
    have hid := congrArg Node.id (Option.some.inj (Except.ok.inj hsame))
    exact absurd hid (Nat.ne_of_gt hposition.1)
  · rintro rfl candidates h
    rw [pick_at hi h, positionOf_of_read hread, List.head?_eq_getElem?]
    simp

/-- The written form of a double picks the first candidate. -/
theorem pick_of_double {x : Float} {b : Binary} (hb : Binary.ofFloat? x = some b) (h : candidates ≠ []) :
    pick candidates (some (Decimal.text x)) = .ok candidates.head? := by
  have hne : Decimal.text x ≠ "" := by
    obtain ⟨c, -, hmem⟩ := Decimal.exists_mem_text hb
    intro heq
    rw [heq] at hmem
    cases hmem
  exact pick_first hne (Decimal.read?_text hb) h

end

/-! ## Main result -/

open Selector

/-- A whole number that is given for a size or the tolerance is the size or the tolerance. Given for the index it
picks what its numeral picks, unless it is a double and not zero. A double picks the first candidate. -/
theorem index_is_its_number_iff {strict : Bool} {place : String} {entries : List (Value × Value)}
    {s : Selector} (hapart : NamesApart entries) (hs : ofValue strict place (.map entries) = .ok s)
    {v : Value} {n : Int} (hv : v.IsInteger n) :
    ((.text "width", v) ∈ entries → s.criteria.width = some n) ∧
    ((.text "height", v) ∈ entries → s.criteria.height = some n) ∧
    ((.text "tolerance", v) ∈ entries → s.criteria.tolerance = some n) ∧
    ((.text "index", v) ∈ entries → n.natAbs < Nat.pow 10 Numeral.digitLimit →
      (v ≠ .int n → ∀ candidates ≠ [], pick candidates s.index = .ok candidates.head?) ∧
      ((∀ candidates ≠ [], pick candidates s.index = pick candidates (some (toString n))) ↔
        v = .int n ∨ n = 0)) := by
  refine ⟨fun hmem => ?_, fun hmem => ?_, fun hmem => ?_, fun hmem hlimit => ?_⟩
  · exact get_of_mem (k := .width) hapart hs hmem hv.isNull_eq (by decide) (hv.readInteger place)
  · exact get_of_mem (k := .height) hapart hs hmem hv.isNull_eq (by decide) (hv.readInteger place)
  · exact get_of_mem (k := .tolerance) hapart hs hmem hv.isNull_eq (by decide) (hv.readInteger place)
  have hindex : ∀ text, v.writeOrFail = .ok text → s.index = some text := fun _ =>
    get_of_mem (k := .index) hapart hs hmem hv.isNull_eq (by decide)
  have hnumeral := Numeral.read?_toString hlimit
  obtain rfl | ⟨x, b, rfl, hb, -⟩ := hv.cases
  · have hwrite : (Value.int n).writeOrFail = .ok (toString n) := by
      change (Numeral.write n).mapError Failure.numeral = .ok (toString n)
      rw [Numeral.write, if_pos hlimit]
      rfl
    rw [hindex _ hwrite]
    exact ⟨fun hne => absurd rfl hne, iff_of_true (fun _ _ => rfl) (Or.inl rfl)⟩
  · have hfirst : ∀ candidates ≠ [], pick candidates s.index = .ok candidates.head? := fun candidates h => by
      rw [hindex (Decimal.text x) rfl]
      exact pick_of_double hb h
    refine ⟨fun _ => hfirst, ?_⟩
    -- The double does not pick by its number, so both agree only if the number picks the first one as well.
    rw [or_iff_right (by simp), ← picks_first_iff hnumeral]
    refine forall₂_congr fun candidates h => ?_
    rw [hfirst candidates h, eq_comm]

/-- A selector with an index that is an integer and a width that is a double. -/
def lastSave : List (Value × Value) :=
  [(.text "text", .text "Save"), (.text "index", .int (-1)), (.text "width", .float 40.0)]

theorem index_is_its_number_iff_save :
    ∃ s, ofValue true "selectors.save" (.map lastSave) = .ok s ∧ NamesApart lastSave ∧
      (Value.int (-1)).IsInteger (-1) ∧ (Value.float 40.0).IsInteger 40 ∧ s.criteria.width = some 40 ∧
      ∀ candidates ≠ [], pick candidates s.index = pick candidates (some "-1") := by
  have hapart : NamesApart lastSave := by simp [NamesApart, lastSave]
  have hinteger : (Value.int (-1)).IsInteger (-1) := ⟨rfl, rfl⟩
  have hdouble : (Value.float 40.0).IsInteger 40 := ⟨by decide +kernel, by decide +kernel⟩
  have hread : (ofValue true "selectors.save" (.map lastSave)).toOption.map (·.index) = some (some "-1") := by
    decide +kernel
  obtain ⟨s, hs, -⟩ := toOption_map_eq_some_iff.mp hread
  obtain ⟨hwidth, -⟩ := index_is_its_number_iff hapart hs hdouble
  obtain ⟨-, -, -, hindex⟩ := index_is_its_number_iff hapart hs hinteger
  have hlimit : (-1 : Int).natAbs < Nat.pow 10 Numeral.digitLimit :=
    Nat.lt_of_lt_of_le (show 1 < Nat.pow 10 1 by decide) (ten_pow_le (by decide))
  exact ⟨s, hs, hapart, hinteger, hdouble, hwidth (by simp [lastSave]),
    (hindex (by simp [lastSave]) hlimit).2.mpr (Or.inl rfl)⟩

/-- The index is one, and the first of two candidates is picked. -/
theorem double_index_picks_first :
    let row : List (Value × Value) := [(.text "text", .text "Save"), (.text "index", .float 1.0)]
    let candidates : List Node := [{ id := 0 }, { id := 1 }]
    (Value.float 1.0).IsInteger 1 ∧
    ∃ s, ofValue true "selectors.row" (.map row) = .ok s ∧
      pick candidates s.index = .ok (some { id := 0 }) ∧
      pick candidates (some (toString (1 : Int))) = .ok (some { id := 1 }) := by
  intro row candidates
  have hindex : (ofValue true "selectors.row" (.map row)).toOption.map (·.index) = some (some "1.0") := by
    decide +kernel
  obtain ⟨s, hs, hindex⟩ := toOption_map_eq_some_iff.mp hindex
  exact ⟨⟨by decide +kernel, by decide +kernel⟩, s, hs, hindex ▸ rfl, rfl⟩

end ElementFinder
