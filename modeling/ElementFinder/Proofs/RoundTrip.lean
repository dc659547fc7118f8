import ElementFinder.Proofs.Entries
import ElementFinder.Selector.Data

/-!
# Selectors from their own data

The mapping that stands for a selector is read as that selector. An entry is written for each field
that is set, also for an empty text or a zero, and reading it sets this field and no other.
-/

namespace ElementFinder

namespace Selector

variable {strict textGiven : Bool} {place name : String} {s t u : Selector}

/-- The entry for the descendants, if there are any. -/
def descendantsEntry : List Selector → List (Value × Value)
  | [] => []
  | d :: rest => [(.text "containsDescendants", .list (toValues (d :: rest)))]

theorem toValue_eq (c : Criteria) (index : Option String)
    (b1 b2 b3 b4 b5 b6 b7 : Option Selector) (ds : List Selector) :
    toValue ⟨c, index, ⟨b1, b2, b3, b4, b5, b6, b7⟩, ds⟩ =
      .map (c.entries ++ entryOf "index" index .text
        ++ anchorEntry "below" b1 ++ anchorEntry "above" b2 ++ anchorEntry "leftOf" b3
        ++ anchorEntry "rightOf" b4 ++ anchorEntry "childOf" b5 ++ anchorEntry "containsChild" b6
        ++ anchorEntry "insideOf" b7 ++ descendantsEntry ds) := by
  cases ds <;> rfl

theorem isNull_toValue (s : Selector) : s.toValue.isNull = false := by
  obtain ⟨c, index, ⟨b1, b2, b3, b4, b5, b6, b7⟩, ds⟩ := s
  rw [toValue_eq]
  rfl

/-- Some entries make one selector into another one. -/
def Reads (strict textGiven : Bool) (place : String) (entries : List (Value × Value))
    (s t : Selector) : Prop :=
  ofEntries strict place textGiven entries s = .ok t

namespace Reads

theorem append {xs ys : List (Value × Value)} (hx : Reads strict textGiven place xs s t)
    (hy : Reads strict textGiven place ys t u) :
    Reads strict textGiven place (xs ++ ys) s u := by
  rw [Reads, ofEntries_append, hx]
  exact hy

theorem single {key value : Value} {f : Selector → Selector}
    (h : readEntry strict place textGiven key value = .ok f) :
    Reads strict textGiven place [(key, value)] s (f s) := by
  rw [Reads, ofEntries_cons, h]
  rfl

/-- A field that is not set has no entry, and one that is set is read from its entry. -/
theorem field {α : Type} {field : Option α} {write : α → Value}
    (hnone : field = none → t = s)
    (hsome : ∀ a, field = some a →
      ∃ f, readEntry strict place textGiven (.text name) (write a) = .ok f ∧ t = f s) :
    Reads strict textGiven place (entryOf name field write) s t := by
  cases field with
  | none => exact congrArg Except.ok (hnone rfl).symm
  | some a =>
      obtain ⟨f, hread, rfl⟩ := hsome a rfl
      exact single hread

/-- The entries for the conditions on a single element are read as these conditions. -/
theorem criteria (c : Criteria) :
    Reads strict textGiven place c.entries {} { criteria := c } := by
  obtain ⟨text, id, width, height, tolerance, enabled, selected, focused⟩ := c
  rw [Criteria.entries]
  refine .append (t := { criteria := ⟨text, id, width, height, tolerance, enabled, selected, none⟩ })
    (.append (t := { criteria := ⟨text, id, width, height, tolerance, enabled, none, none⟩ })
    (.append (t := { criteria := ⟨text, id, width, height, tolerance, none, none, none⟩ })
    (.append (t := { criteria := ⟨text, id, width, height, none, none, none, none⟩ })
    (.append (t := { criteria := ⟨text, id, width, none, none, none, none, none⟩ })
    (.append (t := { criteria := ⟨text, id, none, none, none, none, none, none⟩ })
    (.append (t := { criteria := ⟨text, none, none, none, none, none, none, none⟩ })
      ?_ ?_) ?_) ?_) ?_) ?_) ?_) ?_
  all_goals
    refine field ?_ ?_
    · rintro rfl
      rfl
    · rintro a rfl
      exact ⟨_, rfl, rfl⟩

theorem anchor {r : Relation} {b : Option Selector} (hnone : b = none → t = s)
    (hsome : ∀ a, b = some a → t = s.withAnchor r a)
    (hread : ∀ a, b = some a → ofValue strict (place ++ "." ++ r.name) a.toValue = .ok a) :
    Reads strict textGiven place (anchorEntry r.name b) s t := by
  cases b with
  | none => exact congrArg Except.ok (hnone rfl).symm
  | some a =>
      have hkey : EntryKind.ofKey (.text r.name) = .field (.anchor r) r.name := by
        cases r <;> rfl
      rw [hsome a rfl]
      refine single (f := fun s => s.withAnchor r a) ?_
      rw [readEntry, hkey]
      simp only [isNull_toValue, Bool.false_eq_true, ↓reduceIte, hread a rfl]
      rfl

/-- The entry for the descendants is read if each of them is read from its data. -/
theorem descendants {ds : List Selector} (hnone : ds = [] → t = s)
    (hsome : t = { s with descendants := ds })
    (hread : ofList strict (place ++ "." ++ "containsDescendants") 0 (toValues ds) = .ok ds) :
    Reads strict textGiven place (descendantsEntry ds) s t := by
  cases ds with
  | nil => exact congrArg Except.ok (hnone rfl).symm
  | cons d rest =>
      have hkey : EntryKind.ofKey (.text "containsDescendants") =
          .field .descendants "containsDescendants" := rfl
      have hitems : ofItems strict (place ++ "." ++ "containsDescendants")
          (.list (toValues (d :: rest))) = .ok (d :: rest) := hread
      rw [hsome]
      refine single (f := fun s => { s with descendants := d :: rest }) ?_
      rw [readEntry, hkey]
      simp only [Value.isNull, Bool.false_eq_true, ↓reduceIte, hitems]
      rfl

end Reads

mutual

/-- A selector is read from its own data, wherever the data stands. -/
theorem ofValue_toValue (strict : Bool) :
    ∀ (s : Selector) (place : String), ofValue strict place s.toValue = .ok s
  | ⟨c, index, ⟨b1, b2, b3, b4, b5, b6, b7⟩, ds⟩, place => by
    rw [toValue_eq, ofValue]
    generalize givesText _ = textGiven
    have hindex : Reads strict textGiven place (entryOf "index" index .text)
        ⟨c, none, {}, []⟩ ⟨c, index, {}, []⟩ :=
      .field (by rintro rfl; rfl) (by rintro a rfl; exact ⟨_, rfl, rfl⟩)
    have hbelow : Reads strict textGiven place (anchorEntry "below" b1)
        ⟨c, index, {}, []⟩ ⟨c, index, ⟨b1, none, none, none, none, none, none⟩, []⟩ :=
      .anchor (r := .below) (by rintro rfl; rfl) (by rintro a rfl; rfl) (ofValue_anchor strict b1 _)
    have habove : Reads strict textGiven place (anchorEntry "above" b2)
        ⟨c, index, ⟨b1, none, none, none, none, none, none⟩, []⟩
        ⟨c, index, ⟨b1, b2, none, none, none, none, none⟩, []⟩ :=
      .anchor (r := .above) (by rintro rfl; rfl) (by rintro a rfl; rfl) (ofValue_anchor strict b2 _)
    have hleft : Reads strict textGiven place (anchorEntry "leftOf" b3)
        ⟨c, index, ⟨b1, b2, none, none, none, none, none⟩, []⟩
        ⟨c, index, ⟨b1, b2, b3, none, none, none, none⟩, []⟩ :=
      .anchor (r := .leftOf) (by rintro rfl; rfl) (by rintro a rfl; rfl) (ofValue_anchor strict b3 _)
    have hright : Reads strict textGiven place (anchorEntry "rightOf" b4)
        ⟨c, index, ⟨b1, b2, b3, none, none, none, none⟩, []⟩
        ⟨c, index, ⟨b1, b2, b3, b4, none, none, none⟩, []⟩ :=
      .anchor (r := .rightOf) (by rintro rfl; rfl) (by rintro a rfl; rfl) (ofValue_anchor strict b4 _)
    have hchild : Reads strict textGiven place (anchorEntry "childOf" b5)
        ⟨c, index, ⟨b1, b2, b3, b4, none, none, none⟩, []⟩
        ⟨c, index, ⟨b1, b2, b3, b4, b5, none, none⟩, []⟩ :=
      .anchor (r := .childOf) (by rintro rfl; rfl) (by rintro a rfl; rfl) (ofValue_anchor strict b5 _)
    have hcontains : Reads strict textGiven place (anchorEntry "containsChild" b6)
        ⟨c, index, ⟨b1, b2, b3, b4, b5, none, none⟩, []⟩
        ⟨c, index, ⟨b1, b2, b3, b4, b5, b6, none⟩, []⟩ :=
      .anchor (r := .containsChild) (by rintro rfl; rfl) (by rintro a rfl; rfl)
        (ofValue_anchor strict b6 _)
    have hinside : Reads strict textGiven place (anchorEntry "insideOf" b7)
        ⟨c, index, ⟨b1, b2, b3, b4, b5, b6, none⟩, []⟩
        ⟨c, index, ⟨b1, b2, b3, b4, b5, b6, b7⟩, []⟩ :=
      .anchor (r := .insideOf) (by rintro rfl; rfl) (by rintro a rfl; rfl) (ofValue_anchor strict b7 _)
    have hdescendants : Reads strict textGiven place (descendantsEntry ds)
        ⟨c, index, ⟨b1, b2, b3, b4, b5, b6, b7⟩, []⟩ ⟨c, index, ⟨b1, b2, b3, b4, b5, b6, b7⟩, ds⟩ :=
      .descendants (by rintro rfl; rfl) rfl (ofList_toValues strict ds _ 0)
    exact (Reads.criteria c).append hindex |>.append hbelow |>.append habove |>.append hleft
      |>.append hright |>.append hchild |>.append hcontains |>.append hinside |>.append hdescendants

theorem ofValue_anchor (strict : Bool) :
    ∀ (b : Option Selector) (place : String) (a : Selector),
      b = some a → ofValue strict place a.toValue = .ok a
  | none, _, _, h => nomatch h
  | some b, place, _, h => by
    cases h
    exact ofValue_toValue strict b place

theorem ofList_toValues (strict : Bool) :
    ∀ (ds : List Selector) (place : String) (i : Nat), ofList strict place i (toValues ds) = .ok ds
  | [], _, _ => rfl
  | d :: rest, place, i => by
    rw [toValues, ofList, ofValue_toValue strict d, ofList_toValues strict rest]
    rfl

end

end Selector

/-! ## Main result -/

open Selector

/-- The data of a selector is read as the selector, however strict the reading is and wherever the data
stands. So different selectors have different data, and to read data, write it and read it again gives
the same selector as to read it once. -/
theorem selector_is_read_from_its_data :
    (∀ (strict : Bool) (place : String) (s : Selector), ofValue strict place s.toValue = .ok s) ∧
    Function.Injective toValue ∧
    ∀ (strict : Bool) (place : String) (v : Value) (s : Selector), ofValue strict place v = .ok s →
      ∀ (again : Bool) (elsewhere : String), ofValue again elsewhere s.toValue = .ok s := by
  have hread := fun strict place s => ofValue_toValue strict s place
  refine ⟨hread, fun a b h => ?_, fun _ _ _ s _ again elsewhere => hread again elsewhere s⟩
  have hb := hread true "" b
  rw [← h, hread true "" a] at hb
  exact Except.ok.inj hb

end ElementFinder
