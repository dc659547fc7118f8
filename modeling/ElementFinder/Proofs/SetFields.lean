import ElementFinder.Proofs.Matching
import Mathlib.Algebra.Order.Group.Unbundled.Int
import Mathlib.Data.List.Infix

/-!
# Set fields

A node matches if it meets each field that is set. An empty text or name counts as not set, but every node
would meet it. A size of zero counts as not set as well, and there it makes a difference. With more fields
set, or with a smaller tolerance, fewer nodes are left.
-/

namespace ElementFinder

/-! ## Single fields -/

theorem Text.contains_iff {text part : String} : Text.contains text part = true ↔ part.toList <:+: text.toList := by
  rw [Text.contains]
  induction text.toList with
  | nil => simp [occursIn]
  | cons c rest ih => simp [occursIn, List.infix_cons_iff, ih]

theorem withinTolerance_iff {actual expected tolerance : Int} :
    withinTolerance actual expected tolerance = true ↔ |actual - expected| ≤ tolerance := by
  rw [withinTolerance, decide_eq_true_iff, Int.abs_eq_natAbs]

/-- A size is within the tolerance if it is set, and one of zero is not looked at. -/
theorem sizeMeets_and_zero_iff {asked : Option Int} {actual tolerance : Int} :
    sizeMeets asked actual tolerance = true ∧ (asked = some 0 → |actual| ≤ tolerance) ↔
      ∀ n, asked = some n → |actual - n| ≤ tolerance := by
  cases asked with
  | none => simp [sizeMeets, givenSize?]
  | some n =>
      by_cases hzero : n = 0
      · subst hzero
        simp [sizeMeets, givenSize?, Option.filter_some]
      · simp [sizeMeets, givenSize?, Option.filter_some, hzero, withinTolerance_iff]

theorem stateMeets_iff {asked : Option Bool} {actual : Bool} :
    stateMeets asked actual = true ↔ ∀ b, asked = some b → actual = b := by
  cases asked with
  | none => simp [stateMeets]
  | some b => simp [stateMeets]

section

variable {asked x : String} {texts : List String}

theorem matchesText_eq_ok {b : Bool} : matchesText asked texts = .ok b ↔
    ∃ test, TextTest.ofText asked = .ok test ∧ texts.any test.accepts = b := by
  rw [matchesText, except_bind_ok]
  exact exists_congr fun test => and_congr_right fun _ => ⟨Except.ok.inj, congrArg Except.ok⟩

/-- Some texts match together if one of them does alone. -/
theorem matchesText_iff : matchesText asked texts = .ok true ↔ ∃ x ∈ texts, matchesText asked [x] = .ok true := by
  simp only [matchesText_eq_ok, List.any_eq_true, List.mem_singleton, exists_eq_left]
  constructor
  · rintro ⟨test, htest, x, hx, haccepts⟩
    exact ⟨x, hx, test, htest, haccepts⟩
  · rintro ⟨x, hx, test, htest, haccepts⟩
    exact ⟨test, htest, x, hx, haccepts⟩

/-- Every text matches the empty text. -/
theorem matchesText_empty (x : String) : matchesText "" [x] = .ok true := by
  refine matchesText_eq_ok.mpr ⟨.plain "", rfl, ?_⟩
  have hempty : (Text.lower "").toList = [] := by decide
  simp [TextTest.accepts, TextTest.containsAnyCase, Text.contains_iff, hempty]

end

namespace Criteria

variable {c c' : Criteria} {n : Node} {nodes : List Node}

theorem textMeets_iff : c.textMeets n.attributes = .ok true ↔
    ∀ t, c.text = some t → ∃ x ∈ n.attributes.texts, matchesText t [x] = .ok true := by
  rw [textMeets]
  cases c.text with
  | none => simp [givenText?]
  | some t =>
      by_cases hempty : t = ""
      · subst hempty
        simp [givenText?, Option.filter_some, matchesText_empty, Attributes.texts]
      · simp [givenText?, Option.filter_some, hempty, @matchesText_iff t n.attributes.texts]

theorem idMeets_iff : c.idMeets n.attributes = true ↔
    ∀ i, c.id = some i → i.toList <:+: n.attributes.name.toList := by
  rw [idMeets]
  cases c.id with
  | none => simp [givenText?]
  | some i =>
      by_cases hempty : i = ""
      · subst hempty
        simp [givenText?, Option.filter_some]
      · simp [givenText?, Option.filter_some, hempty, Text.contains_iff]

/-! ## All fields -/

/-- The node meets each field that is set. -/
structure SetFieldsMet (c : Criteria) (n : Node) : Prop where
  text : ∀ t, c.text = some t → ∃ x ∈ n.attributes.texts, matchesText t [x] = .ok true
  id : ∀ i, c.id = some i → i.toList <:+: n.attributes.name.toList
  width : ∀ w, c.width = some w → |n.bounds.width - w| ≤ c.effectiveTolerance
  height : ∀ h, c.height = some h → |n.bounds.height - h| ≤ c.effectiveTolerance
  enabled : ∀ b, c.enabled = some b → n.attributes.enabled = b
  selected : ∀ b, c.selected = some b → n.attributes.selected = b
  focused : ∀ b, c.focused = some b → n.attributes.focused = b

/-- The node meets a size that is set to zero. -/
def ZeroSizesMet (c : Criteria) (n : Node) : Prop :=
  (c.width = some 0 → |n.bounds.width| ≤ c.effectiveTolerance) ∧
    (c.height = some 0 → |n.bounds.height| ≤ c.effectiveTolerance)

theorem setFieldsMet_iff : c.SetFieldsMet n ↔ c.matchesNode n = .ok true ∧ c.ZeroSizesMet n := by
  rw [matchesNode_eq_true, restMeets_iff, textMeets_iff, idMeets_iff]
  simp only [stateMeets_iff]
  constructor
  · rintro ⟨htext, hid, hwidth, hheight, henabled, hselected, hfocused⟩
    obtain ⟨hwidth, hzeroWidth⟩ := sizeMeets_and_zero_iff.mpr hwidth
    obtain ⟨hheight, hzeroHeight⟩ := sizeMeets_and_zero_iff.mpr hheight
    exact ⟨⟨htext, hid, hwidth, hheight, henabled, hselected, hfocused⟩, hzeroWidth, hzeroHeight⟩
  · rintro ⟨⟨htext, hid, hwidth, hheight, henabled, hselected, hfocused⟩, hzeroWidth, hzeroHeight⟩
    exact ⟨htext, hid, sizeMeets_and_zero_iff.mp ⟨hwidth, hzeroWidth⟩,
      sizeMeets_and_zero_iff.mp ⟨hheight, hzeroHeight⟩, henabled, hselected, hfocused⟩

/-- A node is judged if the text that is set can be compared with its texts. -/
theorem exists_matchesNode (h : ∀ t, c.text = some t → ∃ b, matchesText t n.attributes.texts = .ok b) :
    ∃ b, c.matchesNode n = .ok b := by
  have htext : ∃ b, c.textMeets n.attributes = .ok b := by
    rw [textMeets]
    split
    · exact ⟨true, rfl⟩
    · next t ht => exact h t (Option.eq_some_of_filter_eq_some ht)
  obtain ⟨b, hb⟩ := htext
  exact ⟨_, except_bind_ok.mpr ⟨b, hb, rfl⟩⟩

/-! ## More fields -/

/-- What is set in the first is set to the same in the second, which may set more, and allows no greater
difference in size. -/
structure Narrows (c c' : Criteria) : Prop where
  text : ∀ t, c.text = some t → c'.text = some t
  id : ∀ i, c.id = some i → c'.id = some i
  width : ∀ w, c.width = some w → c'.width = some w
  height : ∀ h, c.height = some h → c'.height = some h
  tolerance : c'.effectiveTolerance ≤ c.effectiveTolerance
  enabled : ∀ b, c.enabled = some b → c'.enabled = some b
  selected : ∀ b, c.selected = some b → c'.selected = some b
  focused : ∀ b, c.focused = some b → c'.focused = some b

theorem sizeMeets_of_narrower {asked asked' : Option Int} {actual tolerance tolerance' : Int}
    (hasked : ∀ n, asked = some n → asked' = some n) (htolerance : tolerance' ≤ tolerance)
    (h : sizeMeets asked' actual tolerance' = true) : sizeMeets asked actual tolerance = true := by
  cases asked with
  | none => rfl
  | some n =>
      rw [hasked n rfl, sizeMeets] at h
      rw [sizeMeets]
      cases hgiven : givenSize? (some n) with
      | none => rfl
      | some m =>
          rw [hgiven] at h
          exact withinTolerance_iff.mpr (le_trans (withinTolerance_iff.mp h) htolerance)

theorem stateMeets_of_narrower {asked asked' : Option Bool} {actual : Bool}
    (hasked : ∀ b, asked = some b → asked' = some b) (h : stateMeets asked' actual = true) :
    stateMeets asked actual = true :=
  stateMeets_iff.mpr fun b hb => stateMeets_iff.mp h b (hasked b hb)

/-- What meets more meets less. -/
theorem Narrows.matchesNode (h : c.Narrows c') (hmatch : c'.matchesNode n = .ok true) :
    c.matchesNode n = .ok true := by
  rw [matchesNode_eq_true, restMeets_iff] at hmatch ⊢
  obtain ⟨htext, hid, hwidth, hheight, henabled, hselected, hfocused⟩ := hmatch
  refine ⟨?_, ?_, ?_, ?_, ?_, ?_, ?_⟩
  · exact textMeets_iff.mpr fun t ht => textMeets_iff.mp htext t (h.text t ht)
  · exact idMeets_iff.mpr fun i hi => idMeets_iff.mp hid i (h.id i hi)
  · exact sizeMeets_of_narrower h.width h.tolerance hwidth
  · exact sizeMeets_of_narrower h.height h.tolerance hheight
  · exact stateMeets_of_narrower h.enabled henabled
  · exact stateMeets_of_narrower h.selected hselected
  · exact stateMeets_of_narrower h.focused hfocused

theorem exists_filterNodes (h : ∀ n ∈ nodes, ∃ b, c.matchesNode n = .ok b) :
    c.filterNodes nodes = .ok (nodes.filter (passes c.matchesNode)) :=
  filterNodes_eq.trans (passing_eq_ok_iff.mpr ⟨h, rfl⟩)

end Criteria

/-! ## Main results -/

open Criteria

/-- A node is judged by the fields that are set, if the text can be compared: it meets them all exactly if it
matches and meets a size that is set to zero, which the match does not look at. -/
theorem set_fields_met_iff (c : Criteria) (n : Node)
    (htext : ∀ t, c.text = some t → ∃ b, matchesText t n.attributes.texts = .ok b) :
    ∃ b, c.matchesNode n = .ok b ∧ (c.SetFieldsMet n ↔ b = true ∧ c.ZeroSizesMet n) := by
  obtain ⟨b, hb⟩ := exists_matchesNode htext
  refine ⟨b, hb, ?_⟩
  rw [setFieldsMet_iff, hb, Except.ok.injEq]

/-- A button with a text, a name, and a width that is within the tolerance of what is asked for. -/
theorem set_fields_met_iff_save :
    let asked : Criteria := { text := some "save", id := some "", width := some 43, enabled := some true }
    let save : Node := { attributes := { label := "Save", name := "save", bounds := ⟨0, 0, 40, 20⟩ } }
    (∀ t, asked.text = some t → ∃ b, matchesText t save.attributes.texts = .ok b) ∧
      asked.matchesNode save = .ok true ∧ asked.SetFieldsMet save := by
  intro asked save
  have hmatch : (asked.matchesNode save).toOption = some true := by decide +kernel
  have htext : ∀ t, asked.text = some t → ∃ b, matchesText t save.attributes.texts = .ok b := by
    rintro _ ⟨⟩
    exact ⟨_, rfl⟩
  obtain ⟨b, hb, hiff⟩ := set_fields_met_iff asked save htext
  obtain rfl : b = true := by
    rw [hb] at hmatch
    exact Option.some_inj.mp hmatch
  exact ⟨htext, hb, hiff.mpr ⟨rfl, nofun, nofun⟩⟩

/-- A width of zero is set, and a node of another width matches. -/
theorem zero_width_is_not_met :
    let asked : Criteria := { width := some 0, tolerance := some 0 }
    let save : Node := { attributes := { label := "Save", bounds := ⟨0, 0, 40, 20⟩ } }
    asked.matchesNode save = .ok true ∧ ¬asked.SetFieldsMet save :=
  ⟨rfl, fun h => absurd (h.width 0 rfl) (by decide)⟩

/-- With more fields set, or with a smaller tolerance, some of the nodes that were found are left, in their
order. -/
theorem narrower_criteria_find_sublist {c c' : Criteria} (h : c.Narrows c') (nodes : List Node)
    (htext : ∀ n ∈ nodes, ∀ t, c'.text = some t → ∃ b, matchesText t n.attributes.texts = .ok b) :
    ∃ found found', c.filterNodes nodes = .ok found ∧ c'.filterNodes nodes = .ok found' ∧
      found'.Sublist found := by
  have hjudged : ∀ n ∈ nodes, ∃ b, c.matchesNode n = .ok b := fun n hn =>
    exists_matchesNode fun t ht => htext n hn t (h.text t ht)
  have hjudged' : ∀ n ∈ nodes, ∃ b, c'.matchesNode n = .ok b := fun n hn => exists_matchesNode (htext n hn)
  refine ⟨_, _, exists_filterNodes hjudged, exists_filterNodes hjudged', ?_⟩
  refine List.monotone_filter_right nodes fun n hn => ?_
  exact passes_iff.mpr (h.matchesNode (passes_iff.mp hn))

/-- A name is asked for as well, and three units are allowed in place of five. -/
theorem narrower_criteria_find_sublist_save :
    let asked : Criteria := { text := some "save", width := some 43 }
    let narrower : Criteria := { asked with id := some "save", tolerance := some 3 }
    let save : Node := { attributes := { label := "Save", name := "save", bounds := ⟨0, 0, 40, 20⟩ } }
    let saveAll : Node := { attributes := { label := "Save all", bounds := ⟨50, 0, 45, 20⟩ } }
    asked.Narrows narrower ∧
      (∀ n ∈ [saveAll, save], ∀ t, narrower.text = some t →
        ∃ b, matchesText t n.attributes.texts = .ok b) ∧
      ∃ found found', asked.filterNodes [saveAll, save] = .ok found ∧
        narrower.filterNodes [saveAll, save] = .ok found' ∧ found'.Sublist found := by
  intro asked narrower save saveAll
  have hnarrows : asked.Narrows narrower :=
    ⟨fun _ h => h, nofun, fun _ h => h, nofun, by decide, nofun, nofun, nofun⟩
  have htext : ∀ n ∈ [saveAll, save], ∀ t, narrower.text = some t →
      ∃ b, matchesText t n.attributes.texts = .ok b := by
    rintro n - _ ⟨⟩
    exact ⟨_, rfl⟩
  exact ⟨hnarrows, htext, narrower_criteria_find_sublist hnarrows [saveAll, save] htext⟩

end ElementFinder
