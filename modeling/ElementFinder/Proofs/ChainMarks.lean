import ElementFinder.Proofs.EventLines
import ElementFinder.Proofs.QuotedTexts

/-!
# Marks around conditions

The conditions of a class chain stand between two marks, and are read up to the next mark behind the first one. A
literal is written for the apostrophes around it, and such a mark in its text stands in it as it is. So the conditions
are read as a whole exactly if no text in them has a mark.
-/

namespace ElementFinder

open Query

/-! ## Characters of conditions -/

theorem Text.mem_joined {sep : String} {c : Char} (hsep : c ∉ sep.toList) (parts : List String) :
    c ∈ (joined sep parts).toList ↔ ∃ part ∈ parts, c ∈ part.toList := by
  induction parts with
  | nil => simp [joined]
  | cons part parts ih =>
      cases parts with
      | nil => simp [joined]
      | cons next parts =>
          rw [joined, String.toList_append, String.toList_append, List.mem_append, List.mem_append, or_iff_left hsep,
            ih, List.exists_mem_cons_iff _ part]

namespace Query

theorem mem_escaped {c : Char} (hc : c ≠ '\\') (cs : List Char) : c ∈ escaped cs ↔ c ∈ cs := by
  induction cs with
  | nil => rfl
  | cons d cs ih =>
      rw [escaped]
      split <;> simp [ih, hc]

theorem mem_literal {c : Char} (hslash : c ≠ '\\') (hmark : c ≠ literalMark) (text : String) :
    c ∈ (literal text).toList ↔ c ∈ text.toList := by
  rw [toList_literal, List.mem_cons, List.mem_append, List.mem_singleton, mem_escaped hslash]
  simp [hmark]

/-- The mark before and behind the conditions of a class chain. -/
def bracketMark : Char := '\x60'

end Query

namespace Clause

variable {clause : Clause}

theorem mark_mem_compare {name : String} (hname : bracketMark ∉ name.toList) (c : Comparison) (text : String) :
    bracketMark ∈ (compare name c text).toList ↔ bracketMark ∈ text.toList := by
  have hoperator : bracketMark ∉ c.operator.toList := by cases c <;> decide
  have hfront := not_mem_append (not_mem_append hname (b := " ") (by decide)) hoperator
  rw [compare, String.toList_append, List.mem_append, mem_literal (by decide) (by decide)]
  exact or_iff_right (not_mem_append hfront (by decide))

theorem mark_mem_anyOf {names : List String} (hnames : names ≠ [])
    (hplain : ∀ name ∈ names, bracketMark ∉ name.toList) (c : Comparison) (text : String) :
    bracketMark ∈ (anyOf names c text).write.toList ↔ bracketMark ∈ text.toList := by
  obtain ⟨name, hname⟩ := List.exists_mem_of_ne_nil names hnames
  have hparts : (∃ part ∈ names.map fun name => compare name c text, bracketMark ∈ part.toList) ↔
      bracketMark ∈ text.toList := by
    constructor
    · rintro ⟨part, hpart, hmark⟩
      obtain ⟨other, hother, rfl⟩ := List.mem_map.mp hpart
      exact (mark_mem_compare (hplain other hother) c text).mp hmark
    · intro hmark
      exact ⟨_, List.mem_map_of_mem hname, (mark_mem_compare (hplain name hname) c text).mpr hmark⟩
  have hopen : bracketMark ∉ "(".toList := by decide
  have hclose : bracketMark ∉ ")".toList := by decide
  rw [write, String.toList_append, String.toList_append, List.mem_append, List.mem_append,
    Text.mem_joined (by decide), hparts, or_iff_right hopen, or_iff_left hclose]

/-- What is behind the first condition has a mark only if one of the conditions has. -/
theorem mark_mem_writeRest {clauses : List Clause} :
    bracketMark ∈ (writeRest clauses).toList ↔ ∃ clause ∈ clauses, bracketMark ∈ clause.write.toList := by
  have hand : bracketMark ∉ " AND ".toList := by decide
  simp only [writeRest, String.toList_join, List.mem_flatMap, List.mem_map]
  constructor
  · rintro ⟨part, ⟨clause, hclause, rfl⟩, hmark⟩
    rw [String.toList_append, List.mem_append, or_iff_right hand] at hmark
    exact ⟨clause, hclause, hmark⟩
  · rintro ⟨clause, hclause, hmark⟩
    refine ⟨_, ⟨clause, hclause, rfl⟩, ?_⟩
    rw [String.toList_append]
    exact List.mem_append_right _ hmark

end Clause

/-! ## Reading conditions -/

namespace Query

variable {q : Query} {type : String}

/-- The conditions as they are sent. -/
def conditions (q : Query) : List Char := (Clause.writeAll q.first q.rest).toList

/-- The conditions of a class chain as they are read: what is behind the first mark, up to the next one. -/
def readConditions (cs : List Char) : Option (List Char) := (Text.splitAt bracketMark cs)[1]?

/-- The only marks in a class chain are those around its conditions, so that the conditions are read as a whole. -/
structure KeepsConditions (q : Query) : Prop where
  marks : q.value.toList.count bracketMark = 2
  read : readConditions q.value.toList = some q.conditions

theorem toList_value_chain (h : q.form = .classChain type) : q.value.toList =
    ("**/" ++ type ++ "[").toList ++ bracketMark :: (q.conditions ++ bracketMark :: [']']) := by
  rw [value, h, conditions]
  simp [chainMark, bracketMark]

theorem value_predicate (h : q.form = .predicate) : q.value.toList = q.conditions := by
  rw [value, h, conditions]

/-- Whatever the conditions have in them, they are read up to their first mark. -/
theorem readConditions_chain (h : q.form = .classChain type) (htype : bracketMark ∉ type.toList) :
    readConditions q.value.toList = (Text.splitAt bracketMark q.conditions)[0]? := by
  have hfront : bracketMark ∉ ("**/" ++ type ++ "[").toList :=
    not_mem_append (not_mem_append (by decide) htype) (by decide)
  rw [readConditions, toList_value_chain h, Text.splitAt_append, Text.splitAt_of_notMem hfront, Text.splitAt_append]
  cases hpieces : Text.splitAt bracketMark q.conditions with
  | nil => exact absurd hpieces (Text.splitAt_ne_nil _ _)
  | cons piece more => rfl

theorem count_chain (h : q.form = .classChain type) (htype : bracketMark ∉ type.toList) :
    q.value.toList.count bracketMark = q.conditions.count bracketMark + 2 := by
  have hfront : bracketMark ∉ ("**/" ++ type ++ "[").toList :=
    not_mem_append (not_mem_append (by decide) htype) (by decide)
  rw [toList_value_chain h, List.count_append, List.count_eq_zero_of_not_mem hfront, List.count_cons_self,
    List.count_append, List.count_cons_self]
  have hend : [']'].count bracketMark = 0 := rfl
  omega

theorem keepsConditions_iff (h : q.form = .classChain type) (htype : bracketMark ∉ type.toList) :
    q.KeepsConditions ↔ bracketMark ∉ q.conditions := by
  constructor
  · intro hkeeps
    have hcount := hkeeps.marks
    rw [count_chain h htype] at hcount
    exact List.count_eq_zero.mp (by omega)
  · intro hplain
    refine ⟨?_, ?_⟩
    · rw [count_chain h htype, List.count_eq_zero_of_not_mem hplain]
    · rw [readConditions_chain h htype, Text.splitAt_of_notMem hplain]
      rfl

end Query

/-! ## Class chains for a selector -/

namespace Criteria

variable {c : Criteria} {q : Query}

/-- The conditions of all class chains for a selector are read as a whole, and those for the id as its predicate has
them. -/
structure ChainsKept (c : Criteria) : Prop where
  chains : ∀ q ∈ c.idQueries ++ c.textQueries ++ c.interactiveQueries, ∀ type, q.form = .classChain type →
    q.KeepsConditions
  twins : ∀ chain ∈ c.idQueries, ∀ type, chain.form = .classChain type → ∀ twin ∈ c.idQueries,
    twin.form = .predicate → readConditions chain.value.toList = some twin.value.toList

theorem mark_mem_conditions (h : q.rest = c.stateClauses) :
    bracketMark ∈ q.conditions ↔ bracketMark ∈ q.first.write.toList := by
  have hstates : bracketMark ∉ (Clause.writeRest c.stateClauses).toList := by
    rw [Clause.mark_mem_writeRest]
    rintro ⟨clause, hclause, hmark⟩
    obtain ⟨b, _, rfl⟩ | ⟨b, _, rfl⟩ | ⟨b, _, rfl⟩ := mem_stateClauses.mp hclause <;>
      cases b <;> exact absurd hmark (by decide)
  rw [conditions, Clause.writeAll, h, String.toList_append, List.mem_append]
  exact or_iff_left hstates

theorem keepsConditions_id_iff {i : String} (hid : givenText? c.id = some i) {type : String} (h : q ∈ c.idQueries)
    (hform : q.form = .classChain type) : q.KeepsConditions ↔ bracketMark ∉ i.toList := by
  rw [idQueries_of_id hid, List.mem_cons, List.mem_singleton] at h
  obtain rfl | rfl := h
  · rw [keepsConditions_iff rfl (by decide), mark_mem_conditions rfl]
    exact not_congr (Clause.mark_mem_compare (by decide) _ _)
  · cases hform

/-- Fields and buttons are asked for by the text in the first condition of a class chain, with the states behind it. -/
theorem keepsConditions_field_iff {text : String} {names : List String} (hnames : names ≠ [])
    (hplain : ∀ name ∈ names, bracketMark ∉ name.toList) {comparison : Comparison} {type : String}
    (h : q ∈ c.fieldQueries text (.anyOf names comparison text)) (hform : q.form = .classChain type) :
    q.KeepsConditions ↔ bracketMark ∉ text.toList := by
  have hfield : bracketMark ∈ (fieldClause text).write.toList ↔ bracketMark ∈ text.toList :=
    Clause.mark_mem_anyOf (by decide) (by decide) _ _
  simp only [fieldQueries, List.mem_cons, List.not_mem_nil, or_false] at h
  obtain rfl | rfl | rfl | rfl | rfl | rfl | rfl := h <;> cases hform
  · rw [keepsConditions_iff rfl (by decide), mark_mem_conditions rfl, hfield]
  · rw [keepsConditions_iff rfl (by decide), mark_mem_conditions rfl, hfield]
  · rw [keepsConditions_iff rfl (by decide), mark_mem_conditions rfl, Clause.mark_mem_anyOf hnames hplain]

theorem keepsConditions_text_iff {t : String} (ht : givenText? c.text = some t) {type : String}
    (h : q ∈ c.textQueries ++ c.interactiveQueries) (hform : q.form = .classChain type) :
    q.KeepsConditions ↔ bracketMark ∉ t.toList := by
  rw [textQueries_of_text ht, interactiveQueries_of_text ht, List.mem_append, List.mem_append,
    List.mem_singleton] at h
  obtain (h | rfl) | h := h
  · exact keepsConditions_field_iff (by decide) (by decide) h hform
  · cases hform
  · exact keepsConditions_field_iff (by decide) (by decide) h hform

end Criteria

/-! ## Main result -/

/-- The conditions of the class chains for a selector are read as a whole exactly if neither its id nor its text has
the mark that is around them. -/
theorem class_chains_keep_conditions_iff {c : Criteria} : c.ChainsKept ↔
    (∀ i, givenText? c.id = some i → bracketMark ∉ i.toList) ∧
      ∀ t, givenText? c.text = some t → bracketMark ∉ t.toList := by
  constructor
  · intro h
    refine ⟨fun i hi => ?_, fun t ht => ?_⟩
    · have hchain : ⟨"id", .classChain anyType, .nameContains i, c.stateClauses⟩ ∈ c.idQueries := by
        rw [Criteria.idQueries_of_id hi]
        exact List.mem_cons_self
      have hkeeps := h.chains _ (List.mem_append_left _ (List.mem_append_left _ hchain)) _ rfl
      exact (Criteria.keepsConditions_id_iff hi hchain rfl).mp hkeeps
    · have hchain : ⟨"text_field", .classChain textFieldType, Criteria.fieldClause t, c.stateClauses⟩ ∈
          c.textQueries ++ c.interactiveQueries := by
        rw [Criteria.textQueries_of_text ht]
        exact List.mem_cons_self
      rw [← Criteria.keepsConditions_text_iff ht hchain rfl]
      refine h.chains _ ?_ _ rfl
      rw [List.append_assoc]
      exact List.mem_append_right _ hchain
  · rintro ⟨hid, htext⟩
    have hidChain : ∀ q ∈ c.idQueries, ∀ type, q.form = .classChain type → q.KeepsConditions := by
      intro q hq type hform
      obtain ⟨i, hi, -⟩ := Criteria.mem_idQueries hq
      exact (Criteria.keepsConditions_id_iff hi hq hform).mpr (hid i hi)
    refine ⟨fun q hq type hform => ?_, fun chain hchain type hform twin htwin htwinForm => ?_⟩
    · rw [List.append_assoc, List.mem_append] at hq
      obtain hq | hq := hq
      · exact hidChain q hq type hform
      · cases ht : givenText? c.text with
        | none =>
            rw [Criteria.textQueries_of_no_text ht, Criteria.interactiveQueries_of_no_text ht] at hq
            cases hq
        | some t => exact (Criteria.keepsConditions_text_iff ht hq hform).mpr (htext t ht)
    · -- The chain and its twin have the same conditions.
      rw [(hidChain chain hchain type hform).read, value_predicate htwinForm]
      obtain ⟨i, hi, -⟩ := Criteria.mem_idQueries hchain
      rw [Criteria.idQueries_of_id hi, List.mem_cons, List.mem_singleton] at hchain htwin
      obtain rfl | rfl := hchain
      · obtain rfl | rfl := htwin
        · cases htwinForm
        · rfl
      · cases hform

/-- An id with a mark in it. -/
def markedCriteria : Criteria := { id := some "a\x60b" }

theorem mark_in_id_ends_conditions :
    (∃ chain twin, markedCriteria.idQueries = [chain, twin] ∧
      chain.value = "**/XCUIElementTypeAny[\x60name CONTAINS 'a\x60b'\x60]" ∧
      chain.value.toList.count bracketMark = 3 ∧
      readConditions chain.value.toList = some "name CONTAINS 'a".toList ∧ twin.value = "name CONTAINS 'a\x60b'") ∧
    ¬markedCriteria.ChainsKept := by
  refine ⟨⟨_, _, rfl, by decide, by decide, by decide, by decide⟩, fun h => ?_⟩
  have hkeeps := h.chains ⟨"id", .classChain anyType, .nameContains "a\x60b", []⟩ (by decide) _ rfl
  exact absurd hkeeps.marks (by decide)

end ElementFinder
