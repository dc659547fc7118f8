import ElementFinder.Proofs.OnPage
import ElementFinder.Proofs.Surroundings
import ElementFinder.Query.Basic
import Mathlib.Data.List.Infix

/-!
# Fields that queries ask for

All queries for a selector ask for the states that are set. They are in an order of priority, those for the id
before those for the text, and none asks for both. So an element that a query finds has the states, and it has
the id or the text that this query asks for.
-/

namespace ElementFinder

/-! ## Conditions in queries -/

namespace Clause

/-- The texts of an element by their names in queries. -/
def textNames : List String := ["label", "name", "value", "placeholderValue"]

/-- The condition compares texts of an element with a text, letter case aside. -/
inductive TestsText (text : String) : Clause → Prop
  | anyOf (name : String) (names : List String) :
    name :: names ⊆ textNames → TestsText text (.anyOf (name :: names) .containsFolded text)

end Clause

namespace Query

variable {q : Query} {clause : Clause}

def clauses (q : Query) : List Clause := q.first :: q.rest

/-- The part stands in the query as it is sent. -/
def Says (q : Query) (part : String) : Prop := part.toList <:+: q.value.toList

instance {part : String} : Decidable (q.Says part) := inferInstanceAs (Decidable (_ <:+: _))

theorem says_clause (h : clause ∈ q.clauses) : q.Says clause.write := by
  have hconditions : clause.write.toList <:+: (Clause.writeAll q.first q.rest).toList := by
    rw [Clause.writeAll, Clause.writeRest, String.toList_append]
    obtain rfl | h := List.mem_cons.mp h
    · exact (List.prefix_append _ _).isInfix
    · refine List.IsInfix.trans ?_ (List.suffix_append _ _).isInfix
      rw [String.toList_join, List.flatMap_def, List.map_map]
      refine List.IsInfix.trans ?_ (List.infix_of_mem_flatten (List.mem_map_of_mem h))
      exact ⟨" AND ".toList, [], by simp⟩
  refine hconditions.trans ?_
  rw [value]
  cases q.form with
  | predicate => exact List.infix_refl _
  | classChain type =>
      exact ⟨("**/" ++ type ++ "[" ++ chainMark).toList, (chainMark ++ "]").toList, by simp⟩

theorem says_literal {text : String} (h : clause ∈ q.clauses) (htests : clause.TestsText text) :
    q.Says (literal text) := by
  refine List.IsInfix.trans ?_ (says_clause h)
  obtain ⟨name, names, -⟩ := htests
  have hfirst : ∃ rest, Text.joined " OR " ((name :: names).map fun a =>
      Clause.compare a .containsFolded text) = Clause.compare name .containsFolded text ++ rest := by
    cases names with
    | nil => exact ⟨"", String.append_empty.symm⟩
    | cons other names => exact ⟨_, String.append_assoc⟩
  obtain ⟨rest, hfirst⟩ := hfirst
  rw [Clause.write, hfirst, Clause.compare]
  exact ⟨("(" ++ name ++ " " ++ Comparison.containsFolded.operator ++ " ").toList, (rest ++ ")").toList,
    by simp⟩

/-- The query asks for all states that are set. -/
structure AsksForStates (q : Query) (c : Criteria) : Prop where
  enabled : ∀ b ∈ c.enabled, .state "enabled" b ∈ q.clauses
  selected : ∀ b ∈ c.selected, .state "selected" b ∈ q.clauses
  focused : ∀ b ∈ c.focused, .state "hasFocus" b ∈ q.clauses

/-- The query asks for all that is set, but for the size. -/
structure AsksForAll (q : Query) (c : Criteria) : Prop extends q.AsksForStates c where
  id : ∀ i ∈ givenText? c.id, .nameContains i ∈ q.clauses
  text : ∀ t ∈ givenText? c.text, ∃ clause ∈ q.clauses, clause.TestsText t

end Query

/-! ## Queries for a selector -/

namespace Criteria

variable {c : Criteria} {q : Query} {clause : Clause}

theorem mem_stateClauses : clause ∈ c.stateClauses ↔
    (∃ b ∈ c.enabled, .state "enabled" b = clause) ∨ (∃ b ∈ c.selected, .state "selected" b = clause) ∨
      ∃ b ∈ c.focused, .state "hasFocus" b = clause := by
  simp only [stateClauses, List.mem_append, Option.mem_toList, Option.map_eq_some_iff, or_assoc, Option.mem_def]

theorem not_testsText_of_mem_stateClauses {text : String} (h : clause ∈ c.stateClauses) :
    ¬clause.TestsText text := by
  obtain ⟨_, _, rfl⟩ | ⟨_, _, rfl⟩ | ⟨_, _, rfl⟩ := mem_stateClauses.mp h <;> nofun

theorem asksForStates_of_subset (h : c.stateClauses ⊆ q.clauses) : q.AsksForStates c :=
  ⟨fun b hb => h (mem_stateClauses.mpr (Or.inl ⟨b, hb, rfl⟩)),
    fun b hb => h (mem_stateClauses.mpr (Or.inr (Or.inl ⟨b, hb, rfl⟩))),
    fun b hb => h (mem_stateClauses.mpr (Or.inr (Or.inr ⟨b, hb, rfl⟩)))⟩

/-- Queries for the id have a condition for it, and those for the states. -/
theorem mem_idQueries (h : q ∈ c.idQueries) :
    ∃ i, givenText? c.id = some i ∧ q.clauses = .nameContains i :: c.stateClauses := by
  rw [idQueries] at h
  split at h
  · cases h
  · next i hid =>
    split at h
    · cases h
    · next hne =>
      refine ⟨i, by simp [givenText?, hid, hne], ?_⟩
      simp only [List.mem_cons, List.not_mem_nil, or_false] at h
      obtain rfl | rfl := h <;> rfl

theorem mem_fieldQueries {text : String} {button : Clause} (hbutton : button.TestsText text)
    (h : q ∈ c.fieldQueries text button) : ∃ clause, clause.TestsText text ∧
      (q.clauses = clause :: c.stateClauses ∨
        ∃ type, q.clauses = .typeIs type :: clause :: c.stateClauses) := by
  have hfield : (fieldClause text).TestsText text := .anyOf _ _ (by decide)
  have hplain : (plainFieldClause text).TestsText text := .anyOf _ _ (by decide)
  simp only [fieldQueries, List.mem_cons, List.not_mem_nil, or_false] at h
  obtain rfl | rfl | rfl | rfl | rfl | rfl | rfl := h
  · exact ⟨_, hfield, Or.inl rfl⟩
  · exact ⟨_, hfield, Or.inl rfl⟩
  · exact ⟨_, hbutton, Or.inl rfl⟩
  · exact ⟨_, hplain, Or.inr ⟨_, rfl⟩⟩
  · exact ⟨_, hplain, Or.inr ⟨_, rfl⟩⟩
  · exact ⟨_, hplain, Or.inr ⟨_, rfl⟩⟩
  · exact ⟨_, hbutton, Or.inr ⟨_, rfl⟩⟩

/-- Queries for the text have a condition for it and those for the states, and perhaps one for the type. -/
theorem mem_textQueries (h : q ∈ c.textQueries) : ∃ t, givenText? c.text = some t ∧
    ∃ clause, clause.TestsText t ∧ (q.clauses = clause :: c.stateClauses ∨
      ∃ type, q.clauses = .typeIs type :: clause :: c.stateClauses) := by
  rw [textQueries] at h
  split at h
  · cases h
  · next t ht =>
    refine ⟨t, ht, ?_⟩
    rw [List.mem_append, List.mem_singleton] at h
    obtain h | rfl := h
    · exact mem_fieldQueries (.anyOf _ _ (by decide)) h
    · have hcontains : c.containsClause.TestsText t := by
        rw [containsClause, (Option.filter_eq_some_iff.mp ht).1]
        exact .anyOf _ _ (by decide)
      exact ⟨_, hcontains, Or.inl rfl⟩

theorem stateClauses_subset (h : q ∈ c.standardQueries) : c.stateClauses ⊆ q.clauses := by
  obtain h | h := List.mem_append.mp h
  · obtain ⟨i, -, hq⟩ := mem_idQueries h
    simp [hq]
  · obtain ⟨t, -, clause, -, hq | ⟨type, hq⟩⟩ := mem_textQueries h
    · simp [hq]
    · rw [hq]
      exact fun x hx => List.mem_cons_of_mem _ (List.mem_cons_of_mem _ hx)

theorem nameContains_mem {i : String} (h : q ∈ c.idQueries) (hi : givenText? c.id = some i) :
    .nameContains i ∈ q.clauses := by
  obtain ⟨j, hj, hq⟩ := mem_idQueries h
  cases hi.symm.trans hj
  simp [hq]

theorem exists_testsText {t : String} (h : q ∈ c.textQueries) (ht : givenText? c.text = some t) :
    ∃ clause ∈ q.clauses, clause.TestsText t := by
  obtain ⟨u, hu, clause, htests, hq⟩ := mem_textQueries h
  cases ht.symm.trans hu
  obtain hq | ⟨type, hq⟩ := hq <;> exact ⟨clause, by simp [hq], htests⟩

theorem idQueries_of_no_id (h : givenText? c.id = none) : c.idQueries = [] := by
  refine List.eq_nil_iff_forall_not_mem.mpr fun q hq => ?_
  obtain ⟨i, hi, -⟩ := mem_idQueries hq
  cases h.symm.trans hi

theorem textQueries_of_no_text (h : givenText? c.text = none) : c.textQueries = [] := by
  rw [textQueries, wantedText?, ← givenText?, h]

/-- All queries ask for all fields unless both an id and a text are set. -/
theorem asksForAll_iff : (∀ q ∈ c.standardQueries, q.AsksForAll c) ↔
    givenText? c.id = none ∨ givenText? c.text = none := by
  constructor
  · intro h
    cases hid : givenText? c.id with
    | none => exact Or.inl rfl
    | some i =>
        refine Or.inr (Option.eq_none_iff_forall_ne_some.mpr fun t ht => ?_)
        obtain ⟨hsome, hne⟩ := Option.filter_eq_some_iff.mp hid
        have hmem : ⟨"id", .predicate, .nameContains i, c.stateClauses⟩ ∈ c.idQueries := by
          simp_all [idQueries]
        obtain ⟨clause, hclause, htests⟩ := (h _ (List.mem_append_left _ hmem)).text t ht
        obtain rfl | hclause := List.mem_cons.mp hclause
        · cases htests
        · exact not_testsText_of_mem_stateClauses hclause htests
  · intro h q hq
    refine ⟨asksForStates_of_subset (stateClauses_subset hq), fun i hi => ?_, fun t ht => ?_⟩
    · obtain h | h := h
      · cases h.symm.trans hi
      · rw [standardQueries, textQueries_of_no_text h, List.append_nil] at hq
        exact nameContains_mem hq hi
    · obtain h | h := h
      · rw [standardQueries, idQueries_of_no_id h, List.nil_append] at hq
        exact exists_testsText hq ht
      · cases h.symm.trans ht

end Criteria

/-! ## What is found -/

namespace Attributes

/-- A text of an element by its name in queries. -/
def text? (a : Attributes) : String → Option String
  | "label" => some a.label
  | "name" => some a.name
  | "value" => some a.value
  | "placeholderValue" => some a.placeholder
  | _ => none

/-- A state of an element by its name in queries. -/
def state? (a : Attributes) : String → Option Bool
  | "enabled" => some a.enabled
  | "selected" => some a.selected
  | "hasFocus" => some a.focused
  | _ => none

end Attributes

def Comparison.holds (text part : String) : Comparison → Bool
  | .equal => text == part
  | .equalFolded => Text.lower text == Text.lower part
  | .contains => Text.contains text part
  | .containsFolded => TextTest.containsAnyCase text part

/-- What a condition says about an element. -/
def Clause.holds (a : Attributes) : Clause → Bool
  | .typeIs type => a.type == type
  | .nameContains part => Text.contains a.name part
  | .anyOf names comparison text => names.any fun name => (a.text? name).any (comparison.holds · text)
  | .state name value => a.state? name == some value

/-- The node meets all conditions of a query. -/
def Node.Meets (n : Node) (q : Query) : Prop := ∀ clause ∈ q.clauses, clause.holds n.attributes = true

instance {n : Node} {q : Query} : Decidable (n.Meets q) := inferInstanceAs (Decidable (∀ _ ∈ _, _ = _))

/-- A server finds nothing for a query but what meets its conditions. -/
def FindsByConditions (finds : Query → Node → Prop) : Prop := ∀ q n, finds q n → n.Meets q

variable {c : Criteria} {q : Query} {n : Node}

theorem Attributes.mem_texts_of_text? {a : Attributes} {name text : String} (h : a.text? name = some text) :
    text ∈ a.texts := by
  unfold text? at h
  split at h <;> cases h <;> simp [texts]

theorem Clause.TestsText.exists_text {clause : Clause} {a : Attributes} {text : String}
    (h : clause.TestsText text) (hholds : clause.holds a = true) :
    ∃ t ∈ a.texts, TextTest.containsAnyCase t text = true := by
  obtain ⟨name, names, -⟩ := h
  obtain ⟨x, -, hx⟩ := List.any_eq_true.mp hholds
  cases ht : a.text? x with
  | none => simp [ht] at hx
  | some t =>
      rw [ht] at hx
      exact ⟨t, Attributes.mem_texts_of_text? ht, hx⟩

namespace Criteria

/-- One of the texts of the node contains the text that is set, letter case aside. -/
def TextContained (c : Criteria) (n : Node) : Prop :=
  ∀ t ∈ givenText? c.text, ∃ text ∈ n.attributes.texts, TextTest.containsAnyCase text t = true

theorem statesMet_of_asks (h : q.AsksForStates c) (hn : n.Meets q) : c.StatesMet n := by
  have hmeets : ∀ {asked : Option Bool} {name : String} {actual : Bool},
      (∀ b ∈ asked, .state name b ∈ q.clauses) → n.attributes.state? name = some actual →
        stateMeets asked actual = true := by
    intro asked name actual hasked hactual
    cases asked with
    | none => rfl
    | some b => simpa [Clause.holds, hactual, stateMeets] using hn _ (hasked b rfl)
  exact ⟨hmeets h.enabled rfl, hmeets h.selected rfl, hmeets h.focused rfl⟩

theorem idMeets_of_asks (h : ∀ i ∈ givenText? c.id, .nameContains i ∈ q.clauses)
    (hn : n.Meets q) : c.idMeets n.attributes = true := by
  rw [idMeets]
  split
  · rfl
  · next i hi => exact hn _ (h i hi)

theorem textContained_of_asks (h : ∀ t ∈ givenText? c.text, ∃ clause ∈ q.clauses, clause.TestsText t)
    (hn : n.Meets q) : c.TextContained n := by
  intro t ht
  obtain ⟨clause, hclause, htests⟩ := h t ht
  exact htests.exists_text (hn clause hclause)

/-- A node matches if it meets all that is set but the size, and the text is plain. -/
theorem matchesNode_of_met (hsize : c.hasSize = false) (hstates : c.StatesMet n)
    (hid : c.idMeets n.attributes = true) (htext : c.TextContained n)
    (hplain : ∀ t ∈ givenText? c.text, TextTest.ofText t = .ok (.plain t)) : c.matchesNode n = .ok true := by
  obtain ⟨hwidth, hheight⟩ := sizeMet_of_hasSize_eq_false hsize n
  rw [Node.bounds] at hwidth hheight
  have hrest : c.restMeets n.attributes = true := by
    rw [restMeets, hid, hwidth, hheight, hstates.1, hstates.2.1, hstates.2.2]
    rfl
  have htexts : c.textMeets n.attributes = .ok true := by
    rw [textMeets]
    split
    · rfl
    · next t ht =>
      rw [matchesText, hplain t ht]
      exact congrArg Except.ok (List.any_eq_true.mpr (htext t ht))
  exact matchesNode_eq_true.mpr ⟨htexts, hrest⟩

end Criteria

/-- Every query for a selector asks for the states that are set, the queries for the id ask for the id, and
those for the text for the text. They ask for all that is set unless both an id and a text are. So what a
server finds has the states, and what was asked for of the other two. It matches if the query asks for all
and the text is not read as a pattern. -/
theorem standard_queries_ask_iff (c : Criteria) {finds : Query → Node → Prop} (h : FindsByConditions finds) :
    (∀ q ∈ c.standardQueries, q.AsksForStates c ∧ ∀ clause ∈ q.clauses, q.Says clause.write) ∧
    (∀ q ∈ c.idQueries, ∀ i ∈ givenText? c.id, .nameContains i ∈ q.clauses) ∧
    (∀ q ∈ c.textQueries, ∀ t ∈ givenText? c.text,
      (∃ clause ∈ q.clauses, clause.TestsText t) ∧ q.Says (Query.literal t)) ∧
    ((∀ q ∈ c.standardQueries, q.AsksForAll c) ↔ givenText? c.id = none ∨ givenText? c.text = none) ∧
    ∀ q ∈ c.standardQueries, ∀ n, finds q n →
      c.StatesMet n ∧ (q ∈ c.idQueries → c.idMeets n.attributes = true) ∧
      (q ∈ c.textQueries → c.TextContained n) ∧
      (q.AsksForAll c → c.hasSize = false →
        (∀ t ∈ givenText? c.text, TextTest.ofText t = .ok (.plain t)) → c.matchesNode n = .ok true) := by
  have hstates : ∀ q ∈ c.standardQueries, q.AsksForStates c := fun q hq =>
    Criteria.asksForStates_of_subset (Criteria.stateClauses_subset hq)
  refine ⟨fun q hq => ⟨hstates q hq, fun _ => Query.says_clause⟩,
    fun q hq i hi => Criteria.nameContains_mem hq hi, fun q hq t ht => ?_, Criteria.asksForAll_iff,
    fun q hq n hfound => ?_⟩
  · obtain ⟨clause, hclause, htests⟩ := Criteria.exists_testsText hq ht
    exact ⟨⟨clause, hclause, htests⟩, Query.says_literal hclause htests⟩
  · have hn := h q n hfound
    have hmet := Criteria.statesMet_of_asks (hstates q hq) hn
    refine ⟨hmet, fun hq => ?_, fun hq => ?_, fun hall hsize hplain => ?_⟩
    · exact Criteria.idMeets_of_asks (fun i hi => Criteria.nameContains_mem hq hi) hn
    · exact Criteria.textContained_of_asks (fun t ht => Criteria.exists_testsText hq ht) hn
    · exact Criteria.matchesNode_of_met hsize hmet (Criteria.idMeets_of_asks hall.id hn)
        (Criteria.textContained_of_asks hall.text hn) hplain

/-- What is found for a text and a state matches. -/
theorem standard_queries_ask_iff_alice :
    let asked : Criteria := { text := some "Alice", enabled := some true }
    let finds (q : Query) (n : Node) : Prop := n.Meets q
    let alice : Node := { attributes := { label := "alice smith" } }
    FindsByConditions finds ∧ (∃ q ∈ asked.standardQueries, finds q alice) ∧
      asked.matchesNode alice = .ok true := by
  intro asked finds alice
  have hserver : FindsByConditions finds := fun _ _ => id
  have hmem : ⟨"any_text", .predicate, asked.containsClause, asked.stateClauses⟩ ∈ asked.standardQueries := by
    decide
  have hfound : finds ⟨"any_text", .predicate, asked.containsClause, asked.stateClauses⟩ alice := by
    decide +kernel
  have hplain : ∀ t ∈ givenText? asked.text, TextTest.ofText t = .ok (.plain t) := by
    rintro _ ⟨⟩
    rfl
  obtain ⟨-, -, -, hall, hmeets⟩ := standard_queries_ask_iff asked hserver
  exact ⟨hserver, ⟨_, hmem, hfound⟩,
    (hmeets _ hmem _ hfound).2.2.2 (hall.mpr (Or.inl rfl) _ hmem) rfl hplain⟩

/-- A query for an id says nothing of the text that is set with it, and what it finds may have another one.
A text that is a pattern is compared with texts as it stands, and what is found may not match it. -/
theorem found_element_has_other_text :
    let row : Criteria := { id := some "row", text := some "Alice" }
    let bob : Node := { attributes := { name := "row-2", label := "Bob" } }
    let sum : Criteria := { text := some "a+b" }
    let shown : Node := { attributes := { label := "a+b=c" } }
    ((∃ q ∈ row.standardQueries, ¬q.Says (Query.literal "Alice") ∧ bob.Meets q) ∧
      row.matchesNode bob = .ok false) ∧
    (∃ q ∈ sum.standardQueries, shown.Meets q) ∧ sum.matchesNode shown = .ok false := by
  have hshown : (Criteria.matchesNode { text := some "a+b" } { attributes := { label := "a+b=c" } }).toOption =
      some false := by decide +kernel
  refine ⟨⟨by decide +kernel, rfl⟩, by decide +kernel, ?_⟩
  revert hshown
  cases Criteria.matchesNode { text := some "a+b" } { attributes := { label := "a+b=c" } } with
  | error f => nofun
  | ok b => exact fun h => congrArg Except.ok (Option.some_inj.mp h)

end ElementFinder
