import ElementFinder.Proofs.AskedFields

/-!
# Quoted texts

A literal is read back as the text that was written, whatever stands behind it. So the literals of a query end where
they were put to end, and what is around them does not depend on the texts in them.
-/

namespace ElementFinder

namespace Query

/-! ## Reading literals -/

/-- The text up to the mark that closes it, and what is behind this mark. A character behind a backslash belongs to
the text, whatever it is. -/
def readContent : List Char → Option (List Char × List Char)
  | [] => none
  | c :: rest =>
    if c = literalMark then some ([], rest)
    else if c = '\\' then
      match rest with
      | [] => none
      | d :: rest => (readContent rest).map fun (text, behind) => (d :: text, behind)
    else (readContent rest).map fun (text, behind) => (c :: text, behind)

/-- The text of the literal at the front, and what is behind the literal. -/
def readLiteral : List Char → Option (List Char × List Char)
  | [] => none
  | c :: rest => if c = literalMark then readContent rest else none

theorem readContent_mark (rest : List Char) : readContent (literalMark :: rest) = some ([], rest) := by
  unfold readContent
  rw [if_pos rfl]

theorem readContent_slash (c : Char) (rest : List Char) : readContent ('\\' :: c :: rest) =
    (readContent rest).map fun (text, behind) => (c :: text, behind) := by
  rw [readContent, if_neg (by decide), if_pos rfl]

theorem readContent_plain {c : Char} (hslash : c ≠ '\\') (hmark : c ≠ literalMark) (rest : List Char) :
    readContent (c :: rest) = (readContent rest).map fun (text, behind) => (c :: text, behind) := by
  conv => lhs; unfold readContent
  rw [if_neg hmark, if_neg hslash]

theorem readContent_escaped (text behind : List Char) :
    readContent (escaped text ++ literalMark :: behind) = some (text, behind) := by
  induction text with
  | nil => exact readContent_mark behind
  | cons c text ih =>
      -- What the reader would not take as it stands is behind a backslash.
      rw [escaped]
      split
      · rw [List.cons_append, List.cons_append, readContent_slash, ih, Option.map_some]
      · next hc =>
        obtain ⟨hslash, hmark⟩ := not_or.mp hc
        rw [List.cons_append, readContent_plain hslash hmark, ih, Option.map_some]

theorem length_of_readContent {cs text behind : List Char} (h : readContent cs = some (text, behind)) :
    behind.length < cs.length := by
  fun_induction readContent cs generalizing text behind with
  | case1 => cases h
  | case2 rest =>
      cases h
      exact Nat.lt_succ_self _
  | case3 => cases h
  | case4 d rest _ ih =>
      obtain ⟨⟨t, b⟩, hread, hb⟩ := Option.map_eq_some_iff.mp h
      cases hb
      exact Nat.lt_succ_of_lt (Nat.lt_succ_of_lt (ih hread))
  | case5 c rest hmark hslash ih =>
      obtain ⟨⟨t, b⟩, hread, hb⟩ := Option.map_eq_some_iff.mp h
      cases hb
      exact Nat.lt_succ_of_lt (ih hread)

/-- The backslashes are doubled first, so those in front of an apostrophe are not. -/
theorem escaped_eq_replaceChar (cs : List Char) :
    escaped cs = Text.replaceChar literalMark ['\\', literalMark] (Text.replaceChar '\\' ['\\', '\\'] cs) := by
  induction cs with
  | nil => rfl
  | cons c cs ih =>
      have hslash : '\\' ≠ literalMark := by decide
      rw [escaped, ih]
      simp only [Text.replaceChar, List.flatMap_cons, List.flatMap_append]
      by_cases hc : c = '\\'
      · simp [hc, hslash]
      by_cases hmark : c = literalMark
      · simp [hmark, hslash.symm]
      · simp [hc, hmark]

theorem toList_literal (text : String) :
    (literal text).toList = literalMark :: (escaped text.toList ++ [literalMark]) := by
  rw [literal, String.toList_ofList, List.cons_append]

theorem readLiteral_literal (text : String) (behind : List Char) :
    readLiteral ((literal text).toList ++ behind) = some (text.toList, behind) := by
  rw [toList_literal, List.cons_append, readLiteral, if_pos rfl, List.append_assoc]
  exact readContent_escaped _ _

theorem literal_injective : Function.Injective literal := by
  intro a b h
  have hread := readLiteral_literal a []
  rw [h, readLiteral_literal, Option.some_inj, Prod.mk.injEq] at hread
  exact (String.toList_injective hread.1).symm

/-! ## Reading queries -/

/-- What a query is made of: characters that are read as they stand, and literals. -/
inductive Item where
  | code (c : Char)
  | literal (text : List Char)
  deriving DecidableEq, Repr

/-- The items from left to right, if all literals are closed. -/
def readItems : List Char → Option (List Item)
  | [] => some []
  | c :: rest =>
    if c = literalMark then
      match _h : readContent rest with
      | none => none
      | some (text, behind) => (readItems behind).map (.literal text :: ·)
    else (readItems rest).map (.code c :: ·)
termination_by cs => cs.length
decreasing_by
  · exact Nat.lt_succ_of_lt (length_of_readContent ‹_›)
  · exact Nat.lt_succ_self _

def codes (part : String) : List Item := part.toList.map .code

/-- A part of a query is read as these items, whatever is behind it. -/
def Reads (part : String) (is : List Item) : Prop :=
  ∀ behind, readItems (part.toList ++ behind) = (readItems behind).map (is ++ ·)

theorem reads_literal (text : String) : Reads (literal text) [.literal text.toList] := by
  intro behind
  have hread := readContent_escaped text.toList behind
  rw [toList_literal, List.cons_append, List.append_assoc, readItems, if_pos rfl]
  rw [List.cons_append, List.nil_append]
  split
  · next h => cases h.symm.trans hread
  · next t b h =>
    cases h.symm.trans hread
    rfl

theorem reads_codes {part : String} (h : literalMark ∉ part.toList) : Reads part (codes part) := by
  intro behind
  rw [codes]
  generalize part.toList = cs at h
  induction cs with
  | nil => simp
  | cons c rest ih =>
      obtain ⟨hc, hrest⟩ := not_or.mp (List.mem_cons.not.mp h)
      rw [List.cons_append, readItems, if_neg (Ne.symm hc), ih hrest, Option.map_map]
      rfl

theorem not_mem_append {c : Char} {a b : String} (ha : c ∉ a.toList) (hb : c ∉ b.toList) : c ∉ (a ++ b).toList := by
  rw [String.toList_append]
  exact List.not_mem_append ha hb

theorem Reads.append {a b : String} {is js : List Item} (ha : Reads a is) (hb : Reads b js) :
    Reads (a ++ b) (is ++ js) := by
  intro behind
  rw [String.toList_append, List.append_assoc, ha, hb, Option.map_map]
  exact congrArg (Option.map · _) (funext fun _ => (List.append_assoc _ _ _).symm)

theorem Reads.readItems_eq {part : String} {is : List Item} (h : Reads part is) :
    readItems part.toList = some is := by
  have hend := h []
  rwa [List.append_nil, readItems, Option.map_some, List.append_nil] at hend

theorem reads_joined {α : Type} {sep : String} {seps : List Item} {part : α → String} {is : α → List Item}
    (hsep : Reads sep seps) {xs : List α} (h : ∀ x ∈ xs, Reads (part x) (is x)) :
    Reads (Text.joined sep (xs.map part)) (seps.intercalate (xs.map is)) := by
  induction xs with
  | nil => exact reads_codes List.not_mem_nil
  | cons x xs ih =>
      obtain ⟨hx, hxs⟩ := List.forall_mem_cons.mp h
      cases xs with
      | nil =>
          rw [List.map_singleton, List.map_singleton, List.intercalate_singleton]
          exact hx
      | cons y xs =>
          rw [List.map_cons, List.map_cons, Text.joined, List.map_cons, List.map_cons, List.intercalate_cons_cons]
          exact (hx.append hsep).append (ih hxs)

theorem reads_join {α : Type} {part : α → String} {is : α → List Item} {xs : List α}
    (h : ∀ x ∈ xs, Reads (part x) (is x)) : Reads (String.join (xs.map part)) (xs.flatMap is) := by
  induction xs with
  | nil => exact reads_codes List.not_mem_nil
  | cons x xs ih =>
      obtain ⟨hx, hxs⟩ := List.forall_mem_cons.mp h
      rw [List.map_cons, String.join_cons, List.flatMap_cons]
      exact hx.append (ih hxs)

end Query

/-! ## Items of clauses -/

open Query

namespace Clause

variable {clause : Clause}

/-- No name in the condition has a mark. -/
def Plain : Clause → Prop
  | .anyOf names _ _ => ∀ name ∈ names, literalMark ∉ name.toList
  | .state name _ => literalMark ∉ name.toList
  | _ => True

def compareItems (name : String) (c : Comparison) (text : String) : List Item :=
  codes (name ++ " " ++ c.operator ++ " ") ++ [.literal text.toList]

/-- The items of a condition; each text is one literal. -/
def items : Clause → List Item
  | .typeIs type => codes "type == " ++ [.literal type.toList]
  | .nameContains part => compareItems "name" .contains part
  | .anyOf names c text =>
    codes "(" ++ (codes " OR ").intercalate (names.map fun name => compareItems name c text) ++ codes ")"
  | .state name value => codes (name ++ " == " ++ (if value then "true" else "false"))

theorem reads_compare {name : String} (h : literalMark ∉ name.toList) (c : Comparison) (text : String) :
    Reads (compare name c text) (compareItems name c text) := by
  have hoperator : literalMark ∉ c.operator.toList := by cases c <;> decide
  have hfront := not_mem_append (not_mem_append h (b := " ") (by decide)) hoperator
  exact (reads_codes (not_mem_append hfront (by decide))).append (reads_literal text)

theorem reads_write (h : clause.Plain) : Reads clause.write clause.items := by
  cases clause with
  | typeIs type => exact (reads_codes (by decide)).append (reads_literal type)
  | nameContains part => exact reads_compare (by decide) .contains part
  | anyOf names c text =>
      refine ((reads_codes (by decide)).append ?_).append (reads_codes (by decide))
      exact reads_joined (reads_codes (by decide)) fun name hname => reads_compare (h name hname) c text
  | state name value =>
      refine reads_codes (not_mem_append (not_mem_append h (by decide)) ?_)
      cases value <;> decide

/-- The condition with all texts empty. -/
def blank : Clause → Clause
  | .typeIs _ => .typeIs ""
  | .nameContains _ => .nameContains ""
  | .anyOf names c _ => .anyOf names c ""
  | .state name value => .state name value

end Clause

namespace Query

def Item.blank : Item → Item
  | .code c => .code c
  | .literal _ => .literal []

theorem map_blank_codes (part : String) : (codes part).map Item.blank = codes part := by
  rw [codes, List.map_map]
  rfl

theorem map_intercalate {α β : Type} (f : α → β) (sep : List α) (parts : List (List α)) :
    (sep.intercalate parts).map f = (sep.map f).intercalate (parts.map (List.map f)) := by
  induction parts with
  | nil => rfl
  | cons part parts ih =>
      cases parts with
      | nil => simp
      | cons next parts =>
          rw [List.intercalate_cons_cons, List.map_append, List.map_append, ih]
          exact List.intercalate_cons_cons.symm

end Query

theorem Clause.map_blank_items (clause : Clause) : clause.items.map Item.blank = clause.blank.items := by
  have hcompare : ∀ (name : String) (c : Comparison) (text : String),
      (compareItems name c text).map Item.blank = compareItems name c "" := by
    intro name c text
    rw [compareItems, List.map_append, map_blank_codes]
    rfl
  cases clause with
  | typeIs type =>
      rw [items, List.map_append, map_blank_codes]
      rfl
  | nameContains part => exact hcompare "name" .contains part
  | anyOf names c text =>
      simp only [items, blank, List.map_append, map_intercalate, map_blank_codes, List.map_map,
        Function.comp_def, hcompare]
  | state name value => exact map_blank_codes _

/-! ## Items of queries -/

namespace Query

variable {q : Query}

/-- Neither the type nor a name has a mark. -/
structure Plain (q : Query) : Prop where
  form : ∀ type, q.form = .classChain type → literalMark ∉ type.toList
  clauses : ∀ clause ∈ q.clauses, clause.Plain

/-- The items of a query: those of its conditions, between the marks if it is a class chain. -/
def items (q : Query) : List Item :=
  let conditions := q.first.items ++ q.rest.flatMap fun clause => codes " AND " ++ clause.items
  match q.form with
  | .classChain type =>
    codes ("**/" ++ type ++ "[" ++ chainMark) ++ conditions ++ codes chainMark ++ codes "]"
  | .predicate => conditions

theorem reads_value (h : q.Plain) : Reads q.value q.items := by
  obtain ⟨hfirst, hrest⟩ := List.forall_mem_cons.mp h.clauses
  have hconditions : Reads (Clause.writeAll q.first q.rest)
      (q.first.items ++ q.rest.flatMap fun clause => codes " AND " ++ clause.items) :=
    (Clause.reads_write hfirst).append
      (reads_join fun clause hclause => (reads_codes (by decide)).append (Clause.reads_write (hrest clause hclause)))
  rw [value, items]
  cases hform : q.form with
  | predicate => exact hconditions
  | classChain type =>
      have hfront := not_mem_append (a := "**/") (by decide) (h.form type hform)
      have hopen := not_mem_append (not_mem_append hfront (b := "[") (by decide)) (b := chainMark) (by decide)
      exact (((reads_codes hopen).append hconditions).append (reads_codes (by decide))).append
        (reads_codes (by decide))

def blank (q : Query) : Query := { q with first := q.first.blank, rest := q.rest.map Clause.blank }

theorem map_blank_items (q : Query) : q.items.map Item.blank = q.blank.items := by
  have hrest : (q.rest.flatMap fun clause => codes " AND " ++ clause.items).map Item.blank =
      (q.rest.map Clause.blank).flatMap fun clause => codes " AND " ++ clause.items := by
    simp only [List.map_flatMap, List.flatMap_map, List.map_append, map_blank_codes, Clause.map_blank_items]
  rw [items, items, blank]
  cases q.form with
  | predicate => rw [List.map_append, hrest, Clause.map_blank_items]
  | classChain type => simp only [List.map_append, hrest, map_blank_codes, Clause.map_blank_items]

/-- What is read of a query, with all texts empty. -/
def outline (q : Query) : Option (List Item) := (readItems q.value.toList).map (List.map Item.blank)

theorem outline_eq (h : q.Plain) : q.outline = some q.blank.items := by
  rw [outline, (reads_value h).readItems_eq, Option.map_some, map_blank_items]

end Query

/-! ## Queries for a selector -/

namespace Criteria

variable {c c' : Criteria} {q : Query}

def allQueries (c : Criteria) : List Query :=
  c.exactQuery :: c.containsQuery :: (c.idQueries ++ c.textQueries ++ c.interactiveQueries)

/-- Both ask for the same states, and an id or a text is set in both or in none. -/
structure SetAlike (c c' : Criteria) : Prop where
  enabled : c.enabled = c'.enabled
  selected : c.selected = c'.selected
  focused : c.focused = c'.focused
  id : (givenText? c.id).isSome = (givenText? c'.id).isSome
  text : (givenText? c.text).isSome = (givenText? c'.text).isSome

theorem plain_of_mem_stateClauses {clause : Clause} (h : clause ∈ c.stateClauses) : clause.Plain := by
  obtain ⟨_, _, rfl⟩ | ⟨_, _, rfl⟩ | ⟨_, _, rfl⟩ := mem_stateClauses.mp h
  · exact (by decide : literalMark ∉ "enabled".toList)
  · exact (by decide : literalMark ∉ "selected".toList)
  · exact (by decide : literalMark ∉ "hasFocus".toList)

theorem plain_chain {name type : String} {first : Clause} (htype : literalMark ∉ type.toList) (hfirst : first.Plain) :
    Query.Plain ⟨name, .classChain type, first, c.stateClauses⟩ := by
  refine ⟨?_, List.forall_mem_cons.mpr ⟨hfirst, fun _ => plain_of_mem_stateClauses⟩⟩
  rintro _ ⟨⟩
  exact htype

theorem plain_predicate {name : String} {first : Clause} (hfirst : first.Plain) :
    Query.Plain ⟨name, .predicate, first, c.stateClauses⟩ :=
  ⟨nofun, List.forall_mem_cons.mpr ⟨hfirst, fun _ => plain_of_mem_stateClauses⟩⟩

theorem plain_typed {name type : String} {next : Clause} (hnext : next.Plain) :
    Query.Plain ⟨name, .predicate, .typeIs type, next :: c.stateClauses⟩ :=
  ⟨nofun, List.forall_mem_cons.mpr ⟨trivial, List.forall_mem_cons.mpr ⟨hnext, fun _ => plain_of_mem_stateClauses⟩⟩⟩

theorem plain_anyOf {names : List String} (h : names ⊆ Clause.textNames) (comparison : Comparison) (text : String) :
    (Clause.anyOf names comparison text).Plain := fun name hname =>
  (by decide : ∀ name ∈ Clause.textNames, literalMark ∉ name.toList) name (h hname)

theorem plain_of_mem_fieldQueries {text : String} {button : Clause} (hbutton : button.Plain)
    (h : q ∈ c.fieldQueries text button) : q.Plain := by
  have hfield : (fieldClause text).Plain := plain_anyOf (by decide) _ _
  have hplain : (plainFieldClause text).Plain := plain_anyOf (by decide) _ _
  simp only [fieldQueries, List.mem_cons, List.not_mem_nil, or_false] at h
  obtain rfl | rfl | rfl | rfl | rfl | rfl | rfl := h
  · exact plain_chain (by decide) hfield
  · exact plain_chain (by decide) hfield
  · exact plain_chain (by decide) hbutton
  · exact plain_typed hplain
  · exact plain_typed hplain
  · exact plain_typed hplain
  · exact plain_typed hbutton

theorem idQueries_of_id {i : String} (h : givenText? c.id = some i) : c.idQueries =
    [⟨"id", .classChain anyType, .nameContains i, c.stateClauses⟩,
      ⟨"id", .predicate, .nameContains i, c.stateClauses⟩] := by
  obtain ⟨hid, hne⟩ := Option.filter_eq_some_iff.mp h
  simp_all [idQueries]

theorem textQueries_of_text {t : String} (h : givenText? c.text = some t) : c.textQueries =
    c.fieldQueries t (.anyOf ["label", "name"] .containsFolded t)
      ++ [⟨"any_text", .predicate, c.containsClause, c.stateClauses⟩] := by
  rw [textQueries, wantedText?, ← givenText?, h]

theorem interactiveQueries_of_text {t : String} (h : givenText? c.text = some t) :
    c.interactiveQueries = c.fieldQueries t (.anyOf ["label", "name"] .equalFolded t) := by
  rw [interactiveQueries, wantedText?, ← givenText?, h]

theorem interactiveQueries_of_no_text (h : givenText? c.text = none) : c.interactiveQueries = [] := by
  rw [interactiveQueries, wantedText?, ← givenText?, h]

theorem plain_of_mem_allQueries (h : q ∈ c.allQueries) : q.Plain := by
  have hcontains : c.containsClause.Plain := plain_anyOf (by decide) _ _
  simp only [allQueries, List.mem_cons, List.mem_append] at h
  obtain rfl | rfl | (h | h) | h := h
  · exact plain_predicate (plain_anyOf (by decide) _ _)
  · exact plain_predicate hcontains
  · cases hid : givenText? c.id with
    | none => simp [idQueries_of_no_id hid] at h
    | some i =>
        rw [idQueries_of_id hid, List.mem_cons, List.mem_singleton] at h
        obtain rfl | rfl := h
        · exact plain_chain (by decide) trivial
        · exact plain_predicate trivial
  · cases htext : givenText? c.text with
    | none => simp [textQueries_of_no_text htext] at h
    | some t =>
        rw [textQueries_of_text htext, List.mem_append, List.mem_singleton] at h
        obtain h | rfl := h
        · exact plain_of_mem_fieldQueries (plain_anyOf (by decide) _ _) h
        · exact plain_predicate hcontains
  · cases htext : givenText? c.text with
    | none => simp [interactiveQueries_of_no_text htext] at h
    | some t =>
        rw [interactiveQueries_of_text htext] at h
        exact plain_of_mem_fieldQueries (plain_anyOf (by decide) _ _) h

namespace SetAlike

theorem stateClauses_eq (h : c.SetAlike c') : c.stateClauses = c'.stateClauses := by
  rw [stateClauses, stateClauses, h.enabled, h.selected, h.focused]

theorem map_blank_fieldQueries (h : c.SetAlike c') {t t' : String} {button button' : Clause}
    (hbutton : button.blank = button'.blank) :
    (c.fieldQueries t button).map Query.blank = (c'.fieldQueries t' button').map Query.blank := by
  simp only [fieldQueries, List.map_cons, List.map_nil, Query.blank, h.stateClauses_eq, hbutton]
  rfl

theorem map_blank_idQueries (h : c.SetAlike c') : c.idQueries.map Query.blank = c'.idQueries.map Query.blank := by
  have hset := h.id
  cases hid : givenText? c.id <;> cases hid' : givenText? c'.id <;> rw [hid, hid'] at hset
  case none.none => rw [idQueries_of_no_id hid, idQueries_of_no_id hid']
  case none.some => cases hset
  case some.none => cases hset
  case some.some =>
    rw [idQueries_of_id hid, idQueries_of_id hid', h.stateClauses_eq]
    rfl

theorem map_blank_textQueries (h : c.SetAlike c') :
    c.textQueries.map Query.blank = c'.textQueries.map Query.blank ∧
      c.interactiveQueries.map Query.blank = c'.interactiveQueries.map Query.blank := by
  have hset := h.text
  cases htext : givenText? c.text <;> cases htext' : givenText? c'.text <;> rw [htext, htext'] at hset
  case none.none =>
    rw [textQueries_of_no_text htext, textQueries_of_no_text htext', interactiveQueries_of_no_text htext,
      interactiveQueries_of_no_text htext']
    exact ⟨rfl, rfl⟩
  case none.some => cases hset
  case some.none => cases hset
  case some.some =>
    rw [textQueries_of_text htext, textQueries_of_text htext', interactiveQueries_of_text htext,
      interactiveQueries_of_text htext', List.map_append, List.map_append, h.stateClauses_eq]
    rw [h.map_blank_fieldQueries rfl, h.map_blank_fieldQueries rfl]
    exact ⟨rfl, rfl⟩

theorem map_blank_allQueries (h : c.SetAlike c') : c.allQueries.map Query.blank = c'.allQueries.map Query.blank := by
  obtain ⟨htext, hinteractive⟩ := h.map_blank_textQueries
  simp only [allQueries, List.map_cons, List.map_append, h.map_blank_idQueries, htext, hinteractive]
  rw [exactQuery, exactQuery, containsQuery, containsQuery, h.stateClauses_eq]
  rfl

end SetAlike

end Criteria

/-! ## Main result -/

/-- A literal is read back from the front of any text, and no two texts have the same literal. All queries for a
selector are read as what they were written from, each text in one literal; what stands around the texts only
depends on the states and on whether an id and a text are set. -/
theorem quoted_texts_stay_literals :
    (∀ (text : String) (behind : List Char),
      readLiteral ((literal text).toList ++ behind) = some (text.toList, behind)) ∧
    (∀ text : String, (literal text).toList = literalMark ::
      (Text.replaceChar literalMark ['\\', literalMark] (Text.replaceChar '\\' ['\\', '\\'] text.toList) ++
        [literalMark])) ∧
    Function.Injective literal ∧
    (∀ c : Criteria, ∀ q ∈ c.allQueries, readItems q.value.toList = some q.items) ∧
    ∀ c c' : Criteria, c.SetAlike c' → c.allQueries.map Query.outline = c'.allQueries.map Query.outline := by
  refine ⟨readLiteral_literal, fun text => ?_, literal_injective, fun c q hq => ?_, fun c c' h => ?_⟩
  · rw [toList_literal, escaped_eq_replaceChar]
  · exact (Query.reads_value (Criteria.plain_of_mem_allQueries hq)).readItems_eq
  · -- Both sides are read from queries without texts, and these are the same.
    have houtline : ∀ c : Criteria, c.allQueries.map Query.outline =
        (c.allQueries.map Query.blank).map fun q => some q.items := by
      intro c
      rw [List.map_map]
      exact List.map_congr_left fun q hq => Query.outline_eq (Criteria.plain_of_mem_allQueries hq)
    rw [houtline, houtline, h.map_blank_allQueries]

-- A text that would close its literal and add a condition stays one literal.
example : readItems (literal "x\\' OR 'y").toList = some [.literal "x\\' OR 'y".toList] := by
  cbv

end ElementFinder
