import ElementFinder.Proofs.Matching

/-!
# Finding by surroundings

What the search in one snapshot finds for a selector with an anchor or with descendants, and when it
fails. Its candidates are the nodes that meet the conditions on themselves, lie to the first anchor
that counts and have all wanted descendants; one of them is found if there are any.
-/

namespace ElementFinder

variable {n : Node} {f : Failure}

/-! ## Conditions that cannot be judged -/

theorem isOwn_of_ofText_error {t : String} (h : TextTest.ofText t = .error f) : f.isOwn = false := by
  rw [TextTest.ofText] at h
  split at h
  · split at h <;> cases h <;> rfl
  · cases h

namespace Criteria

variable {c : Criteria}

theorem isOwn_of_textMeets_error {a : Attributes} (h : c.textMeets a = .error f) :
    f.isOwn = false := by
  rw [textMeets] at h
  split at h
  · cases h
  · obtain ht | ⟨_, _, h⟩ := except_bind_error.mp h
    · exact isOwn_of_ofText_error ht
    · cases h

theorem matchesNode_eq_error (h : c.matchesNode n = .error f) :
    c.textMeets n.attributes = .error f := by
  obtain ht | ⟨_, _, h⟩ := except_bind_error.mp h
  · exact ht
  · cases h

theorem filterNodes_eq_error {nodes : List Node} (h : c.filterNodes nodes = .error f) :
    ∃ n ∈ nodes, c.textMeets n.attributes = .error f := by
  rw [filterNodes_eq] at h
  obtain ⟨n, hn, h⟩ := exists_of_passing_error h
  exact ⟨n, hn, matchesNode_eq_error h⟩

theorem filterNodes_eq_nil {nodes : List Node} :
    c.filterNodes nodes = .ok [] ↔ ∀ n ∈ nodes, c.matchesNode n = .ok false := by
  rw [filterNodes_eq, passing_eq_ok_iff, eq_comm (a := []), List.filter_eq_nil_iff]
  constructor
  · rintro ⟨hall, hnone⟩ n hn
    obtain ⟨b, hb⟩ := hall n hn
    cases b with
    | false => exact hb
    | true => exact absurd (passes_iff.mpr hb) (hnone n hn)
  · intro h
    exact ⟨fun n hn => ⟨false, h n hn⟩, fun n hn => by simp [passes, h n hn]⟩

/-! ## Conditions on states -/

/-- The node has the states that are asked for. -/
def StatesMet (c : Criteria) (n : Node) : Prop :=
  stateMeets c.enabled n.attributes.enabled = true ∧
    stateMeets c.selected n.attributes.selected = true ∧
    stateMeets c.focused n.attributes.focused = true

/-- Without a text, a name or a size only the states are left to be met. -/
theorem matchesNode_iff_statesMet (h : c.hasBase = false) :
    c.matchesNode n = .ok true ↔ c.StatesMet n := by
  simp only [hasBase, hasSize, Bool.or_eq_false_iff, Option.isSome_eq_false_iff,
    Option.isNone_iff_eq_none] at h
  obtain ⟨⟨htext, hid⟩, hwidth, hheight⟩ := h
  rw [matchesNode_eq_true]
  simp [textMeets, restMeets, idMeets, sizeMeets, htext, hid, hwidth, hheight, StatesMet, and_assoc]

end Criteria

/-! ## Descendants -/

theorem hasDescendant_iff {parent : Node} {c : Criteria} {pool : List Node} {b : Bool}
    (h : hasDescendant parent c pool = .ok b) :
    b = true ↔ ∃ m ∈ pool, parent.bounds.contains m.bounds = true ∧ c.matchesNode m = .ok true := by
  induction pool with
  | nil =>
      cases h
      simp
  | cons m rest ih =>
      rw [hasDescendant] at h
      split at h
      · next hin =>
        obtain ⟨here, hm, h⟩ := except_bind_ok.mp h
        cases here with
        | true =>
            cases h
            simp [hin, hm]
        | false => simp [ih h, hm]
      · next hout => simp [ih h, hout]

theorem hasDescendant_error {parent : Node} {c : Criteria} {pool : List Node}
    (h : hasDescendant parent c pool = .error f) : ∃ a, c.textMeets a = .error f := by
  induction pool with
  | nil => cases h
  | cons m rest ih =>
      rw [hasDescendant] at h
      split at h
      · obtain hm | ⟨here, hm, h⟩ := except_bind_error.mp h
        · exact ⟨m.attributes, Criteria.matchesNode_eq_error hm⟩
        · cases here with
          | true => cases h
          | false => exact ih h
      · exact ih h

theorem hasDescendants_iff {parent : Node} {pool : List Node} {ds : List Selector} {b : Bool}
    (h : hasDescendants parent pool ds = .ok b) :
    b = true ↔ ∀ d ∈ ds, ∃ m ∈ pool, parent.bounds.contains m.bounds = true ∧
      d.criteria.matchesNode m = .ok true := by
  induction ds with
  | nil =>
      cases h
      simp
  | cons d rest ih =>
      obtain ⟨here, hd, h⟩ := except_bind_ok.mp h
      rw [List.forall_mem_cons, ← hasDescendant_iff hd]
      cases here with
      | true => simp [ih h]
      | false =>
          cases h
          simp

theorem hasDescendants_error {parent : Node} {pool : List Node} {ds : List Selector}
    (h : hasDescendants parent pool ds = .error f) :
    ∃ d ∈ ds, ∃ a, d.criteria.textMeets a = .error f := by
  induction ds with
  | nil => cases h
  | cons d rest ih =>
      obtain hd | ⟨here, _, h⟩ := except_bind_error.mp h
      · exact ⟨d, List.mem_cons_self, hasDescendant_error hd⟩
      · cases here with
        | true =>
            obtain ⟨d', hd', h⟩ := ih h
            exact ⟨d', List.mem_cons_of_mem _ hd', h⟩
        | false => cases h

namespace Selector

variable {s anchor : Selector} {page : Snapshot} {r : Relation} {base related kept : List Node}

/-! ## The candidates of each step -/

/-- For each wanted descendant a node of the page is inside the rectangle. -/
def HasDescendants (s : Selector) (page : Snapshot) (n : Node) : Prop :=
  ∀ d ∈ s.descendants, ∃ m ∈ page.nodes, n.bounds.contains m.bounds = true ∧
    d.criteria.matchesNode m = .ok true

/-- The node is an anchor, and no node that meets the conditions on itself lies to an anchor before
it. -/
def FirstAnchor (s : Selector) (page : Snapshot) (r : Relation) (anchor : Selector) (a : Node) :
    Prop :=
  ∃ before after, page.nodes = before ++ a :: after ∧ anchor.criteria.matchesNode a = .ok true ∧
    ∀ b ∈ before, anchor.criteria.matchesNode b = .ok true →
      ∀ m ∈ page.nodes, s.InBase m → r.holds m.bounds b.bounds = false

theorem FirstAnchor.mem {a : Node} (h : s.FirstAnchor page r anchor a) :
    a ∈ page.nodes ∧ anchor.criteria.matchesNode a = .ok true := by
  obtain ⟨before, after, hpage, ha, _⟩ := h
  exact ⟨by simp [hpage], ha⟩

/-- The conditions on the node itself can be judged for all nodes, as far as they are looked at. -/
def BaseJudged (s : Selector) (page : Snapshot) : Prop :=
  s.criteria.hasBase = true → ∀ n ∈ page.nodes, ∃ b, s.criteria.matchesNode n = .ok b

theorem exists_baseCandidates : (∃ base, baseCandidates s page = .ok base) ↔ s.BaseJudged page := by
  rw [baseCandidates, BaseJudged]
  split
  · next hb =>
    simp only [Criteria.filterNodes_eq, passing_eq_ok_iff, hb, forall_const]
    constructor
    · rintro ⟨_, h, _⟩
      exact h
    · intro h
      exact ⟨_, h, rfl⟩
  · next hb => simp [hb]

theorem baseCandidates_error (h : baseCandidates s page = .error f) :
    ∃ a, s.criteria.textMeets a = .error f := by
  rw [baseCandidates] at h
  split at h
  · obtain ⟨n, _, h⟩ := Criteria.filterNodes_eq_error h
    exact ⟨_, h⟩
  · cases h

theorem relatedCandidates_unanchored (hs : s.relative? = none) :
    relatedCandidates s page base = .ok base := by
  rw [relatedCandidates, hs]

theorem relatedCandidates_anchored (hs : s.relative? = some (r, anchor)) :
    relatedCandidates s page base =
      anchor.criteria.filterNodes page.nodes >>= fun anchors =>
        if anchors.isEmpty then anchor.describe >>= fun d => .error (.anchorNotFound d r.name)
        else .ok (relatedToFirst r base anchors) := by
  rw [relatedCandidates, hs]
  refine bind_congr fun anchors => ?_
  cases anchors with
  | nil => cases anchor.describe <;> rfl
  | cons a anchors => rfl

theorem mem_relatedToFirst_anchors (hb : baseCandidates s page = .ok base) {anchors : List Node}
    (ha : anchor.criteria.filterNodes page.nodes = .ok anchors) :
    n ∈ relatedToFirst r base anchors ↔
      n ∈ base ∧ ∃ a, s.FirstAnchor page r anchor a ∧ r.holds n.bounds a.bounds = true := by
  rw [Criteria.filterNodes_eq, passing_eq_ok_iff] at ha
  obtain ⟨_, rfl⟩ := ha
  rw [mem_relatedToFirst]
  refine and_congr_right fun _ => ?_
  constructor
  · rintro ⟨before, a, after, hsplit, hn, hbefore⟩
    -- The anchors before this one are those among the nodes before it.
    obtain ⟨first, others, hpage, rfl, hothers⟩ := List.filter_eq_append_iff.mp hsplit
    obtain ⟨skipped, rest, rfl, hskipped, ha, rfl⟩ := List.filter_eq_cons_iff.mp hothers
    refine ⟨a, ⟨first ++ skipped, rest, by simp [hpage], passes_iff.mp ha, ?_⟩, hn⟩
    intro b hb' hmatch m hm hbase
    rcases List.mem_append.mp hb' with hb' | hb'
    · exact hbefore b (List.mem_filter.mpr ⟨hb', passes_iff.mpr hmatch⟩) m
        ((mem_baseCandidates hb).mpr ⟨hm, hbase⟩)
    · exact absurd (passes_iff.mpr hmatch) (hskipped b hb')
  · rintro ⟨a, ⟨before, after, hpage, ha, hbefore⟩, hn⟩
    let isAnchor := passes anchor.criteria.matchesNode
    refine ⟨before.filter isAnchor, a, after.filter isAnchor, ?_, hn, ?_⟩
    · rw [hpage, List.filter_append, List.filter_cons_of_pos (passes_iff.mpr ha)]
    · intro b hb' m hm
      obtain ⟨hb', hmatch⟩ := List.mem_filter.mp hb'
      obtain ⟨hm, hbase⟩ := (mem_baseCandidates hb).mp hm
      exact hbefore b hb' (passes_iff.mp hmatch) m hm hbase

/-- The candidates after the second step: with an anchor, those that lie to the first one that
counts. -/
theorem mem_relatedCandidates_iff (hb : baseCandidates s page = .ok base)
    (h : relatedCandidates s page base = .ok related) :
    n ∈ related ↔ n ∈ base ∧ ∀ r anchor, s.relative? = some (r, anchor) →
      ∃ a, s.FirstAnchor page r anchor a ∧ r.holds n.bounds a.bounds = true := by
  cases hs : s.relative? with
  | none =>
      rw [relatedCandidates_unanchored hs] at h
      cases h
      simp
  | some p =>
      obtain ⟨r, anchor⟩ := p
      rw [relatedCandidates_anchored hs] at h
      obtain ⟨anchors, ha, h⟩ := except_bind_ok.mp h
      split at h
      · obtain ⟨_, _, h⟩ := except_bind_ok.mp h
        cases h
      · cases h
        rw [mem_relatedToFirst_anchors hb ha]
        refine and_congr_right fun _ => ?_
        constructor
        · rintro h _ _ ⟨⟩
          exact h
        · intro h
          exact h r anchor rfl

theorem relatedCandidates_error (h : relatedCandidates s page base = .error f) :
    ∃ r anchor, s.relative? = some (r, anchor) ∧
      ((∃ a, anchor.criteria.textMeets a = .error f) ∨ anchor.describe = .error f ∨
        ∃ d, f = .anchorNotFound d r.name ∧ anchor.describe = .ok d ∧
          ∀ a ∈ page.nodes, anchor.criteria.matchesNode a = .ok false) := by
  cases hs : s.relative? with
  | none =>
      rw [relatedCandidates_unanchored hs] at h
      cases h
  | some p =>
      obtain ⟨r, anchor⟩ := p
      refine ⟨r, anchor, rfl, ?_⟩
      rw [relatedCandidates_anchored hs] at h
      obtain ha | ⟨anchors, ha, h⟩ := except_bind_error.mp h
      · obtain ⟨a, _, ha⟩ := Criteria.filterNodes_eq_error ha
        exact Or.inl ⟨_, ha⟩
      · split at h
        · next hnone =>
          rw [List.isEmpty_iff.mp hnone] at ha
          obtain hd | ⟨d, hd, h⟩ := except_bind_error.mp h
          · exact Or.inr (Or.inl hd)
          · cases h
            exact Or.inr (Or.inr ⟨d, rfl, hd, Criteria.filterNodes_eq_nil.mp ha⟩)
        · cases h

theorem mem_keepCandidates_iff (h : s.keepCandidates page related = .ok kept) :
    n ∈ kept ↔ n ∈ related ∧ s.HasDescendants page n := by
  rw [keepCandidates] at h
  split at h
  · next hnone =>
    cases h
    simp [HasDescendants, List.isEmpty_iff.mp hnone]
  · rw [mem_filterDescendants h]
    refine and_congr_right fun hn => ?_
    rw [filterDescendants_eq, passing_eq_ok_iff] at h
    obtain ⟨b, hb⟩ := h.1 n hn
    rw [hb, Except.ok.injEq, hasDescendants_iff hb]
    rfl

theorem keepCandidates_error (h : s.keepCandidates page related = .error f) :
    ∃ d ∈ s.descendants, ∃ a, d.criteria.textMeets a = .error f := by
  rw [keepCandidates] at h
  split at h
  · cases h
  · rw [filterDescendants_eq] at h
    obtain ⟨n, _, h⟩ := exists_of_passing_error h
    exact hasDescendants_error h

theorem chooseCandidate_eq (s : Selector) (candidates : List Node) :
    (candidates = [] ∧ s.chooseCandidate candidates = .ok none) ∨
      ∃ n ∈ candidates, s.chooseCandidate candidates = .ok (some n) := by
  cases candidates with
  | nil => exact Or.inl ⟨rfl, rfl⟩
  | cons m rest =>
      have hne : clickableFirst (m :: rest) ≠ [] := by
        intro h
        have : m ∈ clickableFirst (m :: rest) := mem_clickableFirst.mpr List.mem_cons_self
        simp [h] at this
      obtain ⟨n, hn⟩ := exists_pick hne s.index
      exact Or.inr ⟨n, mem_clickableFirst.mp (mem_of_pick hn), hn⟩

/-! ## The end of the search -/

/-- The node is a candidate of the last step: it meets the conditions on itself, it lies to the first
anchor that counts, and it has all wanted descendants. -/
def Fits (s : Selector) (page : Snapshot) (n : Node) : Prop :=
  n ∈ page.nodes ∧ s.InBase n ∧
    (∀ r anchor, s.relative? = some (r, anchor) →
      ∃ a, s.FirstAnchor page r anchor a ∧ r.holds n.bounds a.bounds = true) ∧
    s.HasDescendants page n

theorem mem_kept_iff (hb : baseCandidates s page = .ok base)
    (hr : relatedCandidates s page base = .ok related)
    (hk : s.keepCandidates page related = .ok kept) : n ∈ kept ↔ s.Fits page n := by
  rw [mem_keepCandidates_iff hk, mem_relatedCandidates_iff hb hr, mem_baseCandidates hb, Fits,
    and_assoc, and_assoc]

/-- The conditions whose texts a search looks at: those of the selector itself, of its anchor and of
its descendants. -/
def judged (s : Selector) : List Criteria :=
  s.criteria :: ((s.relative?.map fun p => p.2.criteria).toList ++ s.descendants.map (·.criteria))

/-- The failure is that of describing the selector or its anchor. -/
def Undescribed (s : Selector) (f : Failure) : Prop :=
  s.describe = .error f ∨ ∃ r anchor, s.relative? = some (r, anchor) ∧ anchor.describe = .error f

theorem describe_error (h : s.describe = .error f) : ∃ fault, f = .numeral fault := by
  rw [describe] at h
  split at h
  · exact Value.writeOrFail_error h
  · cases h

theorem isOwn_of_describe_error (h : s.describe = .error f) : f.isOwn = false := by
  obtain ⟨fault, rfl⟩ := describe_error h
  rfl

/-- How a search fails: a text cannot be judged, a description cannot be written, there is no anchor,
or no node fits. -/
theorem resolveIn_error (h : s.resolveIn page = .error f) :
    (∃ c ∈ s.judged, ∃ a, c.textMeets a = .error f) ∨ s.Undescribed f ∨
      (∃ r anchor d, s.relative? = some (r, anchor) ∧ f = .anchorNotFound d r.name ∧
        anchor.describe = .ok d ∧ s.BaseJudged page ∧
        ∀ a ∈ page.nodes, anchor.criteria.matchesNode a = .ok false) ∨
      ∃ d, f = .noMatch d none ∧ ¬∃ n, s.Fits page n := by
  rw [resolveIn_eq] at h
  obtain hb | ⟨base, hb, h⟩ := except_bind_error.mp h
  · exact Or.inl ⟨s.criteria, List.mem_cons_self, baseCandidates_error hb⟩
  obtain hr | ⟨related, hr, h⟩ := except_bind_error.mp h
  · obtain ⟨r, anchor, hs, ht | hd | ⟨d, hf, hd, hnone⟩⟩ := relatedCandidates_error hr
    · exact Or.inl ⟨anchor.criteria, by simp [judged, hs], ht⟩
    · exact Or.inr (Or.inl (Or.inr ⟨r, anchor, hs, hd⟩))
    · have hjudged := exists_baseCandidates.mp ⟨base, hb⟩
      exact Or.inr (Or.inr (Or.inl ⟨r, anchor, d, hs, hf, hd, hjudged, hnone⟩))
  obtain hk | ⟨kept, hk, h⟩ := except_bind_error.mp h
  · obtain ⟨d, hd, ht⟩ := keepCandidates_error hk
    exact Or.inl ⟨d.criteria, by simp [judged]; exact Or.inr (Or.inr ⟨d, hd, rfl⟩), ht⟩
  obtain ⟨rfl, hchosen⟩ | ⟨n, _, hchosen⟩ := s.chooseCandidate_eq kept
  · rw [hchosen] at h
    change s.describe >>= _ = _ at h
    obtain hd | ⟨d, _, h⟩ := except_bind_error.mp h
    · exact Or.inr (Or.inl (Or.inl hd))
    · cases h
      refine Or.inr (Or.inr (Or.inr ⟨d, rfl, ?_⟩))
      rintro ⟨n, hn⟩
      have := (mem_kept_iff hb hr hk).mpr hn
      simp at this
  · rw [hchosen] at h
    cases h

/-- A failure of the library's own family is that of no anchor or no fitting node. -/
theorem resolveIn_own_error (h : s.resolveIn page = .error f) (hf : f.isOwn = true) :
    (∃ r anchor d, s.relative? = some (r, anchor) ∧ f = .anchorNotFound d r.name ∧
        anchor.describe = .ok d ∧ s.BaseJudged page ∧
        ∀ a ∈ page.nodes, anchor.criteria.matchesNode a = .ok false) ∨
      ∃ d, f = .noMatch d none ∧ ¬∃ n, s.Fits page n := by
  obtain ⟨c, _, a, ht⟩ | (hd | ⟨_, _, _, hd⟩) | hend := resolveIn_error h
  · simp [Criteria.isOwn_of_textMeets_error ht] at hf
  · simp [isOwn_of_describe_error hd] at hf
  · simp [isOwn_of_describe_error hd] at hf
  · exact hend

end Selector

/-! ## Main results -/

open Selector

variable {s : Selector} {page : Snapshot}

/-- A found node is a node of the page that lies to an anchor and has all wanted descendants. It meets
all conditions on itself if one of them is on text, name or size; if they are on states alone, it
meets them only by chance. -/
theorem found_node_has_surroundings (h : s.resolveIn page = .ok n) :
    n ∈ page.nodes ∧
      (s.criteria.matchesNode n = .ok true ↔ s.criteria.hasBase = true ∨ s.criteria.StatesMet n) ∧
      (∀ r anchor, s.relative? = some (r, anchor) →
        ∃ a ∈ page.nodes, anchor.criteria.matchesNode a = .ok true ∧
          r.holds n.bounds a.bounds = true) ∧
      ∀ d ∈ s.descendants, ∃ m ∈ page.nodes, n.bounds.contains m.bounds = true ∧
        d.criteria.matchesNode m = .ok true := by
  obtain ⟨base, related, kept, hb, hr, hk, hn⟩ := resolveIn_inv h
  obtain ⟨hpage, hbase, hrelated, hdescendants⟩ := (mem_kept_iff hb hr hk).mp hn
  refine ⟨hpage, ?_, fun r anchor hs => ?_, hdescendants⟩
  · cases hc : s.criteria.hasBase with
    | true => simp [hbase hc]
    | false => simp [Criteria.matchesNode_iff_statesMet hc]
  · obtain ⟨a, ha, hholds⟩ := hrelated r anchor hs
    exact ⟨a, ha.mem.1, ha.mem.2, hholds⟩

/-- A page with a disabled and an enabled button in a card. -/
def buttonsInCard : Snapshot := .ofForest [
  .node { type := "XCUIElementTypeOther", name := "card", bounds := ⟨0, 0, 100, 100⟩ } [
    .node { type := "XCUIElementTypeButton", name := "send", bounds := ⟨0, 0, 100, 20⟩
            enabled := false } [],
    .node { type := "XCUIElementTypeButton", name := "save", bounds := ⟨0, 40, 100, 20⟩ } []]]

/-- The card of that page. -/
def buttonCard : Node where
  attributes := { type := "XCUIElementTypeOther", name := "card", bounds := ⟨0, 0, 100, 100⟩ }
  id := 0

/-- The disabled button of that page. -/
def sendButton : Node where
  attributes :=
    { type := "XCUIElementTypeButton", name := "send", bounds := ⟨0, 0, 100, 20⟩, enabled := false }
  id := 1
  parent := some 0
  depth := 1

/-- The enabled button of that page. -/
def saveButton : Node where
  attributes := { type := "XCUIElementTypeButton", name := "save", bounds := ⟨0, 40, 100, 20⟩ }
  id := 2
  parent := some 0
  depth := 1

/-- Asks for an element of a name. -/
def named (name : String) : Selector := { criteria := { id := some name } }

/-- Asks for an enabled element in a card. -/
def enabledInCard : Selector :=
  { criteria := { enabled := some true }, anchors := { childOf := some (named "card") } }

theorem resolveIn_enabledInCard : enabledInCard.resolveIn buttonsInCard = .ok sendButton := by
  have hrelated : relatedCandidates enabledInCard buttonsInCard buttonsInCard.nodes =
      .ok [buttonCard, sendButton, saveButton] := rfl
  have hchosen : enabledInCard.chooseCandidate [buttonCard, sendButton, saveButton] =
      .ok (some sendButton) :=
    (chooseCandidate_unindexed rfl).mpr ⟨[buttonCard], [saveButton], rfl, by decide, by decide⟩
  exact resolveIn_of_chosen rfl hrelated rfl hchosen

theorem found_node_has_surroundings_send :
    enabledInCard.resolveIn buttonsInCard = .ok sendButton ∧
      sendButton ∈ buttonsInCard.nodes ∧
      (enabledInCard.criteria.matchesNode sendButton = .ok true ↔
        enabledInCard.criteria.hasBase = true ∨ enabledInCard.criteria.StatesMet sendButton) ∧
      (∀ r anchor, enabledInCard.relative? = some (r, anchor) →
        ∃ a ∈ buttonsInCard.nodes, anchor.criteria.matchesNode a = .ok true ∧
          r.holds sendButton.bounds a.bounds = true) ∧
      ∀ d ∈ enabledInCard.descendants, ∃ m ∈ buttonsInCard.nodes,
        sendButton.bounds.contains m.bounds = true ∧ d.criteria.matchesNode m = .ok true :=
  ⟨resolveIn_enabledInCard, found_node_has_surroundings resolveIn_enabledInCard⟩

/-- The disabled button is found although an enabled element is asked for. -/
theorem found_node_is_disabled :
    enabledInCard.resolveIn buttonsInCard = .ok sendButton ∧
      enabledInCard.criteria.enabled = some true ∧ sendButton.attributes.enabled = false ∧
      enabledInCard.criteria.matchesNode sendButton = .ok false :=
  ⟨resolveIn_enabledInCard, rfl, rfl, rfl⟩

/-- If no node is said to match, then no node meets the conditions on itself, has all wanted
descendants and lies to the first anchor that counts. No anchor is said to be found exactly if the
conditions on the node itself can be judged, all nodes are judged to be no anchor, and the anchor can
be described. -/
theorem unfound_node_has_no_surroundings (s : Selector) (page : Snapshot) :
    (∀ d detail, s.resolveIn page = .error (.noMatch d detail) →
      ¬∃ n ∈ page.nodes, s.InBase n ∧
        (∀ r anchor, s.relative? = some (r, anchor) →
          ∃ a, s.FirstAnchor page r anchor a ∧ r.holds n.bounds a.bounds = true) ∧
        s.HasDescendants page n) ∧
    ∀ d relation, s.resolveIn page = .error (.anchorNotFound d relation) ↔
      s.BaseJudged page ∧ ∃ r anchor, s.relative? = some (r, anchor) ∧ relation = r.name ∧
        (∀ a ∈ page.nodes, anchor.criteria.matchesNode a = .ok false) ∧ anchor.describe = .ok d := by
  refine ⟨fun d detail h => ?_, fun d relation => ⟨fun h => ?_, ?_⟩⟩
  · obtain ⟨_, _, _, _, hf, _⟩ | ⟨_, _, hnone⟩ := resolveIn_own_error h rfl
    · cases hf
    · exact hnone
  · obtain ⟨r, anchor, d', hs, hf, hd, hjudged, hnone⟩ | ⟨_, hf, _⟩ := resolveIn_own_error h rfl
    · cases hf
      exact ⟨hjudged, r, anchor, hs, rfl, hnone, hd⟩
    · cases hf
  · rintro ⟨hjudged, r, anchor, hs, rfl, hnone, hd⟩
    obtain ⟨base, hb⟩ := exists_baseCandidates.mpr hjudged
    rw [resolveIn_eq, hb]
    show relatedCandidates s page base >>= _ = _
    rw [relatedCandidates_anchored hs, Criteria.filterNodes_eq_nil.mpr hnone]
    show (anchor.describe >>= _) >>= _ = _
    rw [hd]
    rfl

/-- A page with two cards, the second of which holds a button. -/
def twoCards : Snapshot := .ofForest [
  .node { type := "XCUIElementTypeOther", name := "card", bounds := ⟨0, 0, 100, 100⟩ } [],
  .node { type := "XCUIElementTypeOther", name := "card", bounds := ⟨0, 200, 100, 100⟩ } [
    .node { type := "XCUIElementTypeButton", name := "buy", bounds := ⟨10, 210, 20, 20⟩ } []]]

/-- The card without a button. -/
def firstCard : Node where
  attributes := { type := "XCUIElementTypeOther", name := "card", bounds := ⟨0, 0, 100, 100⟩ }
  id := 0

/-- The button of that page. -/
def buyButton : Node where
  attributes := { type := "XCUIElementTypeButton", name := "buy", bounds := ⟨10, 210, 20, 20⟩ }
  id := 2
  parent := some 1
  depth := 1

/-- The card around the button. -/
def secondCard : Node where
  attributes := { type := "XCUIElementTypeOther", name := "card", bounds := ⟨0, 200, 100, 100⟩ }
  id := 1

/-- Asks for an element in a card that holds a button. -/
def buyInCard : Selector :=
  { anchors := { childOf := some (named "card") }, descendants := [named "buy"] }

/-- Asks for a text that has more turns than can be counted, below an element. -/
def endlessBelow : Selector :=
  { criteria := { text := some "a\x7b4294967295\x7d" }
    anchors := { below := some (named "total") } }

/-- No node is said to match although the button fits, as the first card counts alone. No missing
anchor is reported where the text of the selector itself cannot be judged. -/
theorem fitting_node_is_missed :
    ((∃ d, buyInCard.resolveIn twoCards = .error (.noMatch d none)) ∧
      buyInCard.relative? = some (.childOf, named "card") ∧
      buyButton ∈ twoCards.nodes ∧ buyInCard.criteria.matchesNode buyButton = .ok true ∧
      buyInCard.HasDescendants twoCards buyButton ∧
      secondCard ∈ twoCards.nodes ∧ (named "card").criteria.matchesNode secondCard = .ok true ∧
      Relation.childOf.holds buyButton.bounds secondCard.bounds = true) ∧
    endlessBelow.relative? = some (.below, named "total") ∧
      (∀ a ∈ twoCards.nodes, (named "total").criteria.matchesNode a = .ok false) ∧
      ∀ d relation, endlessBelow.resolveIn twoCards ≠ .error (.anchorNotFound d relation) := by
  have hmissed : ∃ d, buyInCard.resolveIn twoCards = .error (.noMatch d none) := by
    have hdescribed : buyInCard.describe.toOption.isSome = true := by decide +kernel
    have hrelated : relatedCandidates buyInCard twoCards twoCards.nodes = .ok [firstCard] := rfl
    cases hd : buyInCard.describe with
    | error f => simp [hd, Except.toOption] at hdescribed
    | ok d => exact ⟨d, resolveIn_of_nil rfl hrelated rfl hd⟩
  have hdescendants : buyInCard.HasDescendants twoCards buyButton := by
    intro d hd
    obtain rfl := List.mem_singleton.mp hd
    exact ⟨buyButton, by decide, by decide, rfl⟩
  have hnone : ∀ a ∈ twoCards.nodes, (named "total").criteria.matchesNode a = .ok false :=
    Criteria.filterNodes_eq_nil.mp rfl
  have hunjudged : (endlessBelow.criteria.matchesNode buyButton).toOption = none := by
    decide +kernel
  refine ⟨⟨hmissed, rfl, by decide, rfl, hdescendants, by decide, rfl, by decide⟩, rfl, hnone, ?_⟩
  intro d relation h
  obtain ⟨_, _, _, _, _, _, hjudged, _⟩ | ⟨_, hf, _⟩ := resolveIn_own_error h rfl
  · obtain ⟨b, hb⟩ := hjudged rfl buyButton (by decide)
    rw [hb] at hunjudged
    cases hunjudged
  · cases hf

end ElementFinder
