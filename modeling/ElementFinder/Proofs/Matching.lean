import ElementFinder.Proofs.Choice
import ElementFinder.Proofs.Results
import ElementFinder.Search.Plain
import ElementFinder.Search.Relative

/-!
# Where a found node comes from

Every filter of a search keeps some of the nodes that it is given, so a found node is a node of the
page that meets the conditions of its selector.
-/

namespace ElementFinder

/-! ## Filters that may fail -/

section

variable {test : Node → Except Failure Bool} {nodes found : List Node} {n : Node} {f : Failure}

/-- The nodes that pass a test, in their order; the test may fail. -/
def passing (test : Node → Except Failure Bool) : List Node → Except Failure (List Node)
  | [] => .ok []
  | n :: rest => do
    let here ← test n
    let more ← passing test rest
    return if here then n :: more else more

/-- The node passes the test. -/
def passes (test : Node → Except Failure Bool) (n : Node) : Bool :=
  match test n with
  | .ok b => b
  | .error _ => false

theorem passes_iff : passes test n = true ↔ test n = .ok true := by
  rw [passes]
  cases h : test n <;> simp

/-- If the test fails on no node, what passes is filtered out. -/
theorem passing_eq_ok_iff : passing test nodes = .ok found ↔
    (∀ n ∈ nodes, ∃ b, test n = .ok b) ∧ found = nodes.filter (passes test) := by
  induction nodes generalizing found with
  | nil => simp [passing, eq_comm]
  | cons m rest ih =>
      simp only [passing, except_bind_ok, ih, List.forall_mem_cons]
      constructor
      · rintro ⟨here, hm, more, ⟨hall, rfl⟩, h⟩
        cases h
        refine ⟨⟨⟨here, hm⟩, hall⟩, ?_⟩
        cases here <;> simp [passes, hm]
      · rintro ⟨⟨⟨here, hm⟩, hall⟩, rfl⟩
        refine ⟨here, hm, _, ⟨hall, rfl⟩, ?_⟩
        cases here <;> simp [passes, hm] <;> rfl

theorem mem_passing (h : passing test nodes = .ok found) :
    n ∈ found ↔ n ∈ nodes ∧ test n = .ok true := by
  obtain ⟨_, rfl⟩ := passing_eq_ok_iff.mp h
  rw [List.mem_filter, passes_iff]

theorem exists_of_passing_error (h : passing test nodes = .error f) :
    ∃ n ∈ nodes, test n = .error f := by
  induction nodes with
  | nil => cases h
  | cons m rest ih =>
      obtain hm | ⟨here, _, h⟩ := except_bind_error.mp h
      · exact ⟨m, List.mem_cons_self, hm⟩
      · obtain hr | ⟨more, _, h⟩ := except_bind_error.mp h
        · obtain ⟨n, hn, hf⟩ := ih hr
          exact ⟨n, List.mem_cons_of_mem _ hn, hf⟩
        · cases h

end

/-! ## Conditions on a node -/

namespace Criteria

variable {c : Criteria} {n : Node} {nodes found : List Node}

theorem matchesNode_eq_true :
    c.matchesNode n = .ok true ↔
      c.textMeets n.attributes = .ok true ∧ c.restMeets n.attributes = true := by
  rw [matchesNode, except_bind_ok]
  constructor
  · rintro ⟨a, ha, h⟩
    cases a <;> cases hr : c.restMeets n.attributes <;> simp [hr, pure, Except.pure] at h
    exact ⟨ha, rfl⟩
  · rintro ⟨ha, hr⟩
    exact ⟨true, ha, by rw [hr]; rfl⟩

theorem restMeets_iff : c.restMeets n.attributes = true ↔ c.idMeets n.attributes = true ∧
    sizeMeets c.width n.bounds.width c.effectiveTolerance = true ∧
    sizeMeets c.height n.bounds.height c.effectiveTolerance = true ∧
    stateMeets c.enabled n.attributes.enabled = true ∧ stateMeets c.selected n.attributes.selected = true ∧
    stateMeets c.focused n.attributes.focused = true := by
  simp only [restMeets, Bool.and_eq_true, and_assoc]
  rfl

theorem sizeMeets_of_matchesNode (h : c.matchesNode n = .ok true) :
    sizeMeets c.width n.bounds.width c.effectiveTolerance = true ∧
      sizeMeets c.height n.bounds.height c.effectiveTolerance = true := by
  obtain ⟨-, -, hw, hh, -⟩ := matchesNode_eq_true.mp h |>.imp_right restMeets_iff.mp
  exact ⟨hw, hh⟩

theorem filterNodes_eq : c.filterNodes nodes = passing c.matchesNode nodes := by
  induction nodes with
  | nil => rfl
  | cons m rest ih => rw [filterNodes, passing, ih]

/-- The filter keeps exactly the nodes that meet the conditions. -/
theorem mem_filterNodes (h : c.filterNodes nodes = .ok found) :
    n ∈ found ↔ n ∈ nodes ∧ c.matchesNode n = .ok true :=
  mem_passing (filterNodes_eq ▸ h)

end Criteria

/-! ## Relations and descendants -/

theorem Relation.mem_apply {r : Relation} {candidates : List Node} {anchor n : Node} :
    n ∈ r.apply candidates anchor ↔ n ∈ candidates ∧ r.holds n.bounds anchor.bounds = true := by
  rw [apply]
  cases r.gap? <;> simp [List.mem_mergeSort]

/-- A candidate counts if it lies to an anchor and none of the candidates lies to an anchor before. -/
theorem mem_relatedToFirst {r : Relation} {candidates anchors : List Node} {n : Node} :
    n ∈ relatedToFirst r candidates anchors ↔
      n ∈ candidates ∧ ∃ before a after, anchors = before ++ a :: after ∧
        r.holds n.bounds a.bounds = true ∧
        ∀ b ∈ before, ∀ m ∈ candidates, r.holds m.bounds b.bounds = false := by
  induction anchors with
  | nil => simp [relatedToFirst]
  | cons a anchors ih =>
      simp only [relatedToFirst]
      split
      · next hnone =>
        have hfalse : ∀ m ∈ candidates, r.holds m.bounds a.bounds = false := by
          intro m hm
          rw [← Bool.not_eq_true]
          intro hrelated
          have := Relation.mem_apply.mpr ⟨hm, hrelated⟩
          simp [List.isEmpty_iff.mp hnone] at this
        rw [ih]
        refine and_congr_right fun hn => ?_
        constructor
        · rintro ⟨before, b, after, rfl, hb, hbefore⟩
          exact ⟨a :: before, b, after, rfl, hb, List.forall_mem_cons.mpr ⟨hfalse, hbefore⟩⟩
        · rintro ⟨_ | ⟨c, before⟩, b, after, h, hb, hbefore⟩
          · cases h
            rw [hfalse n hn] at hb
            cases hb
          · cases h
            exact ⟨before, b, after, rfl, hb, fun b hb => hbefore b (List.mem_cons_of_mem _ hb)⟩
      · next hsome =>
        obtain ⟨m, hm⟩ := List.exists_mem_of_ne_nil _ (mt List.isEmpty_iff.mpr hsome)
        rw [Relation.mem_apply] at hm ⊢
        refine and_congr_right fun _ => ?_
        constructor
        · intro hn
          exact ⟨[], a, anchors, rfl, hn, by simp⟩
        · rintro ⟨_ | ⟨c, before⟩, b, after, h, hb, hbefore⟩
          · cases h
            exact hb
          · cases h
            rw [hbefore a List.mem_cons_self m hm.1] at hm
            cases hm.2

theorem filterDescendants_eq {pool : List Node} {ds : List Selector} {nodes : List Node} :
    filterDescendants pool ds nodes = passing (fun n => hasDescendants n pool ds) nodes := by
  induction nodes with
  | nil => rfl
  | cons m rest ih => rw [filterDescendants, passing, ih]

theorem mem_filterDescendants {pool : List Node} {ds : List Selector} {nodes found : List Node}
    {n : Node} (h : filterDescendants pool ds nodes = .ok found) :
    n ∈ found ↔ n ∈ nodes ∧ hasDescendants n pool ds = .ok true :=
  mem_passing (filterDescendants_eq ▸ h)

/-! ## Nodes of a page -/

namespace Selector

variable {s : Selector} {page : Snapshot} {n : Node}

/-- The candidates that have all wanted descendants. -/
def keepCandidates (s : Selector) (page : Snapshot) (candidates : List Node) :
    Except Failure (List Node) :=
  if s.descendants.isEmpty then .ok candidates
  else filterDescendants page.nodes s.descendants candidates

/-- The candidate that the index stands for, if there are candidates. -/
def chooseCandidate (s : Selector) (candidates : List Node) : Except Failure (Option Node) :=
  if candidates.isEmpty then .ok none else pick (clickableFirst candidates) s.index

theorem pickIn_eq : s.pickIn page =
    s.criteria.filterNodes page.nodes >>= fun found => s.chooseCandidate found := rfl

theorem mem_keepCandidates {candidates kept : List Node}
    (h : s.keepCandidates page candidates = .ok kept) (hn : n ∈ kept) : n ∈ candidates := by
  rw [keepCandidates] at h
  split at h
  · cases h
    exact hn
  · exact ((mem_filterDescendants h).mp hn).1

theorem mem_of_chooseCandidate {candidates : List Node}
    (h : s.chooseCandidate candidates = .ok (some n)) : n ∈ candidates := by
  rw [chooseCandidate] at h
  split at h
  · cases h
  · exact mem_clickableFirst.mp (mem_of_pick h)

theorem pickIn_eq_some (h : s.pickIn page = .ok (some n)) :
    n ∈ page.nodes ∧ s.criteria.matchesNode n = .ok true := by
  rw [pickIn_eq, except_bind_ok] at h
  obtain ⟨found, hf, h⟩ := h
  exact (Criteria.mem_filterNodes hf).mp (mem_of_chooseCandidate h)

/-- Without an index the first of the best candidates is chosen. -/
theorem chooseCandidate_unindexed (hi : s.index.filter (!·.isEmpty) = none)
    {candidates : List Node} :
    s.chooseCandidate candidates = .ok (some n) ↔ FirstBest Node.rank candidates n := by
  rw [← deepest?_clickableFirst_eq_some_iff, chooseCandidate, pick_unindexed hi]
  cases candidates with
  | nil => simp [clickableFirst, deepest?]
  | cons m rest => simp

/-- Without an index a selector picks the first of the best among the nodes that match. -/
theorem pickIn_unindexed (hi : s.index.filter (!·.isEmpty) = none) :
    s.pickIn page = .ok (some n) ↔
      ∃ found, s.criteria.filterNodes page.nodes = .ok found ∧ FirstBest Node.rank found n := by
  rw [pickIn_eq, except_bind_ok]
  exact exists_congr fun found => and_congr_right fun _ => chooseCandidate_unindexed hi

/-- The node meets the conditions on itself, if one of them is on text, name or size. -/
def InBase (s : Selector) (n : Node) : Prop :=
  s.criteria.hasBase = true → s.criteria.matchesNode n = .ok true

theorem mem_baseCandidates {found : List Node} (h : baseCandidates s page = .ok found) :
    n ∈ found ↔ n ∈ page.nodes ∧ s.InBase n := by
  rw [baseCandidates] at h
  split at h
  · next hb => simp [Criteria.mem_filterNodes h, InBase, hb]
  · next hb =>
    cases h
    simp [InBase, hb]

theorem mem_relatedCandidates {candidates found : List Node}
    (h : relatedCandidates s page candidates = .ok found) (hn : n ∈ found) : n ∈ candidates := by
  rw [relatedCandidates] at h
  split at h
  · cases h
    exact hn
  · rw [except_bind_ok] at h
    obtain ⟨anchors, ha, h⟩ := h
    split at h
    · rw [except_bind_ok] at h
      obtain ⟨_, _, h⟩ := h
      rw [except_bind_ok] at h
      obtain ⟨_, h, _⟩ := h
      cases h
    · cases h
      exact (mem_relatedToFirst.mp hn).1

/-- The search by surroundings as a chain of its steps. -/
theorem resolveIn_eq : s.resolveIn page =
    (baseCandidates s page >>= fun base => relatedCandidates s page base >>= fun related =>
      s.keepCandidates page related >>= fun kept => s.chooseCandidate kept >>= fun chosen =>
        match chosen with
        | some n => .ok n
        | none => s.describe >>= fun description => .error (.noMatch description none)) := by
  rw [resolveIn]
  refine bind_congr fun base => bind_congr fun related => ?_
  cases hd : s.descendants.isEmpty <;> simp only [keepCandidates, hd, ↓reduceIte]
  all_goals
    refine bind_congr fun kept => ?_
    rw [chooseCandidate]
    split <;> rfl

section

variable {base related kept : List Node} (hb : baseCandidates s page = .ok base)
  (hr : relatedCandidates s page base = .ok related) (hk : s.keepCandidates page related = .ok kept)
include hb hr hk

theorem resolveIn_of_kept : s.resolveIn page =
    s.chooseCandidate kept >>= fun chosen =>
      match chosen with
      | some n => .ok n
      | none => s.describe >>= fun description => .error (.noMatch description none) := by
  rw [resolveIn_eq, hb]
  show relatedCandidates s page base >>= _ = _
  rw [hr]
  show s.keepCandidates page related >>= _ = _
  rw [hk]
  rfl

theorem resolveIn_of_chosen (hc : s.chooseCandidate kept = .ok (some n)) :
    s.resolveIn page = .ok n := by
  rw [resolveIn_of_kept hb hr hk, hc]
  rfl

end

theorem resolveIn_of_nil {base related : List Node} {d : String}
    (hb : baseCandidates s page = .ok base) (hr : relatedCandidates s page base = .ok related)
    (hk : s.keepCandidates page related = .ok []) (hd : s.describe = .ok d) :
    s.resolveIn page = .error (.noMatch d none) := by
  rw [resolveIn_of_kept hb hr hk]
  show s.describe >>= _ = _
  rw [hd]
  rfl

/-- A found node comes through all steps of the search. -/
theorem resolveIn_inv (h : s.resolveIn page = .ok n) :
    ∃ base related kept, baseCandidates s page = .ok base ∧
      relatedCandidates s page base = .ok related ∧ s.keepCandidates page related = .ok kept ∧
      n ∈ kept := by
  rw [resolveIn_eq, except_bind_ok] at h
  obtain ⟨base, hb, h⟩ := h
  rw [except_bind_ok] at h
  obtain ⟨related, hr, h⟩ := h
  rw [except_bind_ok] at h
  obtain ⟨kept, hk, h⟩ := h
  rw [except_bind_ok] at h
  obtain ⟨chosen, hc, h⟩ := h
  cases chosen with
  | none =>
      rw [except_bind_ok] at h
      obtain ⟨_, _, h⟩ := h
      cases h
  | some m =>
      cases h
      exact ⟨base, related, kept, hb, hr, hk, mem_of_chooseCandidate hc⟩

/-- A node that is found by its surroundings is a node of the page, and meets the conditions on
itself if there are any on text, name or size. -/
theorem resolveIn_eq_ok (h : s.resolveIn page = .ok n) :
    n ∈ page.nodes ∧ (s.criteria.hasBase = true → s.criteria.matchesNode n = .ok true) := by
  obtain ⟨base, related, kept, hb, hr, hk, hn⟩ := resolveIn_inv h
  have hrelated : n ∈ related := mem_keepCandidates hk hn
  exact (mem_baseCandidates hb).mp (mem_relatedCandidates hr hrelated)

end Selector

end ElementFinder
