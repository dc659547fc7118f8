import ElementFinder.Proofs.Surroundings
import Mathlib.Tactic.SplitIfs

/-!
# The chosen node

Of the candidates that the filters of a search leave one is chosen, with an index by its position among
them and without one by its depth. The choice is the same for both searches of a page, and there always
is one.
-/

namespace ElementFinder

variable {candidates : List Node} {n : Node}

/-! ## Choice by depth -/

/-- No candidate is deeper. Of those that are as deep the node is interactive if one of them is, and of
the ones that are left it is the first. -/
structure IsDeepest (candidates : List Node) (n : Node) : Prop where
  deepest : ∀ m ∈ candidates, m.depth ≤ n.depth
  interactive : ∀ m ∈ candidates, m.depth = n.depth → m.isClickable = true → n.isClickable = true
  first : ∃ before after, candidates = before ++ n :: after ∧
    ∀ m ∈ before, m.depth = n.depth → m.isClickable ≠ n.isClickable

theorem Node.rank_le {m : Node} (hdepth : m.depth ≤ n.depth)
    (h : m.depth = n.depth → m.isClickable = true → n.isClickable = true) : m.rank ≤ n.rank := by
  rw [rank, rank]
  cases hm : m.isClickable <;> cases hn : n.isClickable <;> simp [hm, hn] at h ⊢ <;> omega

theorem Node.rank_lt {m : Node} (h : m.rank ≤ n.rank)
    (hne : m.depth = n.depth → m.isClickable ≠ n.isClickable) : m.rank < n.rank := by
  rw [rank, rank] at h ⊢
  cases hm : m.isClickable <;> cases hn : n.isClickable <;> simp [hm, hn] at h hne ⊢ <;> omega

/-- What is chosen by depth is the first candidate of the greatest rank. -/
theorem isDeepest_iff : IsDeepest candidates n ↔ FirstBest Node.rank candidates n := by
  constructor
  · rintro ⟨hdepth, hinteractive, before, after, rfl, hfirst⟩
    have hle : ∀ m ∈ before ++ n :: after, m.rank ≤ n.rank := fun m hm =>
      Node.rank_le (hdepth m hm) (hinteractive m hm)
    refine ⟨before, after, rfl, fun m hm => ?_, fun m hm => hle m (by simp [hm])⟩
    exact Node.rank_lt (hle m (by simp [hm])) (hfirst m hm)
  · intro h
    refine ⟨fun m hm => Node.depth_le_of_rank_le (h.le hm), fun m hm hdepth hc => ?_, ?_⟩
    · cases hn : n.isClickable with
      | true => rfl
      | false => exact absurd hdepth (Nat.ne_of_lt (Node.depth_lt_of_isClickable (h.le hm) hc hn))
    · obtain ⟨before, after, hsplit, hlt, -⟩ := h
      refine ⟨before, after, hsplit, fun m hm hdepth hc => ?_⟩
      exact absurd hdepth (Nat.ne_of_lt (Node.depth_lt_of_rank_lt (hlt m hm) hc))

/-! ## Choice by position -/

/-- Where the node stands among the candidates, interactive ones in front, for an index that is set. A
number inside counts from the front or, below zero, from the end. All else stands for the first one. -/
structure IsAtIndex (i : String) (candidates : List Node) (n : Node) : Prop where
  forward : ∀ k : Int, Numeral.read? i = some k → 0 ≤ k → k < candidates.length →
    (clickableFirst candidates)[k.toNat]? = some n
  backward : ∀ k : Int, Numeral.read? i = some k → -candidates.length ≤ k → k < 0 →
    (clickableFirst candidates)[(candidates.length + k).toNat]? = some n
  outside : ∀ k : Int, Numeral.read? i = some k → k < -candidates.length ∨ candidates.length ≤ k →
    (clickableFirst candidates)[0]? = some n
  unread : Numeral.read? i = none → (clickableFirst candidates)[0]? = some n

theorem positionOf_of_read {i : String} {k : Int} (h : Numeral.read? i = some k) (count : Nat) :
    positionOf i count =
      if 0 ≤ k ∧ k < count then k.toNat
      else if -count ≤ k ∧ k < 0 then (count + k).toNat
      else 0 := by
  rw [positionOf, h]
  dsimp only
  split_ifs <;> omega

theorem positionOf_of_unread {i : String} (h : Numeral.read? i = none) (count : Nat) :
    positionOf i count = 0 := by
  rw [positionOf, h]

theorem isAtIndex_iff {i : String} :
    IsAtIndex i candidates n ↔ (clickableFirst candidates)[positionOf i candidates.length]? = some n := by
  constructor
  · intro h
    cases hread : Numeral.read? i with
    | none =>
        rw [positionOf_of_unread hread]
        exact h.unread hread
    | some k =>
        rw [positionOf_of_read hread]
        split_ifs with hforward hbackward
        · exact h.forward k hread hforward.1 hforward.2
        · exact h.backward k hread hbackward.1 hbackward.2
        · exact h.outside k hread (by omega)
  · intro h
    refine ⟨fun k hread hle hlt => ?_, fun k hread hle hlt => ?_, fun k hread hout => ?_, fun hread => ?_⟩
    · rwa [positionOf_of_read hread, if_pos ⟨hle, hlt⟩] at h
    · rwa [positionOf_of_read hread, if_neg (by omega), if_pos ⟨hle, hlt⟩] at h
    · rwa [positionOf_of_read hread, if_neg (by omega), if_neg (by omega)] at h
    · rwa [positionOf_of_unread hread] at h

/-! ## Main result -/

/-- The node is the one to be chosen from the candidates. An empty index counts as none. -/
def IsChosen (index : Option String) (candidates : List Node) (n : Node) : Prop :=
  match givenText? index with
  | none => IsDeepest candidates n
  | some i => IsAtIndex i candidates n

namespace Selector

variable {s : Selector}

theorem chooseCandidate_eq_some_iff (h : candidates ≠ []) :
    s.chooseCandidate candidates = .ok (some n) ↔ IsChosen s.index candidates n := by
  rw [IsChosen]
  split
  · next hindex => rw [chooseCandidate_unindexed hindex, isDeepest_iff]
  · next i hindex =>
    rw [isAtIndex_iff, chooseCandidate, List.isEmpty_eq_false_iff.mpr h, ← length_clickableFirst,
      ← pick_positioned hindex]
    rfl

end Selector

open Selector

/-- Exactly one node is to be chosen from some candidates. A search of the page by what its nodes say
themselves finds this node if they are what its filter leaves, and a search by surroundings finds it if they
are what all of its filters leave. -/
theorem chosen_node_is_found (s : Selector) (page : Snapshot) (h : candidates ≠ []) :
    ∃ n, (∀ m, IsChosen s.index candidates m ↔ m = n) ∧
      (s.criteria.filterNodes page.nodes = .ok candidates → s.pickIn page = .ok (some n)) ∧
      ∀ base related, baseCandidates s page = .ok base → relatedCandidates s page base = .ok related →
        s.keepCandidates page related = .ok candidates → s.resolveIn page = .ok n := by
  obtain ⟨hnil, -⟩ | ⟨n, -, hn⟩ := s.chooseCandidate_eq candidates
  · exact absurd hnil h
  refine ⟨n, fun m => ?_, fun hfound => ?_, fun base related hb hr hk => resolveIn_of_chosen hb hr hk hn⟩
  · rw [← chooseCandidate_eq_some_iff h, hn]
    simp [eq_comm]
  · rw [pickIn_eq, hfound]
    exact hn

/-- Without an index the first of the two buttons in the card is chosen. Counted from the end the card comes
first, as it stands behind the buttons. -/
theorem chosen_node_is_found_send :
    let candidates := [buttonCard, sendButton, saveButton]
    let last : Selector := { enabledInCard with index := some "-1" }
    candidates ≠ [] ∧ IsChosen enabledInCard.index candidates sendButton ∧
      enabledInCard.resolveIn buttonsInCard = .ok sendButton ∧
      IsChosen last.index candidates buttonCard ∧ last.resolveIn buttonsInCard = .ok buttonCard := by
  intro candidates last
  have hne : candidates ≠ [] := by simp [candidates]
  have hsend : IsChosen enabledInCard.index candidates sendButton :=
    ⟨by decide, by decide, [buttonCard], [saveButton], rfl, by decide⟩
  have hcard : IsChosen last.index candidates buttonCard := isAtIndex_iff.mpr (by decide +kernel)
  obtain ⟨n, hn, -, hfound⟩ := chosen_node_is_found enabledInCard buttonsInCard hne
  obtain ⟨m, hm, -, hlast⟩ := chosen_node_is_found last buttonsInCard hne
  obtain rfl := (hn sendButton).mp hsend
  obtain rfl := (hm buttonCard).mp hcard
  exact ⟨hne, hsend, hfound _ _ rfl rfl rfl, hcard, hlast _ _ rfl rfl rfl⟩

end ElementFinder
