import ElementFinder.Search.Spatial

/-!
# Directions

In a direction the candidates on one side of an edge of the anchor are kept, the closest first and equally
close ones in their order. No other list is like this.
-/

namespace ElementFinder

variable {side : Node → Bool} {gap : Node → Int} {candidates found : List Node}

/-! ## Order by a gap -/

/-- The list holds the candidates on a side, each as often as it occurs among them. Their gaps are not negative
and do not fall, and candidates with the same gap stand in their order. -/
structure InOrderOf (side : Node → Bool) (gap : Node → Int) (candidates found : List Node) : Prop where
  members : found.Perm (candidates.filter side)
  nonneg : ∀ n ∈ found, 0 ≤ gap n
  rising : found.Pairwise fun m n => gap m ≤ gap n
  stable : ∀ g, (found.filter fun n => gap n = g) = candidates.filter fun n => gap n = g && side n

section

variable {l l' : List Node} (hparts : ∀ g, (l.filter fun n => gap n = g) = l'.filter fun n => gap n = g)
include hparts

theorem mem_iff_of_parts {n : Node} : n ∈ l ↔ n ∈ l' := by
  have hpart : n ∈ (l.filter fun m => gap m = gap n) ↔ n ∈ l'.filter fun m => gap m = gap n := by
    rw [hparts]
  simpa using hpart

/-- A list with rising gaps is known from its parts with one gap each. -/
theorem eq_of_rising (h : l.Pairwise fun m n => gap m ≤ gap n) (h' : l'.Pairwise fun m n => gap m ≤ gap n) :
    l = l' := by
  induction l generalizing l' with
  | nil =>
      cases l' with
      | nil => rfl
      | cons m' rest' => simpa using mem_iff_of_parts hparts (n := m')
  | cons m rest ih =>
      cases l' with
      | nil => simpa using mem_iff_of_parts hparts (n := m)
      | cons m' rest' =>
          rw [List.pairwise_cons] at h h'
          -- Both lists begin with a node of the smallest gap, and their parts with this gap begin alike.
          have hle : gap m ≤ gap m' := by
            rcases List.mem_cons.mp ((mem_iff_of_parts hparts).mpr List.mem_cons_self) with rfl | hm
            · exact Int.le_refl _
            · exact h.1 m' hm
          have hge : gap m' ≤ gap m := by
            rcases List.mem_cons.mp ((mem_iff_of_parts hparts).mp List.mem_cons_self) with rfl | hm
            · exact Int.le_refl _
            · exact h'.1 m hm
          have hgap : gap m' = gap m := Int.le_antisymm hge hle
          have hfirst := hparts (gap m)
          simp only [List.filter_cons, hgap, decide_true, ↓reduceIte, List.cons.injEq] at hfirst
          obtain ⟨rfl, hrest⟩ := hfirst
          rw [ih (fun g => ?_) h.2 h'.2]
          by_cases hg : gap m = g
          · exact hg ▸ hrest
          · simpa [List.filter_cons, hg] using hparts g

end

/-- Exactly one list is in the order of a gap. -/
theorem InOrderOf.unique {found' : List Node} (h : InOrderOf side gap candidates found)
    (h' : InOrderOf side gap candidates found') : found = found' :=
  eq_of_rising (fun g => (h.stable g).trans (h'.stable g).symm) h.rising h'.rising

/-- Sorting by the gap gives the order. -/
theorem inOrderOf_mergeSort (hside : ∀ n, side n = true → 0 ≤ gap n) :
    InOrderOf side gap candidates ((candidates.filter side).mergeSort fun m n => gap m ≤ gap n) := by
  have hperm := List.mergeSort_perm (candidates.filter side) fun m n => gap m ≤ gap n
  have htrans : ∀ a b c : Node, decide (gap a ≤ gap b) = true → decide (gap b ≤ gap c) = true →
      decide (gap a ≤ gap c) = true := by
    simp only [decide_eq_true_eq]
    omega
  have htotal : ∀ a b : Node, (decide (gap a ≤ gap b) || decide (gap b ≤ gap a)) = true := by
    simp only [Bool.or_eq_true, decide_eq_true_eq]
    omega
  refine ⟨hperm, fun n hn => ?_, ?_, fun g => ?_⟩
  · exact hside n (List.mem_filter.mp (hperm.mem_iff.mp hn)).2
  · simpa using List.pairwise_mergeSort htrans htotal (candidates.filter side)
  · rw [← List.filter_filter]
    -- The part with one gap is sorted as it stands, so it is found again among what is sorted.
    have hsorted : ((candidates.filter side).filter fun n => gap n = g).Pairwise
        fun m n => decide (gap m ≤ gap n) = true := by
      refine List.pairwise_of_forall_mem_list fun m hm n hn => ?_
      simp only [List.mem_filter, decide_eq_true_eq] at hm hn ⊢
      omega
    have hpart := (List.sublist_mergeSort htrans htotal hsorted List.filter_sublist).filter
      fun n => decide (gap n = g)
    rw [List.filter_filter, List.filter_congr fun n _ => Bool.and_self _] at hpart
    exact (hpart.eq_of_length (hperm.filter _).length_eq.symm).symm

/-! ## Relations with a gap -/

namespace Relation

variable {r : Relation} {between : Bounds → Bounds → Int}

theorem holds_iff_of_gap (h : r.gap? = some between) {b anchor : Bounds} :
    r.holds b anchor = true ↔ 0 ≤ between b anchor := by
  cases r <;> cases h <;> simp only [holds, decide_eq_true_eq] <;> omega

theorem eq_apply_iff (h : r.gap? = some between) {anchor : Node} :
    found = r.apply candidates anchor ↔
      InOrderOf (fun n => r.holds n.bounds anchor.bounds) (fun n => between n.bounds anchor.bounds)
        candidates found := by
  have hsorted : InOrderOf (fun n => r.holds n.bounds anchor.bounds) (fun n => between n.bounds anchor.bounds)
      candidates (r.apply candidates anchor) := by
    simp only [apply, h]
    exact inOrderOf_mergeSort fun n hn => (holds_iff_of_gap h).mp hn
  exact ⟨fun hfound => hfound ▸ hsorted, fun hfound => hfound.unique hsorted⟩

end Relation

/-! ## Main result -/

/-- What is found in a direction is the list of the candidates on this side of the anchor, edges that touch
included, in the order of their gap to it. -/
theorem directions_keep_order (candidates found : List Node) (anchor : Node) :
    let a := anchor.bounds
    (found = Relation.below.apply candidates anchor ↔
        InOrderOf (fun n => a.y + a.height ≤ n.bounds.y) (fun n => n.bounds.y - (a.y + a.height))
          candidates found) ∧
      (found = Relation.above.apply candidates anchor ↔
        InOrderOf (fun n => n.bounds.y + n.bounds.height ≤ a.y)
          (fun n => a.y - (n.bounds.y + n.bounds.height)) candidates found) ∧
      (found = Relation.leftOf.apply candidates anchor ↔
        InOrderOf (fun n => n.bounds.x + n.bounds.width ≤ a.x)
          (fun n => a.x - (n.bounds.x + n.bounds.width)) candidates found) ∧
      (found = Relation.rightOf.apply candidates anchor ↔
        InOrderOf (fun n => a.x + a.width ≤ n.bounds.x) (fun n => n.bounds.x - (a.x + a.width))
          candidates found) :=
  ⟨Relation.eq_apply_iff (r := .below) rfl, Relation.eq_apply_iff (r := .above) rfl,
    Relation.eq_apply_iff (r := .leftOf) rfl, Relation.eq_apply_iff (r := .rightOf) rfl⟩

end ElementFinder
