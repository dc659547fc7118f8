import ElementFinder.Proofs.Surroundings
import ElementFinder.Proofs.TextTests
import Mathlib.Order.Defs.Unbundled

/-!
# Containment

A rectangle lies in another one if it reaches over none of its edges. Containment is a partial order, and what has
descendants in a rectangle has them in every larger one. The middle of a rectangle that lies in another one is in
it as well, except where the rectangle has no extent at the right or the lower edge, or is turned over.
-/

namespace ElementFinder

namespace Bounds

variable {b other : Bounds}

theorem contains_iff : other.contains b = true ↔
    other.x ≤ b.x ∧ other.y ≤ b.y ∧ b.right ≤ other.right ∧ b.bottom ≤ other.bottom := by
  simp only [contains, Bool.and_eq_true, decide_eq_true_eq, and_assoc]

theorem contains_refl (b : Bounds) : b.contains b = true :=
  contains_iff.mpr ⟨Int.le_refl _, Int.le_refl _, Int.le_refl _, Int.le_refl _⟩

theorem contains_trans {outer : Bounds} (h : outer.contains other = true) (h' : other.contains b = true) :
    outer.contains b = true := by
  rw [contains_iff] at h h' ⊢
  omega

theorem contains_antisymm (h : other.contains b = true) (h' : b.contains other = true) : other = b := by
  rw [contains_iff, right, right, bottom, bottom] at h h'
  obtain ⟨x, y, width, height⟩ := b
  obtain ⟨x', y', width', height'⟩ := other
  rw [mk.injEq]
  dsimp only at h h'
  omega

/-! ## Middles -/

/-- On one axis: the ends are at the same place or the wrong way round, and the middle between them is outside of
the other ends. -/
def MiddleAside (low high low' high' : Int) : Prop :=
  high ≤ low ∧ (low + high < 2 * low' ∨ 2 * high' ≤ low + high)

/-- On one of the axes the middle of the rectangle is outside of the other one. -/
def Strays (b other : Bounds) : Prop :=
  MiddleAside b.x b.right other.x other.right ∨ MiddleAside b.y b.bottom other.y other.bottom

theorem middle_within_iff {low size low' high' : Int} (hlow : low' ≤ low) (hhigh : low + size ≤ high') :
    low' ≤ low + size.fdiv 2 ∧ low + size.fdiv 2 < high' ↔ ¬MiddleAside low (low + size) low' high' := by
  rw [MiddleAside, Int.fdiv_eq_ediv_of_nonneg size (by decide)]
  omega

/-- A rectangle in another one is not turned over, and strays only without extent at the far edge. -/
theorem middleAside_iff {low size low' high' : Int} (hlow : low' ≤ low) (hhigh : low + size ≤ high')
    (hsize : 0 ≤ size) : MiddleAside low (low + size) low' high' ↔ size = 0 ∧ low = high' := by
  rw [MiddleAside]
  omega

theorem centerInside_iff (h : other.contains b = true) : b.centerInside other = true ↔ ¬b.Strays other := by
  obtain ⟨hx, hy, hright, hbottom⟩ := contains_iff.mp h
  rw [Strays, not_or, right, bottom, ← middle_within_iff hx hright, ← middle_within_iff hy hbottom]
  rw [centerInside, containsPoint]
  simp only [Bool.and_eq_true, decide_eq_true_eq, and_assoc]
  rfl

theorem strays_iff (h : other.contains b = true) (hwidth : 0 ≤ b.width) (hheight : 0 ≤ b.height) :
    b.Strays other ↔ b.width = 0 ∧ b.x = other.right ∨ b.height = 0 ∧ b.y = other.bottom := by
  obtain ⟨hx, hy, hright, hbottom⟩ := contains_iff.mp h
  rw [Strays, right, bottom, middleAside_iff hx hright hwidth, middleAside_iff hy hbottom hheight]

end Bounds

/-! ## Descendants -/

variable {p q : Node} {c : Criteria} {a b : Attributes} {pool pool' candidates found : List Node}
  {ds ds' : List Selector} {f : Failure}

/-- A text that cannot be compared fails for all elements alike. -/
theorem Criteria.textMeets_error (h : c.textMeets a = .error f) : c.textMeets b = .error f := by
  rw [textMeets] at h ⊢
  split at h
  · cases h
  · obtain ht | ⟨_, _, h⟩ := except_bind_error.mp h
    · exact except_bind_error.mpr (.inl ht)
    · cases h

theorem Criteria.not_comparable_of_textMeets (h : c.textMeets a = .error f) :
    ∃ t, c.text = some t ∧ ¬IsComparable t := by
  rw [textMeets] at h
  split at h
  · cases h
  · next t ht =>
    refine ⟨t, Option.eq_some_of_filter_eq_some ht, fun hcomparable => ?_⟩
    obtain ⟨test, htest⟩ := isComparable_iff_ofText.mp hcomparable
    rw [matchesText, htest] at h
    cases h

theorem hasDescendants_eq_true : hasDescendants p pool ds = .ok true ↔
    ∀ d ∈ ds, ∃ m ∈ pool, p.bounds.contains m.bounds = true ∧ d.criteria.matchesNode m = .ok true := by
  constructor
  · exact fun h => (hasDescendants_iff h).mp rfl
  · intro h
    cases hrun : hasDescendants p pool ds with
    | ok b => rw [(hasDescendants_iff hrun).mpr h]
    | error f =>
        -- The text that cannot be compared is that of a descendant, and a node matches this one.
        obtain ⟨d, hd, a, ha⟩ := hasDescendants_error hrun
        obtain ⟨m, -, -, hm⟩ := h d hd
        cases (Criteria.textMeets_error ha).symm.trans (Criteria.matchesNode_eq_true.mp hm).1

/-- What has all wanted descendants has them in a larger rectangle, among more nodes, and if fewer are wanted. -/
theorem hasDescendants_mono (hbounds : p.bounds.contains q.bounds = true) (hpool : pool ⊆ pool') (hds : ds' ⊆ ds)
    (h : hasDescendants q pool ds = .ok true) : hasDescendants p pool' ds' = .ok true := by
  rw [hasDescendants_eq_true] at h ⊢
  intro d hd
  obtain ⟨m, hm, hinside, hmatch⟩ := h d (hds hd)
  exact ⟨m, hpool hm, Bounds.contains_trans hbounds hinside, hmatch⟩

theorem hasDescendants_congr_mem (hds : ∀ d, d ∈ ds ↔ d ∈ ds') :
    hasDescendants p pool ds = .ok true ↔ hasDescendants p pool ds' = .ok true := by
  simp only [hasDescendants_eq_true, hds]

theorem exists_hasDescendants (hds : ∀ d ∈ ds, ∀ t, d.criteria.text = some t → IsComparable t) :
    ∃ b, hasDescendants p pool ds = .ok b := by
  cases hrun : hasDescendants p pool ds with
  | ok b => exact ⟨b, rfl⟩
  | error f =>
      obtain ⟨d, hd, a, ha⟩ := hasDescendants_error hrun
      obtain ⟨t, ht, hnot⟩ := Criteria.not_comparable_of_textMeets ha
      exact absurd (hds d hd t ht) hnot

theorem filterDescendants_eq_ok (hds : ∀ d ∈ ds, ∀ t, d.criteria.text = some t → IsComparable t) :
    filterDescendants pool ds candidates = .ok (candidates.filter (passes fun n => hasDescendants n pool ds)) := by
  rw [filterDescendants_eq]
  exact passing_eq_ok_iff.mpr ⟨fun _ _ => exists_hasDescendants hds, rfl⟩

/-! ## Main results -/

/-- Of the nodes that lie in an anchor those are found by their middle that do not stray. None of them strays that
has an extent; without one, those stray that lie at the right or the lower edge. -/
theorem children_are_inside_iff (candidates : List Node) (anchor : Node) :
    let children := Relation.childOf.apply candidates anchor
    let inside := Relation.insideOf.apply candidates anchor
    (children ⊆ inside ↔ ∀ n ∈ children, ¬n.bounds.Strays anchor.bounds) ∧
      ∀ n ∈ children,
        (n ∈ inside ↔ ¬n.bounds.Strays anchor.bounds) ∧
        (0 < n.bounds.width → 0 < n.bounds.height → n ∈ inside) ∧
        (0 ≤ n.bounds.width → 0 ≤ n.bounds.height → (n ∈ inside ↔
          ¬(n.bounds.width = 0 ∧ n.bounds.x = anchor.bounds.right ∨
            n.bounds.height = 0 ∧ n.bounds.y = anchor.bounds.bottom))) := by
  intro children inside
  have hchild : ∀ n ∈ children, anchor.bounds.contains n.bounds = true := fun n hn => (Relation.mem_apply.mp hn).2
  have hinside : ∀ n ∈ children, (n ∈ inside ↔ ¬n.bounds.Strays anchor.bounds) := by
    intro n hn
    rw [← Bounds.centerInside_iff (hchild n hn), Relation.mem_apply]
    exact and_iff_right (Relation.mem_apply.mp hn).1
  refine ⟨forall₂_congr hinside, fun n hn => ⟨hinside n hn, fun hwidth hheight => ?_, fun hwidth hheight => ?_⟩⟩
  · rw [hinside n hn, Bounds.strays_iff (hchild n hn) (Int.le_of_lt hwidth) (Int.le_of_lt hheight)]
    omega
  · rw [hinside n hn, Bounds.strays_iff (hchild n hn) hwidth hheight]

/-- A node without extent at the corner of a card lies in the card, and its middle does not. -/
theorem dot_at_corner_strays :
    let card : Node := { attributes := { bounds := ⟨0, 0, 10, 10⟩ } }
    let dot : Node := { attributes := { bounds := ⟨10, 10, 0, 0⟩ } }
    dot ∈ Relation.childOf.apply [dot] card ∧ dot ∉ Relation.insideOf.apply [dot] card := by
  decide

/-- What has all wanted descendants has them in every rectangle around it, whatever other nodes there are, and so
has every candidate around one that is found. It does not matter how often and in which order a descendant is
wanted. -/
theorem containers_close_upwards :
    IsPartialOrder Bounds (fun b other => b.contains other = true) ∧
      (∀ (p q : Node) (pool pool' : List Node) (ds ds' : List Selector),
        p.bounds.contains q.bounds = true → pool ⊆ pool' → ds' ⊆ ds →
        hasDescendants q pool ds = .ok true → hasDescendants p pool' ds' = .ok true) ∧
      (∀ (pool candidates found : List Node) (ds : List Selector),
        filterDescendants pool ds candidates = .ok found →
        ∀ q ∈ found, ∀ p ∈ candidates, p.bounds.contains q.bounds = true → p ∈ found) ∧
      ∀ (pool : List Node) (ds ds' : List Selector), (∀ d, d ∈ ds ↔ d ∈ ds') →
        (∀ p, hasDescendants p pool ds = .ok true ↔ hasDescendants p pool ds' = .ok true) ∧
        ((∀ d ∈ ds, ∀ t, d.criteria.text = some t → IsComparable t) → ∀ candidates,
          filterDescendants pool ds candidates = filterDescendants pool ds' candidates) := by
  refine ⟨?_, fun p q pool pool' ds ds' => hasDescendants_mono, ?_, ?_⟩
  · exact
      { refl := Bounds.contains_refl
        trans := fun _ _ _ => Bounds.contains_trans
        antisymm := fun _ _ => Bounds.contains_antisymm }
  · intro pool candidates found ds hfound q hq p hp hbounds
    obtain ⟨-, hdescendants⟩ := (mem_filterDescendants hfound).mp hq
    exact (mem_filterDescendants hfound).mpr
      ⟨hp, hasDescendants_mono hbounds (List.Subset.refl _) (List.Subset.refl _) hdescendants⟩
  · intro pool ds ds' hds
    refine ⟨fun p => hasDescendants_congr_mem hds, fun htexts candidates => ?_⟩
    have htexts' : ∀ d ∈ ds', ∀ t, d.criteria.text = some t → IsComparable t := fun d hd =>
      htexts d ((hds d).mpr hd)
    rw [filterDescendants_eq_ok htexts, filterDescendants_eq_ok htexts']
    refine congrArg Except.ok (List.filter_congr fun n _ => ?_)
    rw [Bool.eq_iff_iff, passes_iff, passes_iff, hasDescendants_congr_mem hds]

/-- A screen around a card has what the card has, in another order and more than once. -/
theorem containers_close_upwards_card :
    let screen : Node := { attributes := { bounds := ⟨0, 0, 100, 200⟩ } }
    let card : Node := { attributes := { bounds := ⟨10, 10, 80, 40⟩ } }
    let name : Node := { attributes := { label := "Alice", bounds := ⟨12, 12, 40, 10⟩ } }
    let status : Node := { attributes := { label := "Online", bounds := ⟨12, 30, 40, 10⟩ } }
    let alice : Selector := { criteria := { text := some "Alice" } }
    let online : Selector := { criteria := { text := some "Online" } }
    hasDescendants card [name, status] [alice, online] = .ok true ∧
      hasDescendants screen [card, name, status] [online, alice, online] = .ok true := by
  intro screen card name status alice online
  have hfound : (hasDescendants card [name, status] [alice, online]).toOption = some true := by decide +kernel
  have hcard := toOption_eq_some_iff.mp hfound
  refine ⟨hcard, containers_close_upwards.2.1 screen card [name, status] _ [alice, online] _ (by decide) ?_ ?_ hcard⟩
  · exact List.subset_cons_self _ _
  · simp

end ElementFinder
