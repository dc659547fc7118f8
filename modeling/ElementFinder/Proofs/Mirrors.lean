import ElementFinder.Proofs.Matching

/-!
# Mirrored relations

A direction becomes another one where all rectangles are reflected or their axes are exchanged, and the order of
what is found stays. Seen from the other node a relation is the opposite one.
-/

namespace ElementFinder

/-! ## Transformed rectangles -/

namespace Bounds

/-- The rectangle reflected in the horizontal axis. -/
def flipped (b : Bounds) : Bounds := ⟨b.x, -b.y - b.height, b.width, b.height⟩

/-- The rectangle reflected in the vertical axis. -/
def mirrored (b : Bounds) : Bounds := ⟨-b.x - b.width, b.y, b.width, b.height⟩

/-- The rectangle with its axes exchanged. -/
def transposed (b : Bounds) : Bounds := ⟨b.y, b.x, b.height, b.width⟩

end Bounds

/-- The node with a transformed rectangle. -/
def Node.withBounds (f : Bounds → Bounds) (n : Node) : Node :=
  { n with attributes := { n.attributes with bounds := f n.bounds } }

namespace Relation

variable {r r' : Relation} {f : Bounds → Bounds}

/-- A transformation takes one relation to the other if it takes their conditions and their gaps to each other. -/
structure Becomes (f : Bounds → Bounds) (r r' : Relation) : Prop where
  holds : ∀ b anchor, r'.holds (f b) (f anchor) = r.holds b anchor
  gap : r'.gap?.map (fun gap b anchor => gap (f b) (f anchor)) = r.gap?

/-- What the other relation finds among transformed candidates is what the one finds, transformed. -/
theorem Becomes.map_apply (h : Becomes f r r') (candidates : List Node) (anchor : Node) :
    (r.apply candidates anchor).map (Node.withBounds f) =
      r'.apply (candidates.map (Node.withBounds f)) (anchor.withBounds f) := by
  have hrelated : (candidates.map (Node.withBounds f)).filter
        (fun n => r'.holds n.bounds (anchor.withBounds f).bounds) =
      (candidates.filter fun n => r.holds n.bounds anchor.bounds).map (Node.withBounds f) := by
    rw [List.filter_map]
    exact congrArg _ (List.filter_congr fun n _ => h.holds n.bounds anchor.bounds)
  rw [apply, apply, hrelated, ← h.gap]
  cases r'.gap? with
  | none => rfl
  | some gap => exact List.map_mergeSort fun _ _ _ _ => rfl

theorem becomes_flipped : Becomes Bounds.flipped above below := by
  constructor
  · intro b anchor
    rw [Bool.eq_iff_iff]
    simp only [holds, decide_eq_true_eq]
    simp only [Bounds.flipped, Bounds.bottom]
    omega
  · simp only [gap?, Option.map_some, Option.some.injEq, Bounds.flipped, Bounds.bottom]
    funext b anchor
    omega

theorem becomes_mirrored : Becomes Bounds.mirrored leftOf rightOf := by
  constructor
  · intro b anchor
    rw [Bool.eq_iff_iff]
    simp only [holds, decide_eq_true_eq]
    simp only [Bounds.mirrored, Bounds.right]
    omega
  · simp only [gap?, Option.map_some, Option.some.injEq, Bounds.mirrored, Bounds.right]
    funext b anchor
    omega

theorem becomes_transposed : Becomes Bounds.transposed rightOf below :=
  ⟨fun _ _ => rfl, rfl⟩

/-! ## Opposite relations -/

/-- A node is found by the one relation to another node exactly if the other relation to the node finds that
one, among whichever candidates. -/
def Opposite (r r' : Relation) : Prop :=
  ∀ (nodes others : List Node) (n other : Node),
    n ∈ r.apply nodes other ∧ other ∈ others ↔ other ∈ r'.apply others n ∧ n ∈ nodes

theorem opposite_of_holds (h : ∀ b anchor, r.holds b anchor = r'.holds anchor b) : Opposite r r' := by
  intro nodes others n other
  rw [mem_apply, mem_apply, h]
  exact ⟨fun ⟨⟨hn, hholds⟩, hother⟩ => ⟨⟨hother, hholds⟩, hn⟩,
    fun ⟨⟨hother, hholds⟩, hn⟩ => ⟨⟨hn, hholds⟩, hother⟩⟩

end Relation

/-! ## Main result -/

/-- The four directions are one up to reflection and exchange of the axes, as ordered lists, and three pairs of
relations are opposite. -/
theorem relations_mirror_each_other (candidates : List Node) (anchor : Node) :
    let found (r : Relation) := r.apply candidates anchor
    let foundAs (r : Relation) (f : Bounds → Bounds) :=
      r.apply (candidates.map (Node.withBounds f)) (anchor.withBounds f)
    (found .above).map (Node.withBounds Bounds.flipped) = foundAs .below Bounds.flipped ∧
      (found .leftOf).map (Node.withBounds Bounds.mirrored) = foundAs .rightOf Bounds.mirrored ∧
      (found .rightOf).map (Node.withBounds Bounds.transposed) = foundAs .below Bounds.transposed ∧
      Relation.Opposite .below .above ∧ Relation.Opposite .leftOf .rightOf ∧
      Relation.Opposite .childOf .containsChild :=
  ⟨Relation.becomes_flipped.map_apply candidates anchor, Relation.becomes_mirrored.map_apply candidates anchor,
    Relation.becomes_transposed.map_apply candidates anchor, Relation.opposite_of_holds fun _ _ => rfl,
    Relation.opposite_of_holds fun _ _ => rfl, Relation.opposite_of_holds fun _ _ => rfl⟩

end ElementFinder
