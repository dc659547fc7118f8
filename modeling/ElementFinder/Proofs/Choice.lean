import ElementFinder.Search.Candidate
import ElementFinder.Search.Clickable

/-!
# The chosen candidate

Without an index the deepest candidate is chosen, the first one of several. As interactive candidates
stand in front, the choice is the first one of the greatest rank in the original order.
-/

namespace ElementFinder

/-! ## First of the best -/

/-- The first element of a list with the greatest score: those before it score less, those behind it
no more. -/
def FirstBest {α : Type} (score : α → Nat) (l : List α) (a : α) : Prop :=
  ∃ before after, l = before ++ a :: after ∧
    (∀ b ∈ before, score b < score a) ∧ ∀ b ∈ after, score b ≤ score a

namespace FirstBest

variable {α : Type} {score : α → Nat} {l : List α} {a b : α}

theorem mem (h : FirstBest score l a) : a ∈ l := by
  obtain ⟨before, after, rfl, _, _⟩ := h
  simp

theorem le (h : FirstBest score l a) (hb : b ∈ l) : score b ≤ score a := by
  obtain ⟨before, after, rfl, hlt, hle⟩ := h
  rcases List.mem_append.mp hb with hb | hb
  · exact Nat.le_of_lt (hlt b hb)
  · rcases List.mem_cons.mp hb with rfl | hb
    · exact Nat.le_refl _
    · exact hle b hb

theorem unique (ha : FirstBest score l a) (hb : FirstBest score l b) : a = b := by
  have hab : score a = score b := Nat.le_antisymm (hb.le ha.mem) (ha.le hb.mem)
  obtain ⟨u, v, rfl, hu, _⟩ := ha
  obtain ⟨u', v', h, hu', _⟩ := hb
  rcases List.append_eq_append_iff.mp h with ⟨w, rfl, hw⟩ | ⟨w, rfl, hw⟩
  · cases w with
    | nil => simpa using congrArg List.head? hw
    | cons x w =>
        cases hw
        exact absurd (hu' a (by simp)) (by omega)
  · cases w with
    | nil => simpa using congrArg List.head? hw.symm
    | cons x w =>
        cases hw
        exact absurd (hu b (by simp)) (by omega)

/-- An element that scores no more than the first one may stand behind it. -/
theorem insert (h : FirstBest score (a :: l) b) {x : α} (hx : score x ≤ score a) :
    FirstBest score (a :: x :: l) b := by
  obtain ⟨before, after, hl, hlt, hle⟩ := h
  cases before with
  | nil =>
      cases hl
      exact ⟨[], x :: l, rfl, by simp, by simpa using ⟨hx, hle⟩⟩
  | cons y before =>
      cases hl
      have ha : score a < score b := hlt a (by simp)
      refine ⟨a :: x :: before, after, rfl, ?_, hle⟩
      intro z hz
      rcases List.mem_cons.mp hz with rfl | hz
      · exact ha
      · rcases List.mem_cons.mp hz with rfl | hz
        · omega
        · exact hlt z (by simp [hz])

theorem cons (h : FirstBest score l b) (ha : score a < score b) : FirstBest score (a :: l) b := by
  obtain ⟨before, after, rfl, hlt, hle⟩ := h
  exact ⟨a :: before, after, rfl, by simpa using ⟨ha, hlt⟩, hle⟩

theorem exists_cons (score : α → Nat) (a : α) (l : List α) : ∃ b, FirstBest score (a :: l) b := by
  induction l generalizing a with
  | nil => exact ⟨a, [], [], rfl, by simp, by simp⟩
  | cons x l ih =>
      by_cases hx : score x ≤ score a
      · obtain ⟨b, hb⟩ := ih a
        exact ⟨b, hb.insert hx⟩
      · obtain ⟨b, hb⟩ := ih x
        have := hb.le (b := x) (by simp)
        exact ⟨b, hb.cons (by omega)⟩

end FirstBest

/-! ## The deepest candidate -/

theorem firstBest_foldl_deeper (n : Node) (rest : List Node) :
    FirstBest Node.depth (n :: rest) (rest.foldl deeper n) := by
  induction rest generalizing n with
  | nil => exact ⟨[], [], rfl, by simp, by simp⟩
  | cons m rest ih =>
      rw [List.foldl_cons, deeper]
      split
      · next hlt =>
        have h := ih m
        exact h.cons (Nat.lt_of_lt_of_le hlt (h.le (by simp)))
      · next hge => exact (ih n).insert (by omega)

theorem deepest?_eq_some_iff {l : List Node} {n : Node} :
    deepest? l = some n ↔ FirstBest Node.depth l n := by
  cases l with
  | nil => simp [deepest?, FirstBest]
  | cons m rest =>
      constructor
      · rintro ⟨⟩
        exact firstBest_foldl_deeper m rest
      · intro h
        rw [deepest?, h.unique (firstBest_foldl_deeper m rest)]

theorem pick_unindexed {index : Option String} (h : index.filter (!·.isEmpty) = none)
    (l : List Node) : pick l index = .ok (deepest? l) := by
  rw [pick, h]

theorem pick_positioned {index : Option String} {i : String} (h : index.filter (!·.isEmpty) = some i)
    {l : List Node} {n : Node} :
    pick l index = .ok (some n) ↔ l[positionOf i l.length]? = some n := by
  rw [pick, h]
  dsimp only
  split <;> simp [*]

theorem mem_of_pick {l : List Node} {index : Option String} {n : Node}
    (h : pick l index = .ok (some n)) : n ∈ l := by
  rw [pick] at h
  split at h
  · cases h' : deepest? l with
    | none => simp [h'] at h
    | some m =>
        cases (h' ▸ h : Except.ok (some m) = Except.ok (some n))
        exact (deepest?_eq_some_iff.mp h').mem
  · split at h
    · next m hm =>
      cases h
      exact List.mem_of_getElem? hm
    · cases h

theorem positionOf_lt {count : Nat} (h : 0 < count) (index : String) :
    positionOf index count < count := by
  rw [positionOf]
  split
  · exact h
  · next i _ =>
    generalize (if i < 0 then (count : Int) + i else i) = j
    dsimp only
    split <;> omega

/-- Among some candidates one is always picked, whatever the index says. -/
theorem exists_pick {l : List Node} (h : l ≠ []) (index : Option String) :
    ∃ n, pick l index = .ok (some n) := by
  rw [pick]
  split
  · obtain ⟨m, rest, rfl⟩ := List.exists_cons_of_ne_nil h
    exact ⟨_, rfl⟩
  · next i _ =>
    have hlt := positionOf_lt (List.length_pos_iff.mpr h) i
    rw [List.getElem?_eq_getElem hlt]
    exact ⟨_, rfl⟩

/-! ## Interactive candidates first -/

/-- The rank of a candidate: a deeper one is above all others, and of equally deep ones the
interactive ones are above the rest. -/
def Node.rank (n : Node) : Nat := 2 * n.depth + if n.isClickable then 1 else 0

theorem Node.depth_le_of_rank_le {m n : Node} (h : m.rank ≤ n.rank) : m.depth ≤ n.depth := by
  simp only [rank] at h
  split at h <;> split at h <;> omega

theorem Node.depth_lt_of_rank_lt {m n : Node} (h : m.rank < n.rank)
    (hc : m.isClickable = n.isClickable) : m.depth < n.depth := by
  rw [rank, rank, hc] at h
  omega

theorem Node.depth_lt_of_isClickable {m n : Node} (h : m.rank ≤ n.rank)
    (hm : m.isClickable = true) (hn : n.isClickable = false) : m.depth < n.depth := by
  simp only [rank, hm, hn, ↓reduceIte, Bool.false_eq_true] at h
  omega

@[simp] theorem mem_clickableFirst {l : List Node} {n : Node} : n ∈ clickableFirst l ↔ n ∈ l := by
  cases h : n.isClickable <;> simp [clickableFirst, h]

theorem length_clickableFirst (l : List Node) : (clickableFirst l).length = l.length := by
  rw [clickableFirst, List.length_append, ← List.countP_eq_length_filter, ← List.countP_eq_length_filter,
    List.length_eq_countP_add_countP Node.isClickable]
  simp

theorem firstBest_clickableFirst {l : List Node} {n : Node} (h : FirstBest Node.rank l n) :
    FirstBest Node.depth (clickableFirst l) n := by
  have hmax : ∀ m ∈ l, m.depth ≤ n.depth := fun m hm => Node.depth_le_of_rank_le (h.le hm)
  have hall : ∀ m ∈ l, m.rank ≤ n.rank := fun m hm => h.le hm
  obtain ⟨before, after, rfl, hlt, -⟩ := h
  cases hn : n.isClickable with
  | true =>
      refine ⟨before.filter Node.isClickable, after.filter Node.isClickable
        ++ (before ++ n :: after).filter (!·.isClickable), by simp [clickableFirst, hn], ?_, ?_⟩
      · intro m hm
        obtain ⟨hm, hc⟩ := List.mem_filter.mp hm
        exact Node.depth_lt_of_rank_lt (hlt m hm) (by rw [hc, hn])
      · intro m hm
        rcases List.mem_append.mp hm with hm | hm
        · exact hmax m (by simp [(List.mem_filter.mp hm).1])
        · exact hmax m (List.mem_filter.mp hm).1
  | false =>
      refine ⟨(before ++ n :: after).filter Node.isClickable ++ before.filter (!·.isClickable),
        after.filter (!·.isClickable), by simp [clickableFirst, hn], ?_, ?_⟩
      · intro m hm
        rcases List.mem_append.mp hm with hm | hm
        · obtain ⟨hm, hc⟩ := List.mem_filter.mp hm
          exact Node.depth_lt_of_isClickable (hall m hm) hc hn
        · obtain ⟨hm, hc⟩ := List.mem_filter.mp hm
          exact Node.depth_lt_of_rank_lt (hlt m hm) (by simpa [hn] using hc)
      · intro m hm
        exact hmax m (by simp [(List.mem_filter.mp hm).1])

/-- The deepest candidate, interactive ones in front, is the first one of the greatest rank. -/
theorem deepest?_clickableFirst_eq_some_iff {l : List Node} {n : Node} :
    deepest? (clickableFirst l) = some n ↔ FirstBest Node.rank l n := by
  rw [deepest?_eq_some_iff]
  constructor
  · intro h
    cases l with
    | nil => simp [FirstBest, clickableFirst] at h
    | cons m l =>
        obtain ⟨b, hb⟩ := FirstBest.exists_cons Node.rank m l
        rwa [h.unique (firstBest_clickableFirst hb)]
  · exact firstBest_clickableFirst

end ElementFinder
