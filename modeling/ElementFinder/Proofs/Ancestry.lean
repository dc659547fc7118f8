import ElementFinder.Proofs.Numbering

/-!
# The way up

From a node of a snapshot the way up leads from parent to parent. As a parent has a smaller number
than its child, the way ends, and it ends at a root. The nodes from which it leads through a given
node are those inside that node.
-/

namespace ElementFinder

namespace Snapshot

variable {s : Snapshot} {roots : List Tree} {n m p : Node} {t : Tree} {above : List Node}

/-- The way up from a node passes these nodes and ends there. -/
inductive Climbs (s : Snapshot) : Node → List Node → Prop
  | top {n : Node} : s.parent? n = none → Climbs s n []
  | step {n p : Node} {above : List Node} :
      s.parent? n = some p → Climbs s p above → Climbs s n (p :: above)

theorem Climbs.ancestorsUpTo_eq (h : s.Climbs n above) {fuel : Nat} (hfuel : above.length ≤ fuel) :
    s.ancestorsUpTo fuel n = above := by
  induction h generalizing fuel with
  | top hn =>
      cases fuel with
      | zero => rfl
      | succ fuel => rw [ancestorsUpTo, hn]
  | step hn _ ih =>
      cases fuel with
      | zero => simp at hfuel
      | succ fuel =>
          rw [ancestorsUpTo, hn]
          dsimp only
          rw [ih (Nat.le_of_succ_le_succ hfuel)]

/-! ## Numbers as places -/

theorem id_of_getElem? {i : Nat} (hn : (ofForest roots).nodes[i]? = some n) : n.id = i := by
  have hid : ((forestNodes none 0 0 roots).map (·.id))[i]? =
      (List.range' 0 (forestTrees roots).length)[i]? :=
    congrArg (·[i]?) ids_forestNodes
  have hi := (List.getElem?_eq_some_iff.mp hn).1
  rw [ofForest, length_forestNodes] at hi
  rw [ofForest] at hn
  simpa [hn, hi] using hid

theorem node?_id (hn : n ∈ (ofForest roots).nodes) : (ofForest roots).node? n.id = some n := by
  obtain ⟨i, hi⟩ := List.mem_iff_getElem?.mp hn
  rw [node?, id_of_getElem? hi, hi]

theorem id_injective (hn : n ∈ (ofForest roots).nodes) (hm : m ∈ (ofForest roots).nodes)
    (h : m.id = n.id) : m = n := by
  have hfound := node?_id hm
  rw [h, node?_id hn] at hfound
  exact (Option.some.inj hfound).symm

theorem exists_place (hn : n ∈ (ofForest roots).nodes) :
    ∃ t, (forestTrees roots)[n.id]? = some t ∧ (n, t) ∈ forestPlaces none 0 0 roots := by
  have hfound : (ofForest roots).nodes[n.id]? = some n := node?_id hn
  obtain ⟨hid, -⟩ := List.getElem?_eq_some_iff.mp hfound
  rw [ofForest, length_forestNodes] at hid
  refine ⟨_, List.getElem?_eq_getElem hid, List.mem_of_getElem? (i := n.id) ?_⟩
  rw [forestPlaces, List.getElem?_zip_eq_some]
  exact ⟨hfound, List.getElem?_eq_getElem hid⟩

/-- A node is a root, or its parent is a node in front of it. -/
theorem parent_cases (hn : n ∈ (ofForest roots).nodes) :
    (n.parent = none ∧ n.depth = 0) ∨ ∃ p ∈ (ofForest roots).nodes,
      n.parent = some p.id ∧ p.id < n.id ∧ n.depth = p.depth + 1 :=
  parent_of_mem_forestNodes hn

theorem parent?_eq_none (hn : n ∈ (ofForest roots).nodes) :
    (ofForest roots).parent? n = none ↔ n.parent = none := by
  rw [parent?]
  obtain ⟨hp, -⟩ | ⟨p, hp, hparent, -⟩ := parent_cases hn
  · simp [hp]
  · simp [hparent, node?_id hp]

theorem parent?_eq_some (hp : p ∈ (ofForest roots).nodes) (hparent : n.parent = some p.id) :
    (ofForest roots).parent? n = some p := by
  rw [parent?, hparent, Option.bind_some, node?_id hp]

theorem parent_of_parent? (hn : n ∈ (ofForest roots).nodes)
    (hp : (ofForest roots).parent? n = some p) :
    p ∈ (ofForest roots).nodes ∧ n.parent = some p.id := by
  obtain ⟨hnone, -⟩ | ⟨q, hq, hparent, -⟩ := parent_cases hn
  · simp [parent?, hnone] at hp
  · cases (parent?_eq_some hq hparent).symm.trans hp
    exact ⟨hq, hparent⟩

/-! ## The end of the way -/

/-- The way up from a node: as long as the node is deep, to smaller and smaller numbers, and up to a
root. -/
structure ClimbsToRoot (s : Snapshot) (n : Node) (above : List Node) : Prop where
  climbs : s.Climbs n above
  length : above.length = n.depth
  decreasing : (n :: above).Pairwise fun a b => b.id < a.id
  root : ∃ r, (n :: above).getLast? = some r ∧ r.parent = none ∧ r.depth = 0

theorem exists_climb (hn : n ∈ (ofForest roots).nodes) :
    ∃ above, (ofForest roots).ClimbsToRoot n above ∧ above.length ≤ n.id := by
  induction hid : n.id using Nat.strongRecOn generalizing n with
  | ind i ih =>
      subst hid
      obtain ⟨hnone, hdepth⟩ | ⟨p, hp, hparent, hlt, hdepth⟩ := parent_cases hn
      · exact ⟨[], ⟨.top ((parent?_eq_none hn).mpr hnone), hdepth.symm, by simp, n, rfl, hnone, hdepth⟩,
          Nat.zero_le _⟩
      · obtain ⟨above, ⟨hclimbs, hlength, hdecreasing, hroot⟩, hle⟩ := ih p.id hlt hp rfl
        refine ⟨p :: above, ⟨.step (parent?_eq_some hp hparent) hclimbs, ?_, ?_, ?_⟩, ?_⟩
        · rw [List.length_cons, hlength, hdepth]
        · refine List.pairwise_cons.mpr ⟨fun a ha => ?_, hdecreasing⟩
          obtain rfl | ha := List.mem_cons.mp ha
          · exact hlt
          · exact Nat.lt_trans ((List.pairwise_cons.mp hdecreasing).1 a ha) hlt
        · simpa only [List.getLast?_cons_cons] using hroot
        · rw [List.length_cons]
          omega

theorem climbsToRoot_ancestors (hn : n ∈ (ofForest roots).nodes) :
    (ofForest roots).ClimbsToRoot n ((ofForest roots).ancestors n) := by
  obtain ⟨above, hclimb, hle⟩ := exists_climb hn
  have hid : n.id < (ofForest roots).nodes.length :=
    (List.getElem?_eq_some_iff.mp (node?_id hn)).1
  rw [ancestors, hclimb.climbs.ancestorsUpTo_eq (by omega)]
  exact hclimb

/-! ## The nodes inside a node -/

/-- The way up from a node leads through another one exactly if it starts in its block. -/
theorem Climbs.passes_iff (h : (ofForest roots).Climbs m above) (hm : m ∈ (ofForest roots).nodes)
    (hn : (n, t) ∈ forestPlaces none 0 0 roots) : n ∈ m :: above ↔ InBlock n t m.id := by
  have hself : InBlock n t n.id := ⟨Nat.le_refl _, Nat.lt_add_of_pos_right (size_pos t)⟩
  have hnode : n ∈ (ofForest roots).nodes := mem_forestNodes_of_place hn
  induction h with
  | @top m hroot =>
      by_cases hid : m.id = n.id
      · rw [id_injective hnode hm hid]
        simpa using hself
      · have hblock := inBlock_iff_parent (by simp) hn hm hid
        rw [(parent?_eq_none hm).mp hroot] at hblock
        have hne : n ≠ m := fun h => hid (h ▸ rfl)
        simpa [hne] using hblock
  | @step m p above hparent _ ih =>
      obtain ⟨hp, hparent⟩ := parent_of_parent? hm hparent
      by_cases hid : m.id = n.id
      · rw [id_injective hnode hm hid]
        simpa using hself
      · have hblock := inBlock_iff_parent (by simp) hn hm hid
        have hne : n ≠ m := fun h => hid (h ▸ rfl)
        have habove : n ∈ p :: above ↔ InBlock n t p.id := ih hp
        rw [List.mem_cons, or_iff_right hne, habove, hblock, hparent]
        simp

/-- What a snapshot shows of the tree that a node stands for. -/
structure ShowsTree (s : Snapshot) (roots : List Tree) (n : Node) (t : Tree) : Prop where
  attributes : n.attributes = t.attributes
  /-- The numbers of the children, each the next one after the tree in front of it. -/
  numbers : (s.children n).map (·.id) = numbersFrom (n.id + 1) t.children
  /-- The trees that the children stand for. -/
  children : (s.children n).map (fun c => (forestTrees roots)[c.id]?) = t.children.map some
  /-- The block of trees that the node and the nodes inside it stand for. -/
  block : ((forestTrees roots).drop n.id).take t.size = t.trees
  /-- The nodes inside the node, itself among them, have the numbers of its block. -/
  inside : ∀ m ∈ s.nodes,
    (m = n ∨ n ∈ s.ancestors m) ↔ n.id ≤ m.id ∧ m.id < n.id + t.size

theorem showsTree_of_place (hfound : (forestTrees roots)[n.id]? = some t)
    (hn : (n, t) ∈ forestPlaces none 0 0 roots) : (ofForest roots).ShowsTree roots n t := by
  have hnumbers : ((ofForest roots).children n).map (·.id) = numbersFrom (n.id + 1) t.children :=
    childrenIn_place (by simp) hn
  obtain ⟨before, after, hsplit, hlength⟩ := trees_of_getElem? hfound
  refine ⟨(place_fits hn).1, hnumbers, ?_, ?_, fun m hm => ?_⟩
  · have htrees := getElem?_numbersFrom t.children (before ++ [t]) after
    obtain ⟨a, children⟩ := t
    have hwhole : before ++ [Tree.node a children] ++ forestTrees children ++ after = forestTrees roots := by
      rw [hsplit, Tree.trees]
      simp
    rw [Tree.children, hwhole, List.length_append, hlength, List.length_singleton] at htrees
    rw [Tree.children, ← htrees, ← Tree.children.eq_1 a children, ← hnumbers, List.map_map]
    rfl
  · rw [hsplit, ← hlength, List.append_assoc, List.drop_left, Tree.size, List.take_left]
  · rw [eq_comm, ← List.mem_cons]
    exact (climbsToRoot_ancestors hm).climbs.passes_iff hm hn

end Snapshot

/-! ## Main result -/

/-- The nodes of a snapshot have their places as numbers. Roots have no parent and no depth, every other
node is one deeper than its parent, which stands in front of it. The children of a node are the trees
inside its tree, the nodes inside it follow it without a gap, and the way up from it ends at a root. -/
theorem forest_is_seen_in_numbers (roots : List Tree) :
    let s := Snapshot.ofForest roots
    s.nodes.length = (forestTrees roots).length ∧
    (∀ (i : Nat) (n : Node), s.nodes[i]? = some n → n.id = i) ∧
    s.roots.map (·.id) = numbersFrom 0 roots ∧
    s.roots.map (fun r => (forestTrees roots)[r.id]?) = roots.map some ∧
    ∀ n ∈ s.nodes,
      ((n.parent = none ∧ n.depth = 0) ∨ ∃ p ∈ s.nodes,
        n.parent = some p.id ∧ p.id < n.id ∧ n.depth = p.depth + 1) ∧
      (∃ t, (forestTrees roots)[n.id]? = some t ∧ s.ShowsTree roots n t) ∧
      (s.children n).Pairwise (fun a b => a.id < b.id) ∧
      s.ClimbsToRoot n (s.ancestors n) := by
  intro s
  have hroots : s.roots.map (·.id) = numbersFrom 0 roots := by
    have htop : (childrenIn (forestNodes none 0 0 roots) none).map (·.id) = numbersFrom 0 roots :=
      childrenIn_top (by simp)
    rw [← htop]
    simp only [Snapshot.roots, childrenIn, s, Snapshot.ofForest]
    congr 2
    funext m
    cases m.parent <;> rfl
  have hsorted : s.nodes.Pairwise fun a b => a.id < b.id := by
    rw [← List.pairwise_map, show s.nodes.map (·.id) = _ from ids_forestNodes]
    exact List.pairwise_lt_range'
  refine ⟨length_forestNodes, fun i n => Snapshot.id_of_getElem?, hroots, ?_, fun n hn => ?_⟩
  · have htrees := getElem?_numbersFrom roots [] []
    rw [← htrees, List.length_nil, ← hroots, List.map_map]
    simp
  · obtain ⟨t, hfound, hplace⟩ := Snapshot.exists_place hn
    exact ⟨Snapshot.parent_cases hn, ⟨t, hfound, Snapshot.showsTree_of_place hfound hplace⟩,
      hsorted.filter _, Snapshot.climbsToRoot_ancestors hn⟩

end ElementFinder
