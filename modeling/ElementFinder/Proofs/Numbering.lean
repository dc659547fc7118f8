import ElementFinder.Page.Snapshot
import Mathlib.Data.List.Basic

/-!
# Numbers of nodes

The number of a node is its place in document order. From the numbers alone the forest can be seen
again: the nodes inside a node are those with the next numbers, as many as its tree has, and the way
up from a node goes to smaller and smaller numbers until it ends at a root.
-/

namespace ElementFinder

namespace Tree

def attributes : Tree → Attributes
  | .node a _ => a

def children : Tree → List Tree
  | .node _ children => children

end Tree

mutual

/-- A tree and the trees inside it, in document order. -/
def Tree.trees : Tree → List Tree
  | .node a children => .node a children :: forestTrees children

/-- Neighbouring trees and the trees inside them, in document order. -/
def forestTrees : List Tree → List Tree
  | [] => []
  | t :: rest => t.trees ++ forestTrees rest

end

/-- The number of trees in a tree, itself among them. -/
def Tree.size (t : Tree) : Nat := t.trees.length

/-- The numbers of neighbouring trees if the first of them has the number `start`. -/
def numbersFrom (start : Nat) : List Tree → List Nat
  | [] => []
  | t :: rest => start :: numbersFrom (start + t.size) rest

/-- A forest is empty, or it has a first tree with the forest inside it and the trees behind it. -/
@[elab_as_elim]
theorem forest_induction {motive : List Tree → Prop} (nil : motive [])
    (cons : ∀ a children rest, motive children → motive rest → motive (.node a children :: rest)) :
    ∀ trees, motive trees
  | [] => nil
  | .node a children :: rest =>
    cons a children rest (forest_induction nil cons children) (forest_induction nil cons rest)

variable {parent : Option Nat} {depth start : Nat} {trees : List Tree} {n m : Node} {t u : Tree}

theorem size_node (a : Attributes) (children : List Tree) :
    (Tree.node a children).size = (forestTrees children).length + 1 := by
  rw [Tree.size, Tree.trees, List.length_cons]

theorem size_pos (t : Tree) : 0 < t.size := by
  obtain ⟨a, children⟩ := t
  rw [size_node]
  exact Nat.succ_pos _

theorem forestTrees_cons (a : Attributes) (children rest : List Tree) :
    forestTrees (.node a children :: rest) =
      .node a children :: (forestTrees children ++ forestTrees rest) := by
  rw [forestTrees, Tree.trees, List.cons_append]

/-! ## The nodes of a forest -/

theorem length_forestNodes :
    (forestNodes parent depth start trees).length = (forestTrees trees).length := by
  induction trees using forest_induction generalizing parent depth start with
  | nil => rfl
  | cons a children rest ihc ihr =>
      simp [forestNodes, Tree.nodes, forestTrees_cons, ihc, ihr]

theorem forestNodes_cons (a : Attributes) (children rest : List Tree) :
    forestNodes parent depth start (.node a children :: rest) =
      ⟨a, start, parent, depth⟩ :: (forestNodes (some start) (depth + 1) (start + 1) children
        ++ forestNodes parent depth (start + (Tree.node a children).size) rest) := by
  simp [forestNodes, Tree.nodes, length_forestNodes, size_node]

theorem ids_forestNodes : (forestNodes parent depth start trees).map (·.id) =
    List.range' start (forestTrees trees).length := by
  induction trees using forest_induction generalizing parent depth start with
  | nil => rfl
  | cons a children rest ihc ihr =>
      rw [forestNodes_cons, forestTrees_cons, List.map_cons, List.map_append, ihc, ihr, size_node,
        List.length_cons, List.length_append, List.range'_succ, ← Nat.add_assoc start,
        Nat.add_right_comm, List.range'_append_1]

theorem id_of_mem_forestNodes (hn : n ∈ forestNodes parent depth start trees) :
    start ≤ n.id ∧ n.id < start + (forestTrees trees).length := by
  have hid : n.id ∈ List.range' start (forestTrees trees).length :=
    ids_forestNodes ▸ List.mem_map_of_mem hn
  exact List.mem_range'_1.mp hid

/-- A node of a forest stands at its top, or its parent is a node in front of it. -/
theorem parent_of_mem_forestNodes (hn : n ∈ forestNodes parent depth start trees) :
    (n.parent = parent ∧ n.depth = depth) ∨
      ∃ p ∈ forestNodes parent depth start trees,
        n.parent = some p.id ∧ p.id < n.id ∧ n.depth = p.depth + 1 := by
  induction trees using forest_induction generalizing parent depth start with
  | nil => cases hn
  | cons a children rest ihc ihr =>
      rw [forestNodes_cons, List.mem_cons, List.mem_append] at hn
      rw [forestNodes_cons]
      rcases hn with rfl | hn | hn
      · exact Or.inl ⟨rfl, rfl⟩
      · right
        obtain ⟨hparent, hdepth⟩ | ⟨p, hp, hrest⟩ := ihc hn
        · exact ⟨_, List.mem_cons_self, hparent, (id_of_mem_forestNodes hn).1, hdepth⟩
        · exact ⟨p, by simp [hp], hrest⟩
      · exact (ihr hn).imp_right fun ⟨p, hp, hrest⟩ => ⟨p, by simp [hp], hrest⟩

theorem parent_number (hn : n ∈ forestNodes parent depth start trees) :
    n.parent = parent ∨ ∃ q, n.parent = some q ∧ start ≤ q ∧ q < n.id := by
  obtain ⟨hparent, -⟩ | ⟨p, hp, hparent, hlt, -⟩ := parent_of_mem_forestNodes hn
  · exact Or.inl hparent
  · exact Or.inr ⟨p.id, hparent, (id_of_mem_forestNodes hp).1, hlt⟩

/-! ## Nodes and their trees -/

/-- The nodes of a forest, each with the tree that it stands for. -/
def forestPlaces (parent : Option Nat) (depth start : Nat) (trees : List Tree) :
    List (Node × Tree) :=
  (forestNodes parent depth start trees).zip (forestTrees trees)

theorem forestPlaces_cons (a : Attributes) (children rest : List Tree) :
    forestPlaces parent depth start (.node a children :: rest) =
      (⟨a, start, parent, depth⟩, .node a children) ::
        (forestPlaces (some start) (depth + 1) (start + 1) children
          ++ forestPlaces parent depth (start + (Tree.node a children).size) rest) := by
  rw [forestPlaces, forestNodes_cons, forestTrees_cons, List.zip_cons_cons,
    List.zip_append length_forestNodes]
  rfl

theorem mem_forestNodes_of_place (hn : (n, t) ∈ forestPlaces parent depth start trees) :
    n ∈ forestNodes parent depth start trees :=
  (List.of_mem_zip hn).1

theorem place_fits (hn : (n, t) ∈ forestPlaces parent depth start trees) :
    n.attributes = t.attributes ∧ n.id + t.size ≤ start + (forestTrees trees).length := by
  induction trees using forest_induction generalizing parent depth start with
  | nil => cases hn
  | cons a children rest ihc ihr =>
      rw [forestPlaces_cons, List.mem_cons, List.mem_append] at hn
      rw [forestTrees_cons, List.length_cons, List.length_append]
      rcases hn with hhead | hn | hn
      · cases hhead
        exact ⟨rfl, by rw [size_node]; dsimp only; omega⟩
      · obtain ⟨hattributes, hle⟩ := ihc hn
        exact ⟨hattributes, by omega⟩
      · obtain ⟨hattributes, hle⟩ := ihr hn
        rw [size_node] at hle
        exact ⟨hattributes, by omega⟩

theorem parent_lt (hparent : ∀ q ∈ parent, q < start)
    (hn : n ∈ forestNodes parent depth start trees) {q : Nat} (hq : n.parent = some q) :
    q < n.id := by
  obtain hp | ⟨_, hp, -, hlt⟩ := parent_number hn
  · exact Nat.lt_of_lt_of_le (hparent q (hp ▸ hq)) (id_of_mem_forestNodes hn).1
  · cases hp.symm.trans hq
    exact hlt

/-! ## The nodes inside a node -/

/-- The number lies in the block of numbers that a node and the nodes inside it take up. -/
def InBlock (n : Node) (t : Tree) (i : Nat) : Prop := n.id ≤ i ∧ i < n.id + t.size

theorem inBlock_iff_of_before (hparent : ∀ q ∈ parent, q < start)
    (hm : m ∈ forestNodes parent depth start trees) (hlt : m.id < n.id) :
    InBlock n t m.id ↔ ∃ q, m.parent = some q ∧ InBlock n t q := by
  refine iff_of_false (fun h => Nat.not_le.mpr hlt h.1) ?_
  rintro ⟨q, hq, hle, -⟩
  have := parent_lt hparent hm hq
  omega

theorem inBlock_iff_of_behind (hparent : ∀ q ∈ parent, q < n.id)
    (hm : m ∈ forestNodes parent depth start trees) (hle : n.id + t.size ≤ start) :
    InBlock n t m.id ↔ ∃ q, m.parent = some q ∧ InBlock n t q := by
  have hid := id_of_mem_forestNodes hm
  refine iff_of_false (fun h => by have := h.2; omega) ?_
  rintro ⟨q, hq, hge, hlt⟩
  obtain hp | ⟨_, hp, hstart, -⟩ := parent_number hm
  · have := hparent q (hp ▸ hq)
    omega
  · cases hp.symm.trans hq
    omega

/-- A node other than the first one lies in a block exactly if its parent does. -/
theorem inBlock_iff_parent (hparent : ∀ q ∈ parent, q < start)
    (hn : (n, t) ∈ forestPlaces parent depth start trees)
    (hm : m ∈ forestNodes parent depth start trees) (hne : m.id ≠ n.id) :
    InBlock n t m.id ↔ ∃ q, m.parent = some q ∧ InBlock n t q := by
  have hbefore := inBlock_iff_of_before (n := n) (t := t) hparent hm
  induction trees using forest_induction generalizing parent depth start with
  | nil => cases hm
  | cons a children rest ihc ihr =>
      have hsize := size_node a children
      rw [forestPlaces_cons, List.mem_cons, List.mem_append] at hn
      rw [forestNodes_cons, List.mem_cons, List.mem_append] at hm
      -- The block begins with the first tree, inside of it or behind it, and so stands the node.
      rcases hm with rfl | hm | hm
      · refine hbefore ?_
        rcases hn with hhead | hn | hn
        · cases hhead
          exact absurd rfl hne
        · exact (id_of_mem_forestNodes (mem_forestNodes_of_place hn)).1
        · have := (id_of_mem_forestNodes (mem_forestNodes_of_place hn)).1
          dsimp only
          omega
      · have hid := id_of_mem_forestNodes hm
        rcases hn with hhead | hn | hn
        · cases hhead
          refine iff_of_true ⟨by dsimp only; omega, by dsimp only; omega⟩ ?_
          obtain hp | ⟨q, hp, hle, hlt⟩ := parent_number hm
          · exact ⟨start, hp, Nat.le_refl _, Nat.lt_add_of_pos_right (size_pos _)⟩
          · exact ⟨q, hp, by dsimp only; omega, by dsimp only; omega⟩
        · exact ihc (by simp) hn hm
        · have := (id_of_mem_forestNodes (mem_forestNodes_of_place hn)).1
          exact hbefore (by omega)
      · rcases hn with hhead | hn | hn
        · cases hhead
          exact inBlock_iff_of_behind hparent hm (Nat.le_refl _)
        · have hge := (id_of_mem_forestNodes (mem_forestNodes_of_place hn)).1
          have hle := (place_fits hn).2
          exact inBlock_iff_of_behind (fun q hq => by have := hparent q hq; omega) hm (by omega)
        · exact ihr (fun q hq => Nat.lt_add_right _ (hparent q hq)) hn hm

/-! ## Children -/

/-- The nodes whose parent has a number, in their order. -/
def childrenIn (nodes : List Node) (parent : Option Nat) : List Node :=
  nodes.filter fun m => m.parent == parent

theorem childrenIn_eq_nil {q : Nat} (hne : parent ≠ some q)
    (hq : q < start ∨ start + (forestTrees trees).length ≤ q) :
    childrenIn (forestNodes parent depth start trees) (some q) = [] := by
  rw [childrenIn, List.filter_eq_nil_iff]
  intro m hm hmq
  rw [beq_iff_eq] at hmq
  have hid := id_of_mem_forestNodes hm
  obtain hp | ⟨q', hp, hle, hlt⟩ := parent_number hm
  · exact hne (hp.symm.trans hmq)
  · cases hp.symm.trans hmq
    omega

theorem childrenIn_append (nodes others : List Node) (parent : Option Nat) :
    childrenIn (nodes ++ others) parent = childrenIn nodes parent ++ childrenIn others parent :=
  List.filter_append ..

theorem childrenIn_cons_of_ne {nodes : List Node} {q : Option Nat} (hne : n.parent ≠ q) :
    childrenIn (n :: nodes) q = childrenIn nodes q :=
  List.filter_cons_of_neg (by simpa using hne)

/-- The trees of a forest are the nodes that have its parent. -/
theorem childrenIn_top (hparent : ∀ q ∈ parent, q < start) :
    (childrenIn (forestNodes parent depth start trees) parent).map (·.id) = numbersFrom start trees := by
  induction trees using forest_induction generalizing parent depth start with
  | nil => rfl
  | cons a children rest ihc ihr =>
      have hinside : childrenIn (forestNodes (some start) (depth + 1) (start + 1) children) parent = [] := by
        rw [childrenIn, List.filter_eq_nil_iff]
        intro m hm hmp
        rw [beq_iff_eq] at hmp
        obtain hp | ⟨q, hp, hle, -⟩ := parent_number hm
        · have := hparent start (hmp ▸ hp)
          omega
        · have := hparent q (hmp ▸ hp)
          omega
      rw [forestNodes_cons, childrenIn, List.filter_cons_of_pos (by simp), ← childrenIn,
        childrenIn_append, hinside, List.nil_append, List.map_cons,
        ihr fun q hq => Nat.lt_add_right _ (hparent q hq), numbersFrom]

/-- The children of a node are the trees inside its tree. -/
theorem childrenIn_place (hparent : ∀ q ∈ parent, q < start)
    (hn : (n, t) ∈ forestPlaces parent depth start trees) :
    (childrenIn (forestNodes parent depth start trees) (some n.id)).map (·.id) =
      numbersFrom (n.id + 1) t.children := by
  induction trees using forest_induction generalizing parent depth start with
  | nil => cases hn
  | cons a children rest ihc ihr =>
      have hsize := size_node a children
      have hne : parent ≠ some n.id := by
        intro hp
        have := (id_of_mem_forestNodes (mem_forestNodes_of_place hn)).1
        have := hparent n.id hp
        omega
      rw [forestPlaces_cons, List.mem_cons, List.mem_append] at hn
      rw [forestNodes_cons, childrenIn_cons_of_ne hne, childrenIn_append]
      rcases hn with hhead | hn | hn
      · cases hhead
        have hbehind : childrenIn (forestNodes parent depth (start + (Tree.node a children).size) rest)
            (some start) = [] :=
          childrenIn_eq_nil hne (Or.inl (Nat.lt_add_of_pos_right (size_pos _)))
        rw [hbehind, List.append_nil]
        exact childrenIn_top (by simp)
      · have hid := id_of_mem_forestNodes (mem_forestNodes_of_place hn)
        have hbehind : childrenIn (forestNodes parent depth (start + (Tree.node a children).size) rest)
            (some n.id) = [] :=
          childrenIn_eq_nil hne (Or.inl (by omega))
        rw [hbehind, List.append_nil, ihc (by simp) hn]
      · have hid := id_of_mem_forestNodes (mem_forestNodes_of_place hn)
        have hinside : childrenIn (forestNodes (some start) (depth + 1) (start + 1) children)
            (some n.id) = [] :=
          childrenIn_eq_nil (by intro h; cases h; omega) (Or.inr (by omega))
        rw [hinside, List.nil_append, ihr (fun q hq => Nat.lt_add_right _ (hparent q hq)) hn]

/-! ## The trees of a forest by their numbers -/

theorem trees_of_getElem? {i : Nat} (ht : (forestTrees trees)[i]? = some t) :
    ∃ before after, forestTrees trees = before ++ t.trees ++ after ∧ before.length = i := by
  induction trees using forest_induction generalizing i with
  | nil => simp [forestTrees] at ht
  | cons a children rest ihc ihr =>
      rw [forestTrees_cons] at ht ⊢
      cases i with
      | zero =>
          cases ht
          exact ⟨[], forestTrees rest, by simp [Tree.trees], rfl⟩
      | succ i =>
          rw [List.getElem?_cons_succ, List.getElem?_append] at ht
          split at ht
          · obtain ⟨before, after, hsplit, rfl⟩ := ihc ht
            exact ⟨.node a children :: before, after ++ forestTrees rest, by simp [hsplit], rfl⟩
          · next hi =>
            obtain ⟨before, after, hsplit, hlength⟩ := ihr ht
            refine ⟨.node a children :: forestTrees children ++ before, after, by simp [hsplit], ?_⟩
            simp only [List.length_append, List.length_cons]
            omega

theorem getElem?_numbersFrom (trees before after : List Tree) :
    (numbersFrom before.length trees).map
        (fun i => (before ++ forestTrees trees ++ after)[i]?) = trees.map some := by
  induction trees generalizing before with
  | nil => rfl
  | cons t rest ih =>
      have hrest := ih (before ++ t.trees)
      rw [List.length_append, ← Tree.size] at hrest
      obtain ⟨a, children⟩ := t
      simp only [numbersFrom, forestTrees, List.map_cons, ← List.append_assoc, hrest]
      simp [Tree.trees]

end ElementFinder
