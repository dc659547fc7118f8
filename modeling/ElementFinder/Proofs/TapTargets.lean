import ElementFinder.Proofs.Ancestry
import ElementFinder.Proofs.ExactText

/-!
# Where a tap goes

On the way up from a node every node is less deep than the one before. So the first interactive node on the way is the
deepest one, and a tap on the node goes to it. An element that is found on a page shows the node that was
picked, at the place of the node that takes the tap.
-/

namespace ElementFinder

variable {roots : List Tree} {n m p : Node} {above path : List Node}

/-! ## Depths on the way up -/

namespace Snapshot

theorem depth_of_parent? (hn : n ∈ (ofForest roots).nodes) (hp : (ofForest roots).parent? n = some p) :
    n.depth = p.depth + 1 := by
  obtain ⟨hmem, hparent⟩ := parent_of_parent? hn hp
  obtain ⟨hnone, -⟩ | ⟨q, hq, hparent', -, hdepth⟩ := parent_cases hn
  · cases hparent.symm.trans hnone
  · cases id_injective hq hmem (Option.some.inj (hparent.symm.trans hparent'))
    exact hdepth

/-- The nodes on the way up are nodes of the snapshot, less and less deep. -/
theorem Climbs.falls (h : (ofForest roots).Climbs n above) (hn : n ∈ (ofForest roots).nodes) :
    (∀ m ∈ above, m ∈ (ofForest roots).nodes) ∧ (n :: above).Pairwise fun a b => b.depth < a.depth := by
  induction h with
  | top => simp
  | @step n p above hparent _ ih =>
      have hp : p ∈ (ofForest roots).nodes := (parent_of_parent? hn hparent).1
      obtain ⟨hmem, hfalls⟩ := ih hp
      refine ⟨List.forall_mem_cons.mpr ⟨hp, hmem⟩, List.pairwise_cons.mpr ⟨fun m hm => ?_, hfalls⟩⟩
      -- The parent is one step above the node, all others are above the parent.
      rw [depth_of_parent? hn hparent]
      rcases List.mem_cons.mp hm with rfl | hm
      · exact Nat.lt_succ_self _
      · exact Nat.lt_succ_of_lt ((List.pairwise_cons.mp hfalls).1 m hm)

/-- The way up leads through the nodes in whose trees it starts. -/
theorem Climbs.mem_iff (h : (ofForest roots).Climbs n above) (hn : n ∈ (ofForest roots).nodes)
    (hm : m ∈ (ofForest roots).nodes) :
    m ∈ n :: above ↔ ∃ t, (forestTrees roots)[m.id]? = some t ∧ InBlock m t n.id := by
  obtain ⟨t, hfound, hplace⟩ := exists_place hm
  rw [h.passes_iff hn hplace, hfound]
  simp

/-! ## The node that takes a tap -/

theorem tapTarget_of_isClickable {s : Snapshot} (hn : n.isClickable = true) : s.tapTarget n = n := by
  rw [tapTarget, List.find?_cons_of_pos hn, Option.getD_some]

end Snapshot

/-- The interactive node of the greatest depth on a path, or the given node if no node on the path is interactive. -/
structure IsNearest (path : List Node) (n target : Node) : Prop where
  interactive : (∃ m ∈ path, m.isClickable = true) → target.isClickable = true ∧ target ∈ path ∧
    ∀ m ∈ path, m.isClickable = true → m ≠ target → m.depth < target.depth
  itself : (∀ m ∈ path, m.isClickable = false) → target = n

/-- On a path that falls in depth the first interactive node is the deepest. -/
theorem isNearest_find? (hfalls : path.Pairwise fun a b => b.depth < a.depth) :
    IsNearest path n ((path.find? Node.isClickable).getD n) := by
  cases hfind : path.find? Node.isClickable with
  | none =>
      rw [List.find?_eq_none] at hfind
      exact ⟨fun ⟨m, hm, hclickable⟩ => absurd hclickable (hfind m hm), fun _ => rfl⟩
  | some target =>
      obtain ⟨hclickable, before, behind, rfl, hbefore⟩ := List.find?_eq_some_iff_append.mp hfind
      rw [List.pairwise_append, List.pairwise_cons] at hfalls
      refine ⟨fun _ => ⟨hclickable, by simp, fun m hm hm' hne => ?_⟩, fun hnone => ?_⟩
      · rcases List.mem_append.mp hm with hm | hm
        · simpa [hm'] using hbefore m hm
        · exact hfalls.2.1.1 m ((List.mem_cons.mp hm).resolve_left hne)
      · simpa [hclickable] using hnone target (by simp)

namespace Snapshot

theorem isNearest_tapTarget (hn : n ∈ (ofForest roots).nodes) :
    IsNearest (n :: (ofForest roots).ancestors n) n ((ofForest roots).tapTarget n) :=
  isNearest_find? ((climbsToRoot_ancestors hn).climbs.falls hn).2

theorem tapTarget_mem (s : Snapshot) (n : Node) : s.tapTarget n ∈ n :: s.ancestors n := by
  rw [tapTarget]
  cases hfind : (n :: s.ancestors n).find? Node.isClickable with
  | none => exact List.mem_cons_self
  | some target => exact List.mem_of_find?_eq_some hfind

theorem tapTarget_tapTarget (s : Snapshot) (n : Node) : s.tapTarget (s.tapTarget n) = s.tapTarget n := by
  cases hfind : (n :: s.ancestors n).find? Node.isClickable with
  | none =>
      have hself : s.tapTarget n = n := by rw [tapTarget, hfind, Option.getD_none]
      rw [hself, hself]
  | some target =>
      have htarget : s.tapTarget n = target := by rw [tapTarget, hfind, Option.getD_some]
      rw [htarget, tapTarget_of_isClickable (List.find?_some hfind)]

theorem exists_forest_of_ofSource {source : String} {page : Snapshot} (h : ofSource source = .ok page) :
    ∃ roots, page = ofForest roots := by
  rw [ofSource] at h
  dsimp only at h
  split at h
  · cases h
    exact ⟨_, rfl⟩
  · split at h <;> cases h

end Snapshot

/-! ## Main result -/

theorem Attempt.byPage_eq_ok {σ : Type} {c : Client σ} {wanted : Selector} {t : World σ} {e : Element} :
    (byPage c wanted t).1 = .ok e ↔ t.exchange.answer c .source >>= pickFrom wanted = .ok e := by
  cases hrun : byPage c wanted t with
  | mk o u =>
      obtain ⟨f, hdescribe, rfl, -⟩ | ⟨-, rfl⟩ := byPage_inv hrun
      · refine iff_of_false nofun fun h => ?_
        obtain ⟨description, _, _, hdescribe', _⟩ := pickFrom_eq_ok.mp h
        cases hdescribe.symm.trans hdescribe'
      · rfl

/-- A tap on a node goes to the interactive node of the greatest depth among the node and those in whose trees it
is, and to the node itself if none of them is interactive. What takes a tap keeps it. An attempt on a page returns
the element with the text and the states of the picked node, at the place of the node that takes the tap. -/
theorem tap_goes_to_nearest_clickable :
    (∀ roots : List Tree, let page := Snapshot.ofForest roots
      ∀ n ∈ page.nodes, ∃ above, page.ClimbsToRoot n above ∧
        (∀ m ∈ page.nodes, m ∈ n :: above ↔ ∃ t, (forestTrees roots)[m.id]? = some t ∧ InBlock m t n.id) ∧
        (page.tapTarget n = n ∨ page.tapTarget n ∈ above) ∧
        IsNearest (n :: above) n (page.tapTarget n) ∧
        page.tapTarget (page.tapTarget n) = page.tapTarget n) ∧
      ∀ {σ : Type} (c : Client σ) (wanted : Selector) (t : World σ) (e : Element),
        (Attempt.byPage c wanted t).1 = .ok e ↔
          ∃ roots n description, nextPage c t.exchange = .ok (Snapshot.ofForest roots) ∧
            wanted.pickIn (Snapshot.ofForest roots) = .ok (some n) ∧ n ∈ (Snapshot.ofForest roots).nodes ∧
            wanted.describe = .ok description ∧
            e = { text := n.attributes.label
                  bounds := ((Snapshot.ofForest roots).tapTarget n).bounds
                  enabled := n.attributes.enabled
                  visible := n.attributes.displayed
                  origin := ⟨description, "page_source", none⟩ } := by
  constructor
  · intro roots page n hn
    have hway := Snapshot.climbsToRoot_ancestors hn
    refine ⟨page.ancestors n, hway, fun m hm => hway.climbs.mem_iff hn hm, ?_, Snapshot.isNearest_tapTarget hn,
      Snapshot.tapTarget_tapTarget page n⟩
    exact List.mem_cons.mp (Snapshot.tapTarget_mem page n)
  · intro σ c wanted t e
    rw [Attempt.byPage_eq_ok, pickFrom_eq_ok]
    constructor
    · rintro ⟨description, page, n, hdescribe, hpage, hpick, rfl⟩
      obtain ⟨source, -, hsource⟩ := except_bind_ok.mp hpage
      obtain ⟨roots, rfl⟩ := Snapshot.exists_forest_of_ofSource hsource
      exact ⟨roots, n, description, hpage, hpick, (Selector.pickIn_eq_some hpick).1, hdescribe, rfl⟩
    · rintro ⟨roots, n, description, hpage, hpick, -, hdescribe, rfl⟩
      exact ⟨description, _, n, hdescribe, hpage, hpick, rfl⟩

-- A tap on the label goes to the cell, a tap on the table to the table itself.
example :
    let label : Tree := .node { type := "XCUIElementTypeStaticText" } []
    let cell : Tree := .node { type := "XCUIElementTypeCell" } [label]
    let page := Snapshot.ofForest [.node { type := "XCUIElementTypeTable" } [cell]]
    page.nodes.map (fun n => (page.tapTarget n).id) = [0, 1, 1] := by
  decide

end ElementFinder
