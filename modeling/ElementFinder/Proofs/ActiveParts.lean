import ElementFinder.Proofs.SideBySide
import ElementFinder.Proofs.Written

/-!
# The parts of a selector that a search looks at

Of the anchors of a selector the active one counts, and of an anchor or a descendant the conditions on
the element itself. Selectors that agree on these find the same node. If nothing is found, the failure
names the selector or its anchor. That takes all parts of a selector that has no text and no name, and
so it can fail for one of two selectors that agree.
-/

namespace ElementFinder

theorem hasDescendants_congr {parent : Node} {pool : List Node} {ds es : List Selector}
    (h : ds.map (·.criteria) = es.map (·.criteria)) :
    hasDescendants parent pool ds = hasDescendants parent pool es := by
  induction ds generalizing es with
  | nil =>
      rw [List.map_nil, eq_comm, List.map_eq_nil_iff] at h
      rw [h]
  | cons d ds ih =>
      obtain ⟨e, es, rfl, hfirst, hrest⟩ := List.map_eq_cons_iff.mp h.symm
      simp only [hasDescendants, hfirst, ih hrest.symm]

/-- How a search by surroundings ends, before anything is put into words. -/
inductive Finding where
  | node (n : Node)
  | noAnchor (r : Relation)
  | nothing

namespace Selector

variable {s t anchor : Selector} {page : Snapshot} {r : Relation} {found : Finding}

/-! ## Selectors that agree -/

/-- The active relation and the conditions on its anchor. -/
def activeAnchor? (s : Selector) : Option (Relation × Criteria) :=
  s.relative?.map fun active => (active.1, active.2.criteria)

/-- Two selectors have the same conditions on the element and the same index, active relations of the
same kind to anchors with the same conditions, and descendants with the same conditions. Nothing is said
about other relations, nor about what anchors and descendants hold beyond their own conditions. -/
structure AgreesWith (s t : Selector) : Prop where
  criteria : s.criteria = t.criteria
  index : s.index = t.index
  activeAnchor : s.activeAnchor? = t.activeAnchor?
  descendants : s.descendants.map (·.criteria) = t.descendants.map (·.criteria)

theorem activeAnchor?_eq_none (h : s.relative? = none) : s.activeAnchor? = none := by
  rw [activeAnchor?, h, Option.map_none]

theorem activeAnchor?_eq_some (h : s.relative? = some (r, anchor)) :
    s.activeAnchor? = some (r, anchor.criteria) := by
  rw [activeAnchor?, h, Option.map_some]

theorem anchor?_of_relative? (h : s.relative? = some (r, anchor)) : s.anchor? r = some anchor := by
  obtain ⟨r', _, hr⟩ := List.exists_of_findSome?_eq_some h
  obtain ⟨a, ha, hpair⟩ := Option.map_eq_some_iff.mp hr
  cases hpair
  exact ha

theorem AgreesWith.keepCandidates_eq (h : s.AgreesWith t) (candidates : List Node) :
    s.keepCandidates page candidates = t.keepCandidates page candidates := by
  have hnone : s.descendants.isEmpty = t.descendants.isEmpty := by
    have := congrArg List.isEmpty h.descendants
    simpa only [List.isEmpty_map] using this
  simp only [keepCandidates, hnone, filterDescendants_eq, hasDescendants_congr h.descendants]

/-! ## The search before its words -/

/-- One of the candidates that have all wanted descendants, if there are any. -/
def findingAmong (s : Selector) (page : Snapshot) (related : List Node) : Except Failure Finding := do
  let kept ← s.keepCandidates page related
  match ← s.chooseCandidate kept with
  | some n => return .node n
  | none => return .nothing

/-- How the search ends, before anything is put into words. -/
def finding (s : Selector) (page : Snapshot) : Except Failure Finding := do
  let base ← baseCandidates s page
  match s.activeAnchor? with
  | none => s.findingAmong page base
  | some (r, c) =>
    let anchors ← c.filterNodes page.nodes
    if anchors.isEmpty then return .noAnchor r
    s.findingAmong page (relatedToFirst r base anchors)

/-- The selector that a failure names: that of the anchor which is missing, or else the selector that
nothing was found for. -/
def blamed (s : Selector) : Finding → Selector
  | .noAnchor r => (s.anchor? r).getD s
  | _ => s

/-- What a search gives, now that its end is put into words. -/
def inWords (s : Selector) (found : Finding) : Except Failure Node :=
  match found with
  | .node n => .ok n
  | .noAnchor r => (s.blamed found).describe >>= fun d => .error (.anchorNotFound d r.name)
  | .nothing => (s.blamed found).describe >>= fun d => .error (.noMatch d none)

theorem findingAmong_bind_inWords {related : List Node} :
    s.findingAmong page related >>= s.inWords =
      s.keepCandidates page related >>= fun kept => s.chooseCandidate kept >>= fun chosen =>
        match chosen with
        | some n => .ok n
        | none => s.describe >>= fun d => .error (.noMatch d none) := by
  rw [findingAmong, bind_assoc]
  refine bind_congr fun kept => ?_
  rw [bind_assoc]
  refine bind_congr fun chosen => ?_
  cases chosen <;> rfl

theorem resolveIn_eq_inWords : s.resolveIn page = s.finding page >>= s.inWords := by
  rw [resolveIn_eq, finding, bind_assoc]
  refine bind_congr fun base => ?_
  cases hs : s.relative? with
  | none =>
      rw [relatedCandidates_unanchored hs, activeAnchor?_eq_none hs]
      exact findingAmong_bind_inWords.symm
  | some active =>
      obtain ⟨r, anchor⟩ := active
      rw [relatedCandidates_anchored hs, activeAnchor?_eq_some hs]
      simp only [bind_assoc]
      refine bind_congr fun anchors => ?_
      split
      · have hblamed : s.blamed (.noAnchor r) = anchor := by
          rw [blamed, anchor?_of_relative? hs, Option.getD_some]
        show anchor.describe >>= _ >>= _ = s.inWords (.noAnchor r)
        rw [inWords, hblamed, bind_assoc]
        rfl
      · exact findingAmong_bind_inWords.symm

theorem resolveIn_of_finding (h : s.finding page = .ok found) : s.resolveIn page = s.inWords found := by
  rw [resolveIn_eq_inWords, h]
  rfl

/-- Selectors that agree are searched for alike, up to the words. -/
theorem AgreesWith.finding_eq (h : s.AgreesWith t) : s.finding page = t.finding page := by
  have hbase : baseCandidates s page = baseCandidates t page := by
    rw [baseCandidates, baseCandidates, h.criteria]
  have hchoose : s.chooseCandidate = t.chooseCandidate := by
    funext candidates
    rw [chooseCandidate, chooseCandidate, h.index]
  have hamong : s.findingAmong page = t.findingAmong page := by
    funext related
    simp only [findingAmong, h.keepCandidates_eq, hchoose]
  simp only [finding, hbase, h.activeAnchor, hamong]

/-! ## The words -/

/-- The selector has a text or a name, or no integer with too many digits in any of its parts. -/
def IsDescribable (s : Selector) : Prop :=
  s.criteria.describe.isEmpty = true → ¬s.toValue.HoldsTooLong

theorem describe_failsWhen (s : Selector) :
    FailsWhen (fun f => f.kindName = "ValueError") (¬s.IsDescribable) s.describe := by
  have hwritten : FailsWhen (fun f : Failure => f.kindName = "ValueError") s.toValue.HoldsTooLong
      s.toValue.writeOrFail := s.toValue.write_writtenUnless.mapError fun _ _ => rfl
  rw [describe]
  split
  · next h => exact hwritten.congr (by simp [IsDescribable, h])
  · next h => exact .ok (by simp [IsDescribable, h])

/-- The same value, or failures of the same kind. -/
abbrev EndsAlike {α : Type} (x y : Except Failure α) : Prop :=
  Run.Alike Eq (fun f g => f.kindName = g.kindName) x y

/-- Failures of one kind that name two selectors are alike if both can be described or neither can. -/
theorem described_alike_iff {α : Type} (words : String → Failure) {kind : String}
    (hwords : ∀ d, (words d).kindName = kind) (hkind : kind ≠ "ValueError") :
    EndsAlike (s.describe >>= fun d => .error (words d) : Except Failure α)
        (t.describe >>= fun d => .error (words d)) ↔ (s.IsDescribable ↔ t.IsDescribable) := by
  have hs := s.describe_failsWhen
  have ht := t.describe_failsWhen
  generalize s.describe = x at hs
  generalize t.describe = y at ht
  cases hs with
  | ok hs =>
      cases ht with
      | ok ht => exact iff_of_true (.error (by rw [hwords, hwords])) (by tauto)
      | error hf ht =>
          refine iff_of_false ?_ (by tauto)
          rintro (_ | h)
          exact hkind ((hwords _).symm.trans (h.trans hf))
  | error hf hs =>
      cases ht with
      | ok ht =>
          refine iff_of_false ?_ (by tauto)
          rintro (_ | h)
          exact hkind ((hwords _).symm.trans (h.symm.trans hf))
      | error hg ht => exact iff_of_true (.error (hf.trans hg.symm)) (by tauto)

theorem inWords_alike_iff : EndsAlike (s.inWords found) (t.inWords found) ↔
    ((∀ n, found ≠ .node n) → ((s.blamed found).IsDescribable ↔ (t.blamed found).IsDescribable)) := by
  cases found with
  | node n => exact iff_of_true (.ok rfl) fun h => absurd rfl (h n)
  | noAnchor r =>
      rw [inWords, inWords, described_alike_iff (Failure.anchorNotFound · r.name) (fun _ => rfl) (by decide)]
      simp
  | nothing =>
      rw [inWords, inWords, described_alike_iff (Failure.noMatch · none) (fun _ => rfl) (by decide)]
      simp

theorem inWords_noAnchor {d : String} (hd : (s.blamed (.noAnchor r)).describe = .ok d) :
    s.inWords (.noAnchor r) = .error (.anchorNotFound d r.name) := by
  rw [inWords, hd]
  rfl

theorem inWords_undescribed {f : Failure} (hmissing : ∀ n, found ≠ .node n)
    (hd : (s.blamed found).describe = .error f) : s.inWords found = .error f := by
  cases found with
  | node n => exact absurd rfl (hmissing n)
  | noAnchor r =>
      rw [inWords, hd]
      rfl
  | nothing =>
      rw [inWords, hd]
      rfl

theorem inWords_eq_ok {n : Node} : s.inWords found = .ok n ↔ found = .node n := by
  cases found with
  | node m => simp [inWords]
  | noAnchor r =>
      rw [inWords, except_bind_ok]
      simp
  | nothing =>
      rw [inWords, except_bind_ok]
      simp

end Selector

/-! ## Main result -/

open Selector

/-- For selectors that agree on what a search looks at, the same node is found, whatever other relations
they have and whatever their anchors and descendants hold besides. If none is found, both searches fail
in the same way, exactly unless one of the two selectors that the failures name cannot be described. -/
theorem search_sees_active_parts_alone {s t : Selector} (h : s.AgreesWith t) (page : Snapshot) :
    (∀ n, s.resolveIn page = .ok n ↔ t.resolveIn page = .ok n) ∧
      (EndsAlike (s.resolveIn page) (t.resolveIn page) ↔
        ∀ found, s.finding page = .ok found → (∀ n, found ≠ .node n) →
          ((s.blamed found).IsDescribable ↔ (t.blamed found).IsDescribable)) := by
  rw [resolveIn_eq_inWords, resolveIn_eq_inWords, ← h.finding_eq]
  refine ⟨fun n => ?_, ?_⟩
  · rw [except_bind_ok, except_bind_ok]
    simp only [inWords_eq_ok]
  · cases s.finding page with
    | error f => exact iff_of_true (.error rfl) nofun
    | ok found =>
        show EndsAlike (s.inWords found) (t.inWords found) ↔ _
        rw [inWords_alike_iff]
        exact ⟨fun h _ hfound => Except.ok.inj hfound ▸ h, fun h => h found rfl⟩

/-- Asks for a button in a card. -/
def saveInCard : Selector :=
  { criteria := { id := some "save" }, anchors := { childOf := some (named "card") } }

/-- Asks for the same button, with more said about the card and another relation. -/
def saveInFilledCard : Selector :=
  let card := { named "card" with index := some "7", anchors := { below := some (named "total") } }
  { saveInCard with anchors := { childOf := some card, insideOf := some (named "buy") } }

theorem search_sees_active_parts_alone_save :
    saveInCard.AgreesWith saveInFilledCard ∧
      (∀ n, saveInCard.resolveIn buttonsInCard = .ok n ↔
        saveInFilledCard.resolveIn buttonsInCard = .ok n) ∧
      (EndsAlike (saveInCard.resolveIn buttonsInCard) (saveInFilledCard.resolveIn buttonsInCard) ↔
        ∀ found, saveInCard.finding buttonsInCard = .ok found → (∀ n, found ≠ .node n) →
          ((saveInCard.blamed found).IsDescribable ↔ (saveInFilledCard.blamed found).IsDescribable)) :=
  have h : saveInCard.AgreesWith saveInFilledCard := ⟨rfl, rfl, rfl, rfl⟩
  ⟨h, search_sees_active_parts_alone h buttonsInCard⟩

/-- Asks for an element below one of a width. -/
def belowNarrow : Selector := { anchors := { below := some { criteria := { width := some 40 } } } }

/-- Asks for the same, with an anchor of its own for the anchor, of a width that cannot be written. -/
def belowNarrowAboveWide : Selector :=
  let wide : Selector := { criteria := { width := some (Int.ofNat (Nat.pow 10 Numeral.digitLimit)) } }
  { anchors := { below := some { criteria := { width := some 40 }, anchors := { above := some wide } } } }

/-- A part that no search looks at decides how the search fails. -/
theorem inactive_part_changes_failure :
    belowNarrow.AgreesWith belowNarrowAboveWide ∧
      (∃ d, belowNarrow.resolveIn twoCards = .error (.anchorNotFound d "below")) ∧
      ∃ text, belowNarrowAboveWide.resolveIn twoCards = .error (.value text) := by
  have hagree : belowNarrow.AgreesWith belowNarrowAboveWide := ⟨rfl, rfl, rfl, rfl⟩
  have hmissing : belowNarrow.finding twoCards = .ok (.noAnchor .below) := rfl
  have hdescribed : (belowNarrow.blamed (.noAnchor .below)).describe.toOption.isSome = true := by
    decide +kernel
  have hundescribed : (belowNarrowAboveWide.blamed (.noAnchor .below)).describe.toOption = none := by
    decide +kernel
  refine ⟨hagree, ?_, ?_⟩
  · cases hd : (belowNarrow.blamed (.noAnchor .below)).describe with
    | error f =>
        rw [hd] at hdescribed
        cases hdescribed
    | ok d => exact ⟨d, (resolveIn_of_finding hmissing).trans (inWords_noAnchor hd)⟩
  · cases hd : (belowNarrowAboveWide.blamed (.noAnchor .below)).describe with
    | ok d =>
        rw [hd] at hundescribed
        cases hundescribed
    | error f =>
        obtain ⟨fault, rfl⟩ := describe_error hd
        have hnone : ∀ n, Finding.noAnchor .below ≠ .node n := nofun
        have hfails := inWords_undescribed hnone hd
        exact ⟨fault.message, (resolveIn_of_finding (hagree.finding_eq ▸ hmissing)).trans hfails⟩

end ElementFinder
