import ElementFinder.Proofs.Polling
import ElementFinder.Proofs.Requests
import ElementFinder.Proofs.TypedFailure

/-!
# What it takes for an element to be gone

Waiting for an element to go ends with an attempt that does not find it. If the attempt was given a
page that can be read, then the selector finds nothing on it. But an attempt that was given none counts
as well.
-/

namespace ElementFinder

open Run Exchange

variable {σ : Type} {c : Client σ} {s : Selector} {t u w : World σ} {g : Failure}

/-- A search for the selector finds nothing on the page: no node that fits or, by surroundings, no
anchor or no node. -/
def Selector.FindsNothing (s : Selector) (page : Snapshot) : Prop :=
  if s.hasRelative then
    (∃ anchor relation, s.resolveIn page = .error (.anchorNotFound anchor relation)) ∨
      ∃ d, s.resolveIn page = .error (.noMatch d none)
  else s.pickIn page = .ok none

/-! ## Attempts -/

namespace Attempt

/-- On the way from one exchange to another, a page was given that can be read. -/
def GivenPage (c : Client σ) (x y : Exchange σ) (page : Snapshot) : Prop :=
  ∃ rs, y = x.afterAll c rs ∧ ReadsPage c x rs page

/-- Requests lead from one exchange to another, and the selector finds nothing on any page that they
read. -/
def Unfound (c : Client σ) (s : Selector) (x y : Exchange σ) : Prop :=
  ∃ rs, y = x.afterAll c rs ∧ ∀ page, ReadsPage c x rs page → s.FindsNothing page

theorem Unfound.findsNothing {x y : Exchange σ} {page : Snapshot} (h : Unfound c s x y)
    (hpage : GivenPage c x y page) : s.FindsNothing page := by
  obtain ⟨rs, hy, hnothing⟩ := h
  obtain ⟨rs', hy', hread⟩ := hpage
  rw [← afterAll_injective (hy.symm.trans hy')] at hread
  exact hnothing page hread

theorem byPage_unfound (hs : s.hasRelative = false) (h : byPage c s t = (.error g, u))
    (hg : g.isOwn = true) : Unfound c s t.exchange u.exchange := by
  obtain ⟨f, hd, he, _⟩ | ⟨hu, ho⟩ := byPage_inv h
  · cases he
    simp [Selector.isOwn_of_describe_error hd] at hg
  refine ⟨[.source], hu, fun page hpage => ?_⟩
  obtain ⟨source, hsource, hread⟩ := except_bind_ok.mp (readsPage_source.mp hpage)
  have hfrom : pickFrom s source = .error g := by
    rw [hsource] at ho
    exact ho.symm
  obtain hd | ⟨description, _, hload⟩ := except_bind_error.mp hfrom
  · simp [Selector.isOwn_of_describe_error hd] at hg
  obtain hload | ⟨page', hload, hpick⟩ := except_bind_error.mp hload
  · rw [hread] at hload
    cases hload
  cases hread.symm.trans hload
  obtain hpick | ⟨n, hpick, hn⟩ := except_bind_error.mp hpick
  · simp [Selector.isOwn_of_pickIn_error hpick] at hg
  · cases n with
    | none => simpa [Selector.FindsNothing, hs] using hpick
    | some n => cases hn

theorem byRelation_unfound (hs : s.hasRelative = true) (h : byRelation c s t = (.error g, u))
    (hg : g.isOwn = true) : Unfound c s t.exchange u.exchange := by
  obtain ⟨hu, ho⟩ := byRelation_inv h
  refine ⟨[.source], hu, fun page hpage => ?_⟩
  obtain ⟨source, hsource, hread⟩ := except_bind_ok.mp (readsPage_source.mp hpage)
  have hfrom : resolveFrom s source = .error g := by
    rw [hsource] at ho
    exact ho.symm
  obtain hload | ⟨page', hload, hresolve⟩ := except_bind_error.mp hfrom
  · rw [hread] at hload
    cases hload
  cases hread.symm.trans hload
  obtain hd | ⟨description, _, hresolve⟩ := except_bind_error.mp hresolve
  · simp [Selector.isOwn_of_describe_error hd] at hg
  obtain hresolve | ⟨n, _, hn⟩ := except_bind_error.mp hresolve
  · rw [Selector.FindsNothing, if_pos hs]
    obtain ⟨r, anchor, d, _, rfl, _⟩ | ⟨d, rfl, _⟩ := Selector.resolveIn_own_error hresolve hg
    · exact Or.inl ⟨_, _, hresolve⟩
    · exact Or.inr ⟨_, hresolve⟩
  · cases hn

/-- An attempt that fails in the library's own way does not find the selector on a page that it
reads. -/
theorem standard_unfound (h : standard c s none t = (.error g, u)) (hg : g.isOwn = true) :
    Unfound c s t.exchange u.exchange := by
  rw [standard] at h
  split at h
  · next hs => exact byRelation_unfound hs h hg
  next hs =>
  have hs : s.hasRelative = false := by simpa using hs
  split at h
  · exact byPage_unfound hs h hg
  -- The queries ask for no page, so all that is read is read after them.
  have hqueries : ∀ {o v}, byQueries c s none s.criteria.standardQueries t = (o, v) →
      ∃ rs, v.exchange = t.exchange.afterAll c rs ∧ ∀ page, ¬ReadsPage c t.exchange rs page := by
    intro o v hrun
    have hreads : AllowsReads fun (_ : Exchange σ) r => r ≠ .source := by
      rintro _ _ hr rfl
      cases hr
    obtain ⟨rs, hv, hall⟩ := (byQueries_leads hreads (fun _ _ _ _ => by rintro ⟨⟩) hrun).exists_row
    refine ⟨rs, hv, fun page hread => ?_⟩
    obtain ⟨y, hy, _⟩ := hread
    exact hall _ hy rfl
  obtain ⟨hrun, _⟩ | ⟨f, v, hrun, _, _, hpage⟩ := queriesOr_inv h
  · obtain ⟨rs, hu, hnone⟩ := hqueries hrun
    exact ⟨rs, hu, fun page hread => absurd hread (hnone page)⟩
  · obtain ⟨rs, hv, hnone⟩ := hqueries hrun
    obtain ⟨rs', hu, hnothing⟩ := byPage_unfound hs hpage hg
    refine ⟨rs ++ rs', by rw [hu, hv, afterAll_append], fun page hread => hnothing page ?_⟩
    rw [hv]
    exact (readsPage_append.mp hread).resolve_left (hnone page)

end Attempt

/-! ## Main result -/

open Finder Attempt

/-- A question for presence that is answered with no is an attempt that fails in the library's own
way. -/
theorem isPresent_no {finder : Finder σ} (h : finder.isPresent s t = (.ok false, u)) :
    ∃ g v, Attempt.standard finder.client s none { t with notes := {} } = (.error g, v) ∧
      g.isOwn = true ∧ u.exchange = v.exchange := by
  obtain ⟨o, v, hrun, hpresence⟩ := Work.bind_attempt_inv (g := presence s)
    (s := { t with notes := {} }) h
  have hu := (presence_quiet s o).exchange_eq hpresence
  cases o with
  | ok e => cases hpresence
  | error g =>
      rw [presence] at hpresence
      cases hg : g.isOwn with
      | true => exact ⟨g, v, hrun, hg, hu⟩
      | false =>
          simp only [hg] at hpresence
          cases hpresence

/-- Waiting for an element to go ends with an attempt that is begun in time and does not find it. That
the selector finds nothing on a page of this attempt is known exactly if the attempt was given a page
that can be read. -/
theorem gone_is_seen_iff (finder : Finder σ) (configured : Timeouts) (rounds : Nat) (s : Selector)
    (milliseconds : Int) {w u : World σ}
    (h : finder.awaitGone configured rounds s milliseconds w = (.ok (), u)) :
    ∃ d first z g v, goneDeadline configured w.now milliseconds = .ok d ∧
      first.exchange = w.exchange.begun ∧
      Relation.ReflTransGen (Poll.AsksAgain (finder.isPresent s) d) ⟨first, 0, none⟩ z ∧
      z.world.exchange.expired (some d) = false ∧
      Attempt.standard finder.client s none { z.world with notes := {} } = (.error g, v) ∧
      g.isOwn = true ∧ u.exchange = v.exchange ∧
      ((∃ page, GivenPage finder.client z.world.exchange v.exchange page ∧ s.FindsNothing page) ↔
        ∃ page, GivenPage finder.client z.world.exchange v.exchange page) := by
  rw [awaitGone_run] at h
  cases hd : goneDeadline configured w.now milliseconds with
  | error e =>
      rw [hd] at h
      cases h
  | ok d =>
      cases hs : s.describe with
      | error e =>
          rw [hd, hs] at h
          cases h
      | ok description =>
          rw [hd, hs] at h
          obtain ⟨z, hz, r, v, hrun, hend⟩ := Poll.forNo_ends rounds (finder.isPresent s) d
            ("element \x27" ++ description ++ "\x27 to disappear") w.begun
          obtain ⟨hr, rfl⟩ := Prod.mk.inj (hrun.symm.trans h)
          obtain ⟨hunfinished, _⟩ | ⟨_⟩ | ⟨_, x, hin, hlast⟩ | ⟨_, _, _, _⟩ := hend
          · cases hunfinished.symm.trans hr
          · cases World.of_counted_eq_ok hr
          · obtain ⟨hask, _⟩ | ⟨_, _, hno⟩ := hlast
            · obtain ⟨g, v, hattempt, hg, hx⟩ := isPresent_no hask
              have hunfound := Attempt.standard_unfound hattempt hg
              exact ⟨d, _, z, g, v, rfl, World.exchange_reporting _, hz, hin, hattempt, hg,
                (World.exchange_reporting _).trans hx,
                exists_congr fun page => and_iff_left_of_imp hunfound.findsNothing⟩
            · cases hno
          · cases hr

/-- A client that shows a button at first, and then another one in its place. No query finds anything. -/
def changingClient : Client Nat where
  ask
    | .source, n, t =>
      let name := if n = 0 then "save" else "buy"
      { outcome := .ok ("<AppiumAUT><XCUIElementTypeButton name=\"" ++ name ++ "\"/></AppiumAUT>")
        client := n + 1, now := t }
    | _, n, t => { outcome := .error (.query "" none), client := n, now := t }

theorem gone_is_seen_iff_save :
    let finder : Finder Nat := { client := changingClient }
    let s : Selector := { criteria := { id := some "save" } }
    let w : World Nat := { client := 0, wall := ⟨"", ""⟩ }
    ∃ u, finder.awaitGone .usual 3 s 1000 w = (.ok (), u) ∧
      ∃ d first z g v, goneDeadline .usual w.now 1000 = .ok d ∧
        first.exchange = w.exchange.begun ∧
        Relation.ReflTransGen (Poll.AsksAgain (finder.isPresent s) d) ⟨first, 0, none⟩ z ∧
        z.world.exchange.expired (some d) = false ∧
        Attempt.standard finder.client s none { z.world with notes := {} } = (.error g, v) ∧
        g.isOwn = true ∧ u.exchange = v.exchange ∧
        ((∃ page, GivenPage finder.client z.world.exchange v.exchange page ∧ s.FindsNothing page) ↔
          ∃ page, GivenPage finder.client z.world.exchange v.exchange page) := by
  intro finder s w
  obtain ⟨_, u, h⟩ := exists_ok (p := finder.awaitGone .usual 3 s 1000 w) (by decide +kernel)
  exact ⟨u, h, gone_is_seen_iff finder .usual 3 s 1000 h⟩

/-- Waiting for an element to go ends at once with a client that never shows a page. -/
theorem gone_without_page :
    let finder : Finder Unit := { client := emptyClient }
    let s : Selector := { criteria := { id := some "save" } }
    let w : World Unit := { client := (), wall := ⟨"", ""⟩ }
    ∃ u, finder.awaitGone .usual 1 s 1000 w = (.ok (), u) ∧
      ¬∃ page, GivenPage finder.client w.exchange.begun u.exchange page := by
  intro finder s w
  obtain ⟨_, u, h⟩ := exists_ok (p := finder.awaitGone .usual 1 s 1000 w) (by decide +kernel)
  refine ⟨u, h, ?_⟩
  rintro ⟨page, requests, _, y, _, hread⟩
  cases hread

end ElementFinder
