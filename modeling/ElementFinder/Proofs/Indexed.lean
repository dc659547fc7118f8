import ElementFinder.Proofs.ExactText
import ElementFinder.Proofs.OtherIndex

/-!
# Indexed selectors

The index of a selector picks one of the matching nodes of a page. So a call honours it exactly if the page
was the last that it asked for. If a query found the element, its properties are read last, and every other
index would have led to the same element.
-/

namespace ElementFinder

open Run Exchange

variable {σ : Type} {c : Client σ} {s : Selector} {t u v w : World σ} {e : Element}

/-! ## Positions -/

/-- The last position and the one that is counted from the end are the same. -/
theorem positionOf_last {i j : String} {count : Nat} (hi : Numeral.read? i = some (-1))
    (hj : Numeral.read? j = some (count - 1 : Int)) (hcount : 0 < count) :
    positionOf i count = positionOf j count := by
  rw [positionOf, positionOf, hi, hj]
  have hpos : ¬(count - 1 : Int) < 0 := by omega
  simp only [hpos, ↓reduceIte]
  rfl

/-- With an index a selector picks the node at its position among the matching nodes. -/
theorem Selector.pickIn_positioned {i : String} (hi : s.index = some i) (hne : i.isEmpty = false)
    {page : Snapshot} {n : Node} :
    s.pickIn page = .ok (some n) ↔ ∃ found, s.criteria.filterNodes page.nodes = .ok found ∧
      (clickableFirst found)[positionOf i found.length]? = some n := by
  have hindex : s.index.filter (!·.isEmpty) = some i := by simp [hi, hne]
  rw [pickIn_eq, except_bind_ok]
  refine exists_congr fun found => and_congr_right fun _ => ?_
  rw [← length_clickableFirst found, ← pick_positioned hindex, chooseCandidate]
  cases found with
  | nil => simp [clickableFirst, pick_positioned hindex]
  | cons m rest => rfl

/-! ## What was asked last -/

/-- The last request that was sent. -/
def World.lastRequest? (u : World σ) : Option Request := u.sent.getLast?.map Sent.request

theorem World.lastRequest?_after {r : Request} {x : Exchange σ} (h : u.exchange = x.after c r) :
    u.lastRequest? = some r := by
  rw [lastRequest?, ← World.sent_exchange, h, sent_after, List.getLast?_concat]
  rfl

/-- The page was asked for last, and this is the page that was shown. -/
def ShowsLast (c : Client σ) (u : World σ) (page : Snapshot) : Prop :=
  ∃ (x : Exchange σ) (source : String), u.exchange = x.after c .source ∧ x.answer c .source = .ok source ∧
    u.notes.page = some source ∧ Snapshot.ofSource source = .ok page

theorem ShowsLast.unique {page page' : Snapshot} (h : ShowsLast c u page) (h' : ShowsLast c v page')
    (huv : u.notes.page = v.notes.page) : page = page' := by
  obtain ⟨_, source, _, _, hsource, hpage⟩ := h
  obtain ⟨_, source', _, _, hsource', hpage'⟩ := h'
  cases hsource.symm.trans (huv.trans hsource')
  exact Except.ok.inj (hpage.symm.trans hpage')

/-- How an element was found: by a query, and its properties were read last, or as the node that the
selector picks from the page that was shown last. -/
inductive FoundIn (c : Client σ) (s : Selector) (u : World σ) : Element → Prop
  | query {e : Element} {handle : String} : e.handle = some handle →
      u.lastRequest? = some (.displayed handle) → FoundIn c s u e
  | page {page : Snapshot} {n : Node} (description : String) : ShowsLast c u page →
      s.pickIn page = .ok (some n) →
      FoundIn c s u (Attempt.ofNode n (page.tapTarget n).bounds description Attempt.onPage)

theorem FoundIn.congr (h : FoundIn c s u e) (hexchange : v.exchange = u.exchange)
    (hnotes : v.notes = u.notes) : FoundIn c s v e := by
  cases h with
  | query he hlast =>
      refine .query he ?_
      rw [← hlast, World.lastRequest?, World.lastRequest?, ← World.sent_exchange, hexchange]
      rfl
  | page description hshows hpick =>
      refine .page description ?_ hpick
      rw [ShowsLast, hexchange, hnotes]
      exact hshows

namespace Attempt

open Work

variable {limit : Option Deadline}

theorem ofHandle_found {q : Query} {handle : String} (h : ofHandle c s q handle t = (.ok e, u)) :
    FoundIn c s u e := by
  have hhandle := ofHandle_ok h
  obtain ⟨text, v, -, h⟩ := bind_inv_ok h
  obtain ⟨bounds, w, -, h⟩ := bind_inv_ok h
  obtain ⟨visible, x, hx, h⟩ := bind_inv_ok h
  have hend := Quiet.exchange_eq ((ofExcept_quiet _).bind fun _ => Quiet.pure _) h
  exact .query hhandle (World.lastRequest?_after (hend.trans (property_inv hx)))

theorem byQueries_found {queries : List Query} (h : byQueries c s limit queries t = (.ok e, u)) :
    FoundIn c s u e := by
  induction queries generalizing t with
  | nil =>
      obtain ⟨_, _, he⟩ := noneFound_inv h
      cases he
  | cons q rest ih =>
      rw [byQueries, expired_bind] at h
      split at h
      · obtain ⟨_, _, he⟩ := noneFound_inv h
        cases he
      · obtain ⟨found, v, -, h⟩ := bind_inv_ok h
        cases found with
        | none => exact ih h
        | some handle =>
            obtain ⟨w, -, h⟩ := record_inv h
            exact ofHandle_found h

theorem loadPage_ok {page : Snapshot} (h : loadPage c t = (.ok page, u)) : ShowsLast c u page := by
  obtain ⟨o, v, hload, h⟩ := bind_attempt_inv h
  cases o with
  | ok page' =>
      cases h
      obtain ⟨source, w, hsend, hread⟩ := bind_inv_ok hload
      obtain ⟨hanswer, hw⟩ := send_inv hsend
      obtain ⟨hpage, rfl⟩ := ofExcept_inv hread
      exact ⟨t.exchange, source, hw, hanswer.symm, rfl, hpage.symm⟩
  | error f =>
      dsimp only at h
      split at h <;> cases h

theorem byPage_found (h : byPage c s t = (.ok e, u)) : FoundIn c s u e := by
  obtain ⟨description, v, -, h⟩ := bind_inv_ok h
  obtain ⟨page, w, hload, h⟩ := bind_inv_ok h
  obtain ⟨n, x, hpick, h⟩ := bind_inv_ok h
  obtain ⟨hn, rfl⟩ := ofExcept_inv hpick
  cases n with
  | none => cases h
  | some n =>
      cases h
      obtain ⟨y, source, hy, hsource, hnotes, hpage⟩ := loadPage_ok hload
      exact .page description ⟨y, source, hy, hsource, hnotes, hpage⟩ hn.symm

theorem queriesOr_found {queries : List Query} {next : Work σ Element}
    (hnext : ∀ v, next v = (.ok e, u) → FoundIn c s u e)
    (h : queriesOr c s limit queries next t = (.ok e, u)) : FoundIn c s u e := by
  obtain ⟨hq, _⟩ | ⟨_, v, _, _, _, hrun⟩ := queriesOr_inv h
  · exact byQueries_found hq
  · exact hnext v hrun

theorem standard_found (hs : s.hasRelative = false) (h : standard c s limit t = (.ok e, u)) :
    FoundIn c s u e := by
  rw [standard, hs] at h
  simp only [Bool.false_eq_true, ↓reduceIte] at h
  split at h
  · exact byPage_found h
  · exact queriesOr_found (fun _ => byPage_found) h

theorem tap_found (h : tap c s limit t = (.ok e, u)) : FoundIn c s u e := by
  refine queriesOr_found (fun v hrun => ?_) (tap_eq ▸ h)
  obtain ⟨_, _, ho⟩ | ⟨queried, x, p, y, _, hp, hend⟩ := fallback_inv hrun
  · cases ho
  obtain ⟨rfl, rfl, _⟩ | ⟨_, _, _, _, _, ho, _⟩ | ⟨_, q, handle, z, _, _, _, _, hend⟩ := hend
  · exact byPage_found hp
  · cases ho
  · exact ofHandle_found hend

end Attempt

/-! ## Calls -/

/-- What polling returns is the result of its last attempt, after which it sends nothing and notes
nothing. -/
theorem Poll.forResult_ok {α : Type} {attempt : Work σ α} {rounds : Nat} {d : Deadline}
    {description : String} {listed : Failure → Bool} {a : α}
    (h : forResult rounds attempt d description listed t = (.ok a, u)) :
    ∃ s v, attempt s = (.ok a, v) ∧ u.exchange = v.exchange ∧ u.notes = v.notes := by
  obtain ⟨z, _, r, u', hrun, hend⟩ := forResult_ends rounds attempt listed d description t
  obtain ⟨rfl, rfl⟩ := Prod.mk.inj (h.symm.trans hrun)
  obtain ⟨hr, _⟩ | hend := hend
  · cases hr
  generalize hr : Except.ok a = r at hend
  cases hend with
  | missed late =>
      obtain ⟨stop, hstop⟩ := z.world.counted_error (α := α) (n := z.count)
        (.failed (z.missed description d (missedText description)))
      cases hr.trans hstop
  | found a' v _ last =>
      cases World.of_counted_eq_ok hr.symm
      exact ⟨_, v, last.1, World.exchange_reporting _, World.notes_reporting _⟩
  | refused => cases hr

namespace Finder

variable {f : Finder σ} {configured : Timeouts} {rounds : Nat} {d : Deadline} {keeping : Keeping}
  {attempt : Work σ Element}

theorem search_found (hattempt : ∀ t v, attempt t = (.ok e, v) → FoundIn c s v e)
    (h : search rounds s d attempt keeping w = (.ok e, u)) : FoundIn c s u e := by
  obtain ⟨description, t, -, h⟩ := bind_inv_ok h
  obtain ⟨_, t', -, h⟩ := bind_inv_ok h
  obtain ⟨p, v, htry, h⟩ := bind_inv_ok h
  obtain ⟨e', hloop, hp⟩ | ⟨g, _, hp⟩ | ⟨_, hp⟩ := Call.attempt_inv htry
  · cases hp
    cases h
    obtain ⟨y, x, hrun, hexchange, hnotes⟩ := Poll.forResult_ok hloop
    exact (hattempt _ x hrun).congr hexchange hnotes
  · cases hp
    dsimp only at h
    split at h
    · obtain ⟨_, _, _, h⟩ := bind_inv_ok h
      obtain ⟨_, _, _, h⟩ := bind_inv_ok h
      obtain ⟨_, _, _, h⟩ := bind_inv_ok h
      cases h
    · cases h
  · cases hp

variable {seeking : Seeking}

theorem Seeking.found (hs : s.hasRelative = false)
    (h : seeking.run f configured rounds s w = (.ok e, u)) : FoundIn f.client s u e := by
  cases seeking with
  | find limit =>
      rw [run, find_run] at h
      split at h
      · exact search_found (fun _ _ => Attempt.standard_found hs) h
      · cases h
  | findForTap limit =>
      rw [run, findForTap_run] at h
      split at h
      · refine search_found (fun t v hrun => ?_) h
        rw [tapAttempt, hs] at hrun
        simp only [Bool.false_eq_true, ↓reduceIte] at hrun
        split at hrun
        · exact Attempt.tap_found hrun
        · exact Attempt.standard_found hs hrun
      · cases h
  | findOnce =>
      obtain ⟨_, h, hr⟩ | ⟨_, _, hr⟩ := Call.ofWork_inv h
      · cases hr
        exact Attempt.standard_found hs h
      · cases hr

end Finder

/-! ## Main result -/

open Finder

theorem ShowsLast.lastRequest? {page : Snapshot} (h : ShowsLast c u page) :
    u.lastRequest? = some .source := by
  obtain ⟨_, _, hu, _⟩ := h
  exact World.lastRequest?_after hu

/-- The element is the node at a position among some nodes of a page. -/
def IsNodeAt (page : Snapshot) (found : List Node) (position : Nat) (e : Element) : Prop :=
  ∃ n description, (clickableFirst found)[position]? = some n ∧
    e = Attempt.ofNode n (page.tapTarget n).bounds description Attempt.onPage

theorem IsNodeAt.same {page : Snapshot} {found : List Node} {position : Nat} {e e' : Element}
    (h : IsNodeAt page found position e) (h' : IsNodeAt page found position e') : e'.same e = true := by
  obtain ⟨n, description, hn, rfl⟩ := h
  obtain ⟨n', description', hn', rfl⟩ := h'
  cases hn.symm.trans hn'
  exact decide_eq_true rfl

theorem IsNodeAt.length_pos {page : Snapshot} {found : List Node} {position : Nat}
    (h : IsNodeAt page found position e) : 0 < found.length := by
  obtain ⟨n, _, hn, _⟩ := h
  exact List.length_pos_of_mem (mem_clickableFirst.mp (List.mem_of_getElem? hn))

/-- An element without a handle is the node at the position of the index on the page that was shown
last. -/
theorem FoundIn.placed {i : String} (hi : s.index = some i) (hne : i.isEmpty = false)
    (h : FoundIn c s u e) (he : e.handle = none) :
    ∃ page found, ShowsLast c u page ∧ s.criteria.filterNodes page.nodes = .ok found ∧
      IsNodeAt page found (positionOf i found.length) e := by
  cases h with
  | query hhandle _ => cases he.symm.trans hhandle
  | page description hshows hpick =>
      obtain ⟨found, hfound, hn⟩ := (Selector.pickIn_positioned hi hne).mp hpick
      exact ⟨_, found, hshows, hfound, _, description, hn, rfl⟩

theorem FoundIn.lastRequest?_eq_source_iff (h : FoundIn c s u e) :
    u.lastRequest? = some .source ↔ e.handle = none := by
  cases h with
  | query hhandle hlast => simp [hhandle, hlast]
  | page description hshows _ => exact iff_of_true hshows.lastRequest? rfl

/-- A call returns the node at the position of the index among the matching nodes of the last page exactly
if this page was the last that it asked for. In that case another index leads to the node at its own
position among the same nodes, and the last position is the one that is counted from the end. In all
other cases the element has a handle, and every other index leads to the same element. -/
theorem index_is_honoured_iff (f : Finder σ) (configured : Timeouts) (rounds : Nat) (seeking : Seeking)
    {i : String} (hi : s.index = some i) (hne : i.isEmpty = false) (hs : s.hasRelative = false)
    (h : seeking.run f configured rounds s w = (.ok e, u)) :
    ((∃ page found, ShowsLast f.client u page ∧ s.criteria.filterNodes page.nodes = .ok found ∧
        IsNodeAt page found (positionOf i found.length) e) ↔ u.lastRequest? = some .source) ∧
    ∀ j, j.isEmpty = false → ∃ e' u',
      seeking.run f configured rounds (s.indexed j) w = (.ok e', u') ∧ u'.exchange = u.exchange ∧
      (u.lastRequest? = some .source → ∃ page found, ShowsLast f.client u page ∧
        s.criteria.filterNodes page.nodes = .ok found ∧
        IsNodeAt page found (positionOf i found.length) e ∧
        IsNodeAt page found (positionOf j found.length) e' ∧
        (Numeral.read? i = some (-1) → Numeral.read? j = some (found.length - 1 : Int) →
          e'.same e = true)) ∧
      (u.lastRequest? ≠ some .source → e.handle ≠ none ∧ e'.same e = true) := by
  have hfound := Seeking.found hs h
  refine ⟨⟨fun ⟨_, _, hshows, _⟩ => hshows.lastRequest?, fun hlast => ?_⟩, fun j hj => ?_⟩
  · exact hfound.placed hi hne (hfound.lastRequest?_eq_source_iff.mp hlast)
  -- The call with the other index goes side by side with this one.
  obtain ⟨halike, hafter⟩ := seeking.run_indexed f configured rounds hs j w w ⟨rfl, rfl, rfl⟩
  rcases hother : seeking.run f configured rounds (s.indexed j) w with ⟨r, u'⟩
  rw [h, hother] at halike hafter
  obtain @⟨_, e', he⟩ | _ := halike
  refine ⟨e', u', rfl, hafter.exchange.symm, fun hlast => ?_, fun hlast => ?_⟩
  · have hnone := hfound.lastRequest?_eq_source_iff.mp hlast
    obtain ⟨page, found, hshows, hmatch, hat⟩ := hfound.placed hi hne hnone
    have hfound' : FoundIn f.client (s.indexed j) u' e' := Seeking.found hs hother
    obtain ⟨page', found', hshows', hmatch', hat'⟩ := hfound'.placed rfl hj (he.handle.trans hnone)
    obtain rfl := hshows.unique hshows' hafter.page
    cases hmatch.symm.trans hmatch'
    refine ⟨page, found, hshows, hmatch, hat, hat', fun hfirst hlast => ?_⟩
    rw [positionOf_last hfirst hlast hat.length_pos] at hat
    exact hat.same hat'
  · have hhandle := mt hfound.lastRequest?_eq_source_iff.mpr hlast
    exact ⟨hhandle, he.same hhandle⟩

/-- A page with two buttons that show the text. -/
def twoButtons : String := "<App><Button label=\"Save\"/><Button label=\"Save as\"/></App>"

theorem index_is_honoured_iff_save_as :
    let s := (Selector.ofText "Save").indexed "1"
    let f : Finder Unit := { client := pageClient s.criteria.exactQuery twoButtons }
    let w : World Unit := { client := (), wall := ⟨"", ""⟩ }
    s.index = some "1" ∧ s.hasRelative = false ∧
      ∃ e u, Seeking.findOnce.run f .usual 1 s w = (.ok e, u) ∧ u.lastRequest? = some .source ∧
        ∃ page found, ShowsLast f.client u page ∧ s.criteria.filterNodes page.nodes = .ok found ∧
          IsNodeAt page found (positionOf "1" found.length) e := by
  intro s f w
  obtain ⟨e, u, h⟩ := exists_ok (p := Seeking.findOnce.run f .usual 1 s w) (by decide +kernel)
  have hlast : (Seeking.findOnce.run f .usual 1 s w).2.lastRequest? = some .source := by decide +kernel
  rw [h] at hlast
  have honoured := index_is_honoured_iff f .usual 1 .findOnce (s := s) rfl (by decide) (by decide) h
  exact ⟨rfl, by decide, e, u, h, hlast, honoured.1.mpr hlast⟩

/-- The first query is answered, so the call never asks for the page, where the index names the second of
two nodes. -/
theorem index_is_passed_over :
    let s := (Selector.ofText "Save").indexed "1"
    let w : World Unit := { client := (), wall := ⟨"", ""⟩ }
    (Snapshot.ofSource twoButtons >>= fun page => s.criteria.filterNodes page.nodes).toOption.map
        (·.map (·.attributes.label)) = some ["Save", "Save as"] ∧
      ∃ q ∈ s.criteria.standardQueries.head?,
        let f : Finder Unit := { client := pageClient q twoButtons }
        let run := fun i => Seeking.findOnce.run f .usual 1 (s.indexed i) w
        (run "1").1.toOption.map (·.handle) = some (some "handle") ∧
          (run "0").1.toOption.map (·.handle) = some (some "handle") ∧
          (run "1").2.sent.all fun sent => decide (sent.request ≠ .source) := by
  intro s w
  refine ⟨by decide +kernel, _, rfl, by decide +kernel, by decide +kernel, by decide +kernel⟩

end ElementFinder
