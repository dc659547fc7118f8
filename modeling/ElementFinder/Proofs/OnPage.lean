import ElementFinder.Proofs.Calls

/-!
# Answers from the page

Sizes and surroundings are judged on a page, so a call for them asks for pages alone and returns a
node of the last one. A tap on a text with a size is the exception: it begins with queries.
-/

namespace ElementFinder

open Run Exchange Finder

variable {σ : Type} {c : Client σ} {f : Finder σ} {configured : Timeouts} {rounds : Nat}
  {s : Selector} {limit : Option Deadline} {t u w : World σ} {x y z : Exchange σ} {e : Element}

/-! ## Attempts -/

/-- The request does not ask for an element. -/
def NoFind (_ : Exchange σ) (r : Request) : Prop := r.isFind = false

/-- A node has the size that is asked for. -/
def Criteria.SizeMet (c : Criteria) (n : Node) : Prop :=
  sizeMeets c.width n.bounds.width c.effectiveTolerance = true ∧
    sizeMeets c.height n.bounds.height c.effectiveTolerance = true

/-- The element is a node of the page that was asked for last, and the node has the wanted size. -/
def FromLastPage (c : Client σ) (s : Selector) (x y : Exchange σ) (e : Element) : Prop :=
  e.handle = none ∧ ∃ z source page n bounds description way,
    Leads c NoFind x z ∧ y = z.after c .source ∧ z.answer c .source = .ok source ∧
      Snapshot.ofSource source = .ok page ∧ n ∈ page.nodes ∧ s.criteria.SizeMet n ∧
      e = Attempt.ofNode n bounds description way

theorem FromLastPage.trans (hx : Leads c NoFind x y) (h : FromLastPage c s y z e) :
    FromLastPage c s x z e := by
  obtain ⟨he, v, source, page, n, bounds, description, way, hv, hrest⟩ := h
  exact ⟨he, v, source, page, n, bounds, description, way, hx.trans hv, hrest⟩

theorem Criteria.sizeMet_of_hasSize_eq_false {c : Criteria} (h : c.hasSize = false) (n : Node) :
    c.SizeMet n := by
  rw [hasSize, Bool.or_eq_false_iff] at h
  obtain ⟨hw, hh⟩ := h
  simp only [Option.isSome_eq_false_iff, Option.isNone_iff_eq_none] at hw hh
  exact ⟨by rw [sizeMeets, hw], by rw [sizeMeets, hh]⟩

/-- The run asks for no element, and what it finds is a node of the last page. -/
def Local (c : Client σ) (s : Selector) (x y : Exchange σ) (r : Option Element) : Prop :=
  Leads c NoFind x y ∧ ∀ e, r = some e → FromLastPage c s x y e

theorem byPage_local {o : Except Failure Element} (h : Attempt.byPage c s t = (o, u)) :
    Local c s t.exchange u.exchange o.toOption := by
  refine ⟨Attempt.byPage_leads rfl h, fun e he => ?_⟩
  obtain ⟨g, _, rfl, _⟩ | ⟨hu, ho⟩ := Attempt.byPage_inv h
  · cases he
  cases o with
  | error g => cases he
  | ok e' =>
      cases he
      obtain ⟨source, hsource, hpick⟩ := except_bind_ok.mp ho.symm
      obtain ⟨description, _, hpick⟩ := except_bind_ok.mp hpick
      obtain ⟨page, hpage, hpick⟩ := except_bind_ok.mp hpick
      obtain ⟨n, hn, he⟩ := except_bind_ok.mp hpick
      cases n with
      | none => cases he
      | some n =>
          cases he
          obtain ⟨hmem, hmatch⟩ := Selector.pickIn_eq_some hn
          exact ⟨rfl, _, source, page, n, _, _, _, .refl _, hu, hsource, hpage, hmem,
            Criteria.sizeMeets_of_matchesNode hmatch, rfl⟩

theorem byRelation_local {o : Except Failure Element} (h : Attempt.byRelation c s t = (o, u)) :
    Local c s t.exchange u.exchange o.toOption := by
  refine ⟨Attempt.byRelation_leads rfl h, fun e he => ?_⟩
  obtain ⟨hu, ho⟩ := Attempt.byRelation_inv h
  cases o with
  | error g => cases he
  | ok e' =>
      cases he
      obtain ⟨source, hsource, hfind⟩ := except_bind_ok.mp ho.symm
      obtain ⟨page, hpage, hfind⟩ := except_bind_ok.mp hfind
      obtain ⟨description, _, hfind⟩ := except_bind_ok.mp hfind
      obtain ⟨n, hn, he⟩ := except_bind_ok.mp hfind
      cases he
      obtain ⟨hmem, hmatch⟩ := Selector.resolveIn_eq_ok hn
      have hsize : s.criteria.SizeMet n := by
        cases hs : s.criteria.hasSize with
        | false => exact Criteria.sizeMet_of_hasSize_eq_false hs n
        | true => exact Criteria.sizeMeets_of_matchesNode (hmatch (by simp [Criteria.hasBase, hs]))
      exact ⟨rfl, _, source, page, n, _, _, _, .refl _, hu, hsource, hpage, hmem, hsize, rfl⟩

/-- The selector asks for a size or for surroundings. -/
def Selector.NeedsPage (s : Selector) : Prop := s.criteria.hasSize = true ∨ s.hasRelative = true

theorem standard_local (hs : s.NeedsPage) {o : Except Failure Element}
    (h : Attempt.standard c s limit t = (o, u)) :
    Local c s t.exchange u.exchange o.toOption := by
  rw [Attempt.standard] at h
  split at h
  · exact byRelation_local h
  · next hr =>
    rw [if_pos (hs.resolve_right hr)] at h
    exact byPage_local h

/-- The selector asks a tap for a text and not for surroundings. -/
def Selector.isPlainTap (s : Selector) : Bool := isTapText s && !s.hasRelative

theorem tapAttempt_local (hs : s.NeedsPage) (htap : s.isPlainTap = false) {d : Deadline}
    {o : Except Failure Element} (h : f.tapAttempt s d t = (o, u)) :
    Local f.client s t.exchange u.exchange o.toOption := by
  rw [tapAttempt] at h
  split at h
  · exact byRelation_local h
  · next hr =>
    have ht : isTapText s = false := by simpa [Selector.isPlainTap, hr] using htap
    simp only [ht, Bool.false_eq_true, ↓reduceIte] at h
    exact standard_local hs h

/-! ## Calls -/

/-- A call to a finder. -/
inductive Inquiry where
  | find (s : Selector) (limit : Limit)
  | findForTap (s : Selector) (limit : Limit)
  | findOnce (s : Selector)
  | appears (s : Selector) (milliseconds : Option Int)
  | awaitGone (s : Selector) (milliseconds : Int)
  | findNamed (m : ObjectMap) (name bindings : Value) (limit : Limit)

namespace Inquiry

/-- The selector that a call is for. -/
def selector : Inquiry → Except Failure Selector
  | .find s _ | .findForTap s _ | .findOnce s | .appears s _ | .awaitGone s _ => .ok s
  | .findNamed m name bindings _ => m.selector name bindings

/-- The call is made before a tap. -/
def isTap : Inquiry → Bool
  | .findForTap _ _ => true
  | _ => false

/-- Runs a call for the element that it returns, if it returns one. -/
def run (f : Finder σ) (configured : Timeouts) (rounds : Nat) : Inquiry → Call σ (Option Element)
  | .find s limit => some <$> f.find configured rounds s limit
  | .findForTap s limit => some <$> f.findForTap configured rounds s limit
  | .findOnce s => some <$> Call.ofWork (f.findOnce s)
  | .appears s milliseconds => (fun _ => none) <$> f.appears configured rounds s milliseconds
  | .awaitGone s milliseconds => (fun _ => none) <$> f.awaitGone configured rounds s milliseconds
  | .findNamed m name bindings limit =>
    some <$> f.findNamed configured rounds m name bindings limit

end Inquiry

/-- What a call returns and sends is found and asked for on pages alone. -/
def AnswersOnPage (c : Client σ) (s : Selector) (w u : World σ) (r : Except Stop (Option Element)) :
    Prop :=
  (∃ new, u.sent = w.sent ++ new ∧ ∀ e ∈ new, e.request.isFind = false) ∧
    ∀ e, r = .ok (some e) → FromLastPage c s w.exchange.begun u.exchange e

theorem Local.answersOnPage {r : Except Stop (Option Element)}
    (h : Local c s w.exchange.begun u.exchange r.toOption.join) : AnswersOnPage c s w u r := by
  refine ⟨?_, fun e he => h.2 e (by rw [he]; rfl)⟩
  obtain ⟨new, hsent, hall⟩ := h.1.history
  refine ⟨new, hsent, fun e he => ?_⟩
  obtain ⟨before, after, hnew⟩ := List.append_of_mem he
  obtain ⟨z, r, rfl, hr, _⟩ := hall before e after hnew
  exact hr

/-- A call whose attempts find their answers on pages finds its own there. -/
theorem searches_local {deadline : Except Failure Deadline} {attempts : Deadline → Work σ Element}
    (hattempt : ∀ d t v o, attempts d t = (o, v) →
      Local c s t.exchange v.exchange o.toOption)
    {r : Except Stop Element} (h : Searches rounds deadline s attempts w u r) :
    Local c s w.exchange.begun u.exchange r.toOption := by
  refine ⟨h.leads fun d t v o _ _ _ hrun => (hattempt d t v o hrun).1, fun e he => ?_⟩
  cases r with
  | error stop => cases he
  | ok e' =>
      cases he
      obtain ⟨d, t, v, _, hreach, _, hrun, hu⟩ :=
        h.found fun d t v o _ _ _ hrun => (hattempt d t v o hrun).1
      exact hu ▸ .trans hreach ((hattempt d t v _ hrun).2 e rfl)

theorem interactiveQueries_eq_cons (h : isTapText s = true) :
    ∃ q rest, s.criteria.interactiveQueries = q :: rest := by
  rw [isTapText, Bool.and_eq_true] at h
  obtain ⟨text, ht⟩ := Option.isSome_iff_exists.mp h.2
  have hwanted : s.criteria.wantedText? = some text := ht
  rw [Criteria.interactiveQueries, hwanted]
  exact ⟨_, _, rfl⟩

/-- A tap on a text without surroundings begins with a query, if it sends anything. -/
theorem plainTap_begins (hs : s.isPlainTap = true) {deadline : Except Failure Deadline}
    {r : Except Stop Element} (h : Searches rounds deadline s (f.tapAttempt s) w u r) :
    (u.exchange = w.exchange.begun ∧ ∃ stop, r = .error stop) ∨
      ∃ q : Query, Leads f.client (fun _ _ => True)
        (w.exchange.begun.after f.client q.request) u.exchange := by
  rw [Selector.isPlainTap, Bool.and_eq_true, Bool.not_eq_true'] at hs
  obtain ⟨htext, hrelative⟩ := hs
  have htap : ∀ d, f.tapAttempt s d = Attempt.tap f.client s (some d) := by
    intro d
    simp [tapAttempt, htext, hrelative]
  obtain ⟨q, rest, hqueries⟩ := interactiveQueries_eq_cons htext
  obtain hunsent | ⟨d, t, v, keeping, _, ht, h, hu⟩ := h
  · exact Or.inl hunsent
  rw [htap] at h
  rw [← ht, hu]
  refine (search_begins (fun t v o ht hin hrun => ?_) (fun t v o hrun => ?_) h).imp id
    fun h => ⟨q, h⟩
  · rw [← ht]
    exact Attempt.tap_begins hqueries hin hrun
  · exact Attempt.tap_leads (fun _ _ _ => trivial) (fun _ _ _ => trivial)
      (fun _ _ _ => ⟨trivial, trivial, trivial⟩) hrun

theorem Inquiry.run_local {i : Inquiry} (hs : i.selector = .ok s) (hneeds : s.NeedsPage)
    (htap : i.isTap = true → s.isPlainTap = false) {r : Except Stop (Option Element)}
    (h : i.run f configured rounds w = (r, u)) :
    Local f.client s w.exchange.begun u.exchange r.toOption.join := by
  have hfound : ∀ {x : Call σ Element}, (some <$> x) w = (r, u) →
      (∀ o, x w = (o, u) → Local f.client s w.exchange.begun u.exchange o.toOption) →
      Local f.client s w.exchange.begun u.exchange r.toOption.join := by
    intro x hrun hx
    rw [map_run] at hrun
    cases hrun
    have hlocal := hx _ rfl
    cases hr : (x w).1 <;> (rw [hr] at hlocal; exact hlocal)
  have hnothing : ∀ {α : Type} {x : Call σ α}, ((fun _ => none) <$> x) w = (r, u) →
      (∀ o, x w = (o, u) → Leads f.client NoFind w.exchange.begun u.exchange) →
      Local f.client s w.exchange.begun u.exchange r.toOption.join := by
    intro α x hrun hx
    rw [map_run] at hrun
    cases hrun
    refine ⟨hx _ rfl, fun e he => ?_⟩
    cases hr : (x w).1 <;> (rw [hr] at he; cases he)
  cases i with
  | find s' limit =>
      cases hs
      exact hfound h fun o ho => searches_local (fun _ _ _ _ => standard_local hneeds)
        (find_searches ho)
  | findForTap s' limit =>
      cases hs
      exact hfound h fun o ho => searches_local (fun _ _ _ _ => tapAttempt_local hneeds (htap rfl))
        (findForTap_searches ho)
  | findOnce s' =>
      cases hs
      refine hfound h fun o ho => ?_
      obtain ⟨p, hrun, hp⟩ := Call.ofWork_toOption ho
      obtain ⟨t, ht, hrun⟩ := findOnce_inv hrun
      rw [hp, ← ht]
      exact standard_local hneeds hrun
  | appears s' milliseconds =>
      cases hs
      refine hnothing h fun o ho => ?_
      obtain ⟨p, hsearch⟩ | ⟨d, x, v, p, _, _, hx, hrun, hu⟩ := appears_inv ho
      · exact (searches_local (fun _ _ _ _ => standard_local hneeds) hsearch).1
      · rw [hu, ← hx]
        exact (standard_local hneeds hrun).1
  | awaitGone s' milliseconds =>
      cases hs
      refine hnothing h fun o ho => ?_
      exact awaitGone_leads (fun _ _ _ _ hrun => (standard_local hneeds hrun).1) ho
  | findNamed m name bindings limit =>
      exact hfound h fun o ho => searches_local (fun _ _ _ _ => standard_local hneeds)
        (findNamed_searches hs ho)

/-- A tap on a text without surroundings is only answered on pages if it sends nothing at all. -/
theorem plainTap_answersOnPage_iff (hs : s.isPlainTap = true) {limit : Limit}
    {r : Except Stop (Option Element)}
    (h : (Inquiry.findForTap s limit).run f configured rounds w = (r, u)) :
    AnswersOnPage f.client s w u r ↔ u.sent = w.sent := by
  rw [Inquiry.run, map_run] at h
  rcases hrun : f.findForTap configured rounds s limit w with ⟨o, v⟩
  rw [hrun, Prod.mk.injEq] at h
  obtain ⟨rfl, rfl⟩ := h
  obtain ⟨hunsent, stop, rfl⟩ | ⟨q, hbegins⟩ := plainTap_begins hs (findForTap_searches hrun)
  · have hsent : v.sent = w.sent := congrArg Exchange.sent hunsent
    refine iff_of_true ⟨⟨[], by simp [hsent], by simp⟩, fun e he => ?_⟩ hsent
    cases he
  · obtain ⟨more, hsent, _⟩ := hbegins.history
    have hsent : v.sent = w.sent ++ noted q.request w.exchange.begun :: more := by
      simpa using hsent
    refine iff_of_false (fun hpage => ?_) (fun hnone => ?_)
    · obtain ⟨⟨new, hnew, hall⟩, _⟩ := hpage
      have hnew := List.append_cancel_left (hnew.symm.trans hsent)
      have hfind := hall (noted q.request w.exchange.begun) (by simp [hnew])
      cases hfind
    · simp [show v.sent = w.sent from hnone] at hsent

/-- A client that answers each query with a handle and has no page to show. -/
def handyClient : Client Unit where
  ask r u t :=
    match r with
    | .find _ _ => { outcome := .ok "handle", client := u, now := t }
    | .text _ => { outcome := .ok "", client := u, now := t }
    | .rect _ => { outcome := .ok {}, client := u, now := t }
    | .displayed _ => { outcome := .ok true, client := u, now := t }
    | .source => { outcome := .error (.query "" none), client := u, now := t }

/-- A call for a size or for surroundings is answered on pages, unless it is a tap on a text without
surroundings. Such a tap is not, unless it sends nothing at all. -/
theorem answers_on_page_iff (f : Finder σ) (configured : Timeouts) (rounds : Nat) (w : World σ)
    {i : Inquiry} (hs : i.selector = .ok s) (hneeds : s.NeedsPage) :
    let p := i.run f configured rounds w
    AnswersOnPage f.client s w p.2 p.1 ↔
      (i.isTap = true → s.isPlainTap = true → p.2.sent = w.sent) := by
  intro p
  by_cases htap : i.isTap = true ∧ s.isPlainTap = true
  · obtain ⟨hi, hplain⟩ := htap
    obtain ⟨limit, rfl⟩ : ∃ limit, i = .findForTap s limit := by
      cases i <;> cases hi
      cases hs
      exact ⟨_, rfl⟩
    rw [plainTap_answersOnPage_iff hplain (r := p.1) (u := p.2) rfl]
    exact ⟨fun h _ _ => h, fun h => h rfl hplain⟩
  · refine iff_of_true (Inquiry.run_local hs hneeds ?_ (r := p.1) (u := p.2) rfl).answersOnPage ?_
    · intro hi
      by_contra hplain
      exact htap ⟨hi, by simpa using hplain⟩
    · intro hi hplain
      exact absurd ⟨hi, hplain⟩ htap

theorem answers_on_page_iff_width :
    let s : Selector := { criteria := { width := some 40 } }
    let i := Inquiry.find s (.untilDeadline ⟨10.0, 0.0, false⟩)
    let f : Finder Unit := { client := handyClient }
    let w : World Unit := { client := (), wall := ⟨"", ""⟩ }
    i.selector = .ok s ∧ s.NeedsPage ∧
      (AnswersOnPage f.client s w (i.run f .usual 2 w).2 (i.run f .usual 2 w).1 ↔
        (i.isTap = true → s.isPlainTap = true → (i.run f .usual 2 w).2.sent = w.sent)) := by
  intro s i f w
  have hneeds : s.NeedsPage := Or.inl (by decide)
  exact ⟨rfl, hneeds, answers_on_page_iff f .usual 2 w rfl hneeds⟩

/-- A tap on a text with a width is answered by the first query. -/
theorem sized_tap_is_queried :
    let s : Selector := { criteria := { text := some "Save", width := some 40 } }
    let p := (Inquiry.findForTap s (.untilDeadline ⟨10.0, 0.0, false⟩)).run
      { client := handyClient } .usual 1 { client := (), wall := ⟨"", ""⟩ }
    s.criteria.hasSize = true ∧ p.2.sent.any (·.request.isFind) = true ∧
      p.1.toOption.join.bind Element.handle = some "handle" := by
  decide +kernel

end ElementFinder
