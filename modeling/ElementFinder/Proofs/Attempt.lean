import ElementFinder.Finder.Attempt
import ElementFinder.Proofs.Matching
import ElementFinder.Proofs.Work

/-!
# What an attempt asks

Each part of an attempt as the requests that it sends and the result that it makes of the answers.
Which requests a whole attempt may send follows from those of its parts, for any condition on the
exchange in which a request is allowed.
-/

namespace ElementFinder

/-- The request that a query makes. -/
def Query.request (q : Query) : Request := .find q.method q.value

namespace Attempt

open Run Work Exchange

variable {σ : Type} {c : Client σ} {s : Selector} {q : Query} {limit : Option Deadline}
  {t u : World σ} {allowed : Exchange σ → Request → Prop}

/-! ## Queries -/

theorem mayMiss_inv {r : Request} {o : Except Failure (Except Failure r.Answer)}
    (h : mayMiss c r t = (o, u)) : u.exchange = t.exchange.after c r ∧
      ((∃ a, t.exchange.answer c r = .ok a ∧ o = .ok (.ok a)) ∨
        ∃ f, t.exchange.answer c r = .error f ∧
          o = if f.isQuery then .ok (.error f) else .error f) := by
  obtain ⟨a, v, hs, h⟩ := bind_attempt_inv h
  obtain ⟨rfl, hv⟩ := send_inv hs
  cases ha : t.exchange.answer c r with
  | ok a =>
      rw [ha] at h
      cases h
      exact ⟨hv, Or.inl ⟨a, rfl, rfl⟩⟩
  | error f =>
      simp only [ha] at h
      split at h <;> (cases h; exact ⟨hv, Or.inr ⟨f, rfl, by simp [*]⟩⟩)

theorem reportTime_run (q : Query) (started : Float) (missed : Bool) :
    (reportTime q started missed : Work σ Unit) t =
      if t.timing.enabled then
        (Work.now >>= fun now =>
          Work.ofExcept (TimingEvent.queried q.value q.name started now missed) >>= Work.emit) t
      else (.ok (), t) := by
  show (if t.timing.enabled = true then _ else _ : Work σ Unit) t = _
  split <;> rfl

theorem reportTime_quiet (q : Query) (started : Float) (missed : Bool) :
    Quiet (reportTime q started missed : Work σ Unit) := by
  intro s
  rw [reportTime_run]
  split
  · exact now_quiet.bind (fun _ => (ofExcept_quiet _).bind emit_quiet) s
  · rfl

/-- What comes after the answer to a query asks nothing, and only the report of the time can fail. -/
theorem report_inv {α : Type} {started : Float} {missed : Bool} {b : LocatorAttempt} {x : α}
    {o : Except Failure α}
    (h : (do reportTime q started missed; Work.note b; return x : Work σ α) t = (o, u)) :
    u.exchange = t.exchange ∧ (o = .ok x ∨ ∃ f, o = .error f) := by
  obtain ⟨f, hr, rfl⟩ | ⟨_, v, hr, h⟩ := bind_inv h
  · exact ⟨(reportTime_quiet q started missed).exchange_eq hr, Or.inr ⟨f, rfl⟩⟩
  · have hv := (reportTime_quiet q started missed).exchange_eq hr
    cases h
    exact ⟨hv, Or.inl rfl⟩

/-- A query is one request. It gives the handle of the answer or, for a query failure, none. -/
theorem tryQuery_inv {o : Except Failure (Option String)} (h : tryQuery c q t = (o, u)) :
    u.exchange = t.exchange.after c q.request ∧
      ((∃ a, t.exchange.answer c q.request = .ok a ∧ o = .ok (some a)) ∨
        (∃ f, t.exchange.answer c q.request = .error f ∧ f.isQuery = true ∧ o = .ok none) ∨
        ∃ f, o = .error f) := by
  obtain ⟨_, hn, _⟩ | ⟨started, v, hn, h⟩ := bind_inv h
  · cases hn
  cases hn
  obtain ⟨f, hm, rfl⟩ | ⟨a, v, hm, h⟩ := bind_inv h
  · exact ⟨(mayMiss_inv hm).1, Or.inr (Or.inr ⟨f, rfl⟩)⟩
  obtain ⟨hv, ⟨a, ha, hm⟩ | ⟨f, ha, hm⟩⟩ := mayMiss_inv hm
  · cases hm
    obtain ⟨hu, ho⟩ := report_inv h
    exact ⟨hu.trans hv, ho.imp (fun ho => ⟨a, ha, ho⟩) Or.inr⟩
  · cases hq : f.isQuery with
    | false => simp [hq] at hm
    | true =>
        simp only [hq, ↓reduceIte, Except.ok.injEq] at hm
        subst hm
        obtain ⟨w, hw, h⟩ := record_inv h
        obtain ⟨hu, ho⟩ := report_inv h
        exact ⟨hu.trans (hw.trans hv), Or.inr (ho.imp (fun ho => ⟨f, ha, hq, ho⟩) id)⟩

/-! ## Found elements -/

/-- No request that only reads a property of an element is forbidden. -/
def AllowsReads (allowed : Exchange σ → Request → Prop) : Prop :=
  ∀ x r, r.isSearch = false → allowed x r

theorem property_inv {r : Request} {usual : r.Answer} {word handle : String}
    {o : Except Failure r.Answer} (h : property c r usual word handle t = (o, u)) :
    u.exchange = t.exchange.after c r := by
  obtain ⟨f, hm, rfl⟩ | ⟨a, v, hm, h⟩ := bind_inv h
  · exact (mayMiss_inv hm).1
  · cases a with
    | ok a =>
        cases h
        exact (mayMiss_inv hm).1
    | error f =>
        cases h
        exact (mayMiss_inv hm).1

theorem ofHandle_leads (hreads : AllowsReads allowed) {handle : String}
    {o : Except Failure Element} (h : ofHandle c s q handle t = (o, u)) :
    Leads c allowed t.exchange u.exchange := by
  have read : ∀ (v w : World σ) (r : Request), r.isSearch = false →
      w.exchange = v.exchange.after c r → Leads c allowed v.exchange w.exchange := by
    intro v w r hr hw
    rw [hw]
    exact .single (hreads _ r hr)
  obtain ⟨_, hp, _⟩ | ⟨text, v, hp, h⟩ := bind_inv h
  · exact read t u _ rfl (property_inv hp)
  have h₁ := read t v _ rfl (property_inv hp)
  obtain ⟨_, hp, _⟩ | ⟨bounds, w, hp, h⟩ := bind_inv h
  · exact h₁.trans (read v u _ rfl (property_inv hp))
  have h₂ := h₁.trans (read v w _ rfl (property_inv hp))
  obtain ⟨_, hp, _⟩ | ⟨visible, x, hp, h⟩ := bind_inv h
  · exact h₂.trans (read w u _ rfl (property_inv hp))
  have h₃ := h₂.trans (read w x _ rfl (property_inv hp))
  have hq := Quiet.exchange_eq ((ofExcept_quiet _).bind fun _ => Quiet.pure _) h
  rwa [hq]

theorem ofHandle_ok {handle : String} {e : Element} (h : ofHandle c s q handle t = (.ok e, u)) :
    e.handle = some handle := by
  obtain ⟨text, v, -, h⟩ := bind_inv_ok h
  obtain ⟨bounds, w, -, h⟩ := bind_inv_ok h
  obtain ⟨visible, x, -, h⟩ := bind_inv_ok h
  obtain ⟨selector, y, -, h⟩ := bind_inv_ok h
  cases h
  rfl

/-! ## Queries in a row -/

theorem noneFound_inv {o : Except Failure Element}
    (h : byQueries.noneFound s t = (o, u)) : u = t ∧ ∃ f, o = .error f := by
  rw [byQueries.noneFound] at h
  cases hd : s.describe with
  | ok description =>
      rw [hd] at h
      cases h
      exact ⟨rfl, _, rfl⟩
  | error f =>
      rw [hd] at h
      cases h
      exact ⟨rfl, _, rfl⟩

theorem noneFound_quiet : Quiet (byQueries.noneFound s : Work σ Element) :=
  (ofExcept_quiet _).bind fun _ => Quiet.throw _

/-- A query is only sent while the deadline has not expired; after the query that finds an element
only its properties are read. -/
theorem byQueries_leads (hreads : AllowsReads allowed) {queries : List Query}
    (hfind : ∀ x, ∀ q ∈ queries, x.expired limit = false → allowed x q.request)
    {o : Except Failure Element} (h : byQueries c s limit queries t = (o, u)) :
    Leads c allowed t.exchange u.exchange := by
  induction queries generalizing t with
  | nil =>
      rw [noneFound_quiet.exchange_eq h]
      exact .refl _
  | cons q rest ih =>
      rw [byQueries, expired_bind] at h
      split at h
      · rw [noneFound_quiet.exchange_eq h]
        exact .refl _
      · next hb =>
        have hstep : ∀ v : World σ, v.exchange = t.exchange.after c q.request →
            Leads c allowed t.exchange v.exchange := by
          intro v hv
          rw [hv]
          exact .single (hfind _ q List.mem_cons_self (by simpa using hb))
        obtain ⟨_, hq, _⟩ | ⟨found, v, hq, h⟩ := bind_inv h
        · exact hstep u (tryQuery_inv hq).1
        have hv := hstep v (tryQuery_inv hq).1
        cases found with
        | none => exact hv.trans (ih (fun x q hq => hfind x q (List.mem_cons_of_mem _ hq)) h)
        | some handle =>
            obtain ⟨w, hw, h⟩ := record_inv h
            exact hv.trans (hw ▸ ofHandle_leads hreads h)

/-! ## Pages -/

/-- The element that a selector with a description picks from a page. -/
def pickOn (s : Selector) (description : String) (page : Snapshot) : Except Failure Element :=
  s.pickIn page >>= fun
    | none => .error (.noMatch description none)
    | some n => .ok (ofNode n (page.tapTarget n).bounds description onPage)

/-- The element that a selector picks from the source of a page. -/
def pickFrom (s : Selector) (source : String) : Except Failure Element := do
  let description ← s.describe
  let page ← Snapshot.ofSource source
  pickOn s description page

/-- The element that a selector finds by its surroundings in the source of a page. -/
def resolveFrom (s : Selector) (source : String) : Except Failure Element := do
  let page ← Snapshot.ofSource source
  let description ← s.describe
  let n ← s.resolveIn page
  return ofNode n n.bounds description bySurroundings

theorem loadPage_inv {o : Except Failure Snapshot} (h : loadPage c t = (o, u)) :
    u.exchange = t.exchange.after c .source ∧
      o = t.exchange.answer c .source >>= Snapshot.ofSource := by
  obtain ⟨p, v, hl, h⟩ := bind_attempt_inv h
  have hv : v.exchange = t.exchange.after c .source ∧
      p = t.exchange.answer c .source >>= Snapshot.ofSource := by
    obtain ⟨f, hs, rfl⟩ | ⟨source, w, hs, hl⟩ := bind_inv hl
    · obtain ⟨ha, hv⟩ := send_inv hs
      exact ⟨hv, by rw [← ha]; rfl⟩
    · obtain ⟨ha, hw⟩ := send_inv hs
      obtain ⟨rfl, rfl⟩ := ofExcept_inv hl
      exact ⟨hw, by rw [← ha]; rfl⟩
  cases p with
  | ok page =>
      cases h
      exact hv
  | error f =>
      dsimp only at h
      split at h
      · obtain ⟨w, hw, hend⟩ := note_inv h
        cases hend
        exact ⟨hw.trans hv.1, hv.2⟩
      · cases h
        exact hv

/-- An attempt on a page is one request, unless the selector has no description. -/
theorem byPage_inv {o : Except Failure Element} (h : byPage c s t = (o, u)) :
    (∃ f, s.describe = .error f ∧ o = .error f ∧ u.exchange = t.exchange) ∨
      u.exchange = t.exchange.after c .source ∧
        o = t.exchange.answer c .source >>= pickFrom s := by
  obtain ⟨f, hrun, ho⟩ | ⟨description, v, hrun, hload⟩ := bind_inv h
  · obtain ⟨hd, hu⟩ := ofExcept_inv hrun
    exact Or.inl ⟨f, hd.symm, ho, by rw [hu]⟩
  obtain ⟨hd, rfl⟩ := ofExcept_inv hrun
  have hpick : v.exchange.answer c .source >>= pickFrom s =
      (v.exchange.answer c .source >>= Snapshot.ofSource) >>= pickOn s description := by
    rw [bind_assoc]
    refine bind_congr fun source => ?_
    rw [pickFrom, ← hd]
    rfl
  right
  obtain ⟨f, hpage, ho⟩ | ⟨page, w, hpage, hpicked⟩ := bind_inv hload
  · obtain ⟨hu, ha⟩ := loadPage_inv hpage
    refine ⟨hu, ?_⟩
    rw [hpick, ← ha, ho]
    rfl
  obtain ⟨hw, ha⟩ := loadPage_inv hpage
  rw [hpick, ← ha]
  obtain ⟨f, hrun, ho⟩ | ⟨n, x, hrun, hnote⟩ := bind_inv hpicked
  · obtain ⟨hn, rfl⟩ := ofExcept_inv hrun
    refine ⟨hw, ?_⟩
    show o = pickOn s description page
    rw [ho, pickOn, ← hn]
    rfl
  obtain ⟨hn, rfl⟩ := ofExcept_inv hrun
  show _ ∧ o = pickOn s description page
  rw [pickOn, ← hn]
  cases n with
  | none =>
      obtain ⟨y, hy, hend⟩ := note_inv hnote
      cases hend
      exact ⟨hy.trans hw, rfl⟩
  | some n =>
      obtain ⟨y, hy, hend⟩ := note_inv hnote
      cases hend
      exact ⟨hy.trans hw, rfl⟩

theorem byRelation_inv {o : Except Failure Element} (h : byRelation c s t = (o, u)) :
    u.exchange = t.exchange.after c .source ∧
      o = t.exchange.answer c .source >>= resolveFrom s := by
  have hfrom : t.exchange.answer c .source >>= resolveFrom s =
      (t.exchange.answer c .source >>= Snapshot.ofSource) >>= fun page =>
        s.describe >>= fun description => s.resolveIn page >>= fun n =>
          .ok (ofNode n n.bounds description bySurroundings) :=
    (bind_assoc _ _ _).symm
  obtain ⟨f, hpage, ho⟩ | ⟨page, v, hpage, hdescribe⟩ := bind_inv h
  · obtain ⟨hu, ha⟩ := loadPage_inv hpage
    refine ⟨hu, ?_⟩
    rw [hfrom, ← ha, ho]
    rfl
  obtain ⟨hv, ha⟩ := loadPage_inv hpage
  rw [hfrom, ← ha]
  show _ ∧ o = s.describe >>= _
  obtain ⟨f, hrun, ho⟩ | ⟨description, w, hrun, hresolve⟩ := bind_inv hdescribe
  · obtain ⟨hd, rfl⟩ := ofExcept_inv hrun
    refine ⟨hv, ?_⟩
    rw [ho, ← hd]
    rfl
  obtain ⟨hd, rfl⟩ := ofExcept_inv hrun
  rw [← hd]
  show _ ∧ o = s.resolveIn page >>= _
  cases hn : s.resolveIn page with
  | ok n =>
      rw [hn] at hresolve
      obtain ⟨x, hx, hend⟩ := note_inv hresolve
      cases hend
      exact ⟨hx.trans hv, rfl⟩
  | error f =>
      simp only [hn] at hresolve
      split at hresolve
      · obtain ⟨x, hx, hend⟩ := note_inv hresolve
        cases hend
        exact ⟨hx.trans hv, rfl⟩
      · cases hresolve
        exact ⟨hv, rfl⟩

/-! ## Whole attempts -/

theorem byPage_leads (hsource : allowed t.exchange .source) {o : Except Failure Element}
    (h : byPage c s t = (o, u)) : Leads c allowed t.exchange u.exchange := by
  obtain ⟨_, _, _, hu⟩ | ⟨hu, _⟩ := byPage_inv h
  · rw [hu]
    exact .refl _
  · rw [hu]
    exact .single hsource

theorem byRelation_leads (hsource : allowed t.exchange .source) {o : Except Failure Element}
    (h : byRelation c s t = (o, u)) : Leads c allowed t.exchange u.exchange := by
  rw [(byRelation_inv h).1]
  exact .single hsource

theorem queriesOr_run {queries : List Query} {next : Work σ Element} {o : Except Failure Element} :
    byQueries c s limit queries t = (o, u) → queriesOr c s limit queries next t =
      match o with
      | .ok e => (.ok e, u)
      | .error f => if f.isQuery && !u.exchange.expired limit then next u else (.error f, u) := by
  intro hq
  have hrun : ∀ k : Except Failure Element → Work σ Element,
      ((byQueries c s limit queries).attempt >>= k) t = k o u := by
    intro k
    show k (byQueries c s limit queries t).1 (byQueries c s limit queries t).2 = _
    rw [hq]
  rw [queriesOr, hrun]
  cases o with
  | ok e => rfl
  | error f =>
      dsimp only
      rw [expired_bind]
      split <;> rfl

/-- What comes after the queries is begun only if they missed and the deadline has not expired. -/
theorem queriesOr_inv {queries : List Query} {next : Work σ Element} {o : Except Failure Element}
    (h : queriesOr c s limit queries next t = (o, u)) :
    (byQueries c s limit queries t = (o, u) ∧
        ∀ f, o = .error f → f.isQuery = true → u.exchange.expired limit = true) ∨
      ∃ f v, byQueries c s limit queries t = (.error f, v) ∧ f.isQuery = true ∧
        v.exchange.expired limit = false ∧ next v = (o, u) := by
  rcases hq : byQueries c s limit queries t with ⟨f | e, v⟩
  · rw [queriesOr_run hq] at h
    dsimp only at h
    split at h
    · next hf =>
      simp only [Bool.and_eq_true, Bool.not_eq_true'] at hf
      exact Or.inr ⟨f, v, rfl, hf.1, hf.2, h⟩
    · next hf =>
      cases h
      refine Or.inl ⟨rfl, fun g hg hquery => ?_⟩
      cases hg
      simpa [hquery] using hf
  · rw [queriesOr_run hq] at h
    cases h
    exact Or.inl ⟨rfl, by simp⟩

theorem queriesOr_leads (hreads : AllowsReads allowed) {queries : List Query}
    (hfind : ∀ x, ∀ q ∈ queries, x.expired limit = false → allowed x q.request)
    {next : Work σ Element} {o : Except Failure Element}
    (hnext : ∀ v, Leads c allowed t.exchange v.exchange → v.exchange.expired limit = false →
      next v = (o, u) → Leads c allowed v.exchange u.exchange)
    (h : queriesOr c s limit queries next t = (o, u)) : Leads c allowed t.exchange u.exchange := by
  obtain ⟨hq, _⟩ | ⟨f, v, hq, _, hin, hrun⟩ := queriesOr_inv h
  · exact byQueries_leads hreads hfind hq
  · have hv := byQueries_leads hreads hfind hq
    exact hv.trans (hnext v hv hin hrun)

/-- An ordinary attempt that begins in time sends each query and the request for the page only while
the deadline has not expired. -/
theorem standard_leads (hreads : AllowsReads allowed)
    (hfind : s.hasRelative = false → s.criteria.hasSize = false →
      ∀ x (q : Query), x.expired limit = false → allowed x q.request)
    (hsource : ∀ x, x.expired limit = false → allowed x .source)
    (hstart : t.exchange.expired limit = false) {o : Except Failure Element}
    (h : standard c s limit t = (o, u)) : Leads c allowed t.exchange u.exchange := by
  rw [standard] at h
  split at h
  · exact byRelation_leads (hsource _ hstart) h
  · next hr =>
    split at h
    · exact byPage_leads (hsource _ hstart) h
    · next hs =>
      have hfind := hfind (by simpa using hr) (by simpa using hs)
      exact queriesOr_leads hreads (fun x q _ => hfind x q)
        (fun v _ hin hrun => byPage_leads (hsource _ hin) hrun) h

/-- The exact query is sent first. If it misses, the query for a part of the text follows at once. -/
theorem exactOrContains_inv {o : Except Failure (Except Failure (Query × String))}
    (h : exactOrContains c s t = (o, u)) :
    let exact := s.criteria.exactQuery
    let part := s.criteria.containsQuery
    let x := t.exchange.after c exact.request
    (u.exchange = x ∧ ((∃ a, t.exchange.answer c exact.request = .ok a ∧ o = .ok (.ok (exact, a))) ∨
        ∃ f, o = .error f)) ∨
      (u.exchange = x.after c part.request ∧
        ∃ f, t.exchange.answer c exact.request = .error f ∧ f.isQuery = true) := by
  intro exact part x
  obtain ⟨f, hq, ho⟩ | ⟨found, v, hq, h'⟩ := bind_inv h
  · exact Or.inl ⟨(tryQuery_inv hq).1, Or.inr ⟨f, ho⟩⟩
  obtain ⟨hv, ⟨a, ha, hf⟩ | ⟨f, ha, hf, hn⟩ | ⟨f, hf⟩⟩ := tryQuery_inv hq
  · cases hf
    cases h'
    exact Or.inl ⟨hv, Or.inl ⟨a, ha, rfl⟩⟩
  · cases hn
    refine Or.inr ⟨?_, f, ha, hf⟩
    obtain ⟨g, hm, _⟩ | ⟨a, w, hm, h'⟩ := bind_inv h'
    · rw [(mayMiss_inv hm).1, hv]
      rfl
    · have hw := (mayMiss_inv hm).1
      rw [hv] at hw
      cases a with
      | ok a =>
          obtain ⟨y, hy, hend⟩ := note_inv h'
          cases hend
          exact hy.trans hw
      | error g =>
          obtain ⟨y, hy, hend⟩ := note_inv h'
          cases hend
          exact hy.trans hw
  · cases hf

/-- What a tap does after its queries for interactive elements. -/
def fallback (c : Client σ) (s : Selector) : Work σ Element := do
  let queried ← exactOrContains c s
  match ← (byPage c s).attempt with
  | .ok e => return e
  | .error f =>
    if !f.isOwn then throw f
    else match queried with
      | .error missed => throw missed
      | .ok (q, handle) =>
        Work.record .debug ("Page source lookup for " ++ Text.quoted (s.criteria.text.getD "")
          ++ " failed, using " ++ q.name ++ " match: " ++ f.message)
        ofHandle c s q handle

theorem tap_eq : tap c s limit = queriesOr c s limit s.criteria.interactiveQueries (fallback c s) :=
  rfl

theorem fallback_inv {o : Except Failure Element} (h : fallback c s t = (o, u)) :
    (∃ g, exactOrContains c s t = (.error g, u) ∧ o = .error g) ∨
      ∃ queried v p x, exactOrContains c s t = (.ok queried, v) ∧ byPage c s v = (p, x) ∧
        ((o = p ∧ u = x ∧ ∀ g, p = .error g → g.isOwn = false) ∨
          (∃ g missed, p = .error g ∧ g.isOwn = true ∧ queried = .error missed ∧
            o = .error missed ∧ u = x) ∨
          ∃ g q handle y, p = .error g ∧ g.isOwn = true ∧ queried = .ok (q, handle) ∧
            y.exchange = x.exchange ∧ ofHandle c s q handle y = (o, u)) := by
  obtain ⟨g, he, ho⟩ | ⟨queried, v, he, hpage⟩ := bind_inv h
  · exact Or.inl ⟨g, he, ho⟩
  obtain ⟨p, x, hp, hend⟩ := bind_attempt_inv hpage
  refine Or.inr ⟨queried, v, p, x, he, hp, ?_⟩
  cases p with
  | ok e =>
      cases hend
      exact Or.inl ⟨rfl, rfl, by simp⟩
  | error g =>
      dsimp only at hend
      cases hg : g.isOwn with
      | false =>
          simp only [hg] at hend
          cases hend
          exact Or.inl ⟨rfl, rfl, fun _ h => by cases h; exact hg⟩
      | true =>
          simp only [hg] at hend
          cases queried with
          | error missed =>
              cases hend
              exact Or.inr (Or.inl ⟨g, missed, rfl, hg, rfl, rfl, rfl⟩)
          | ok found =>
              obtain ⟨q, handle⟩ := found
              obtain ⟨y, hy, hend⟩ := record_inv hend
              exact Or.inr (Or.inr ⟨g, q, handle, y, rfl, hg, rfl, hy, hend⟩)

/-- The query for a part of the text follows the exact query as it is, and so does the request for
the page follow either of them. -/
theorem fallback_leads (hreads : AllowsReads allowed)
    (hexact : allowed t.exchange s.criteria.exactQuery.request)
    (hgap : let y := t.exchange.after c s.criteria.exactQuery.request
      allowed y .source ∧ allowed y s.criteria.containsQuery.request ∧
        allowed (y.after c s.criteria.containsQuery.request) .source)
    {o : Except Failure Element} (h : fallback c s t = (o, u)) :
    Leads c allowed t.exchange u.exchange := by
  obtain ⟨hpage, hpart, hpage'⟩ := hgap
  -- The queries for all elements, and that the page may be asked for after them.
  have hasked : ∀ {p v}, exactOrContains c s t = (p, v) →
      Leads c allowed t.exchange v.exchange ∧ allowed v.exchange .source := by
    intro p v hv
    obtain ⟨he, _⟩ | ⟨he, _⟩ := exactOrContains_inv hv
    · rw [he]
      exact ⟨.single hexact, hpage⟩
    · rw [he]
      exact ⟨(Leads.single hexact).tail hpart, hpage'⟩
  obtain ⟨g, he, _⟩ | ⟨queried, v, p, x, he, hp, hend⟩ := fallback_inv h
  · exact (hasked he).1
  obtain ⟨hv, hsource⟩ := hasked he
  have hx := hv.trans (byPage_leads hsource hp)
  obtain ⟨_, rfl, _⟩ | ⟨_, _, _, _, _, _, rfl⟩ | ⟨_, q, handle, y, _, _, _, hy, hend⟩ := hend
  · exact hx
  · exact hx
  · rw [← hy] at hx
    exact hx.trans (ofHandle_leads hreads hend)

theorem tap_leads (hreads : AllowsReads allowed)
    (hfind : ∀ x (q : Query), x.expired limit = false → allowed x q.request)
    (hgap : ∀ x, Leads c allowed t.exchange x → x.expired limit = false →
      let y := x.after c s.criteria.exactQuery.request
      allowed y .source ∧ allowed y s.criteria.containsQuery.request ∧
        allowed (y.after c s.criteria.containsQuery.request) .source)
    {o : Except Failure Element} (h : tap c s limit t = (o, u)) :
    Leads c allowed t.exchange u.exchange :=
  queriesOr_leads hreads (fun x q _ => hfind x q)
    (fun _ hv hin hrun => fallback_leads hreads (hfind _ _ hin) (hgap _ hv hin) hrun) (tap_eq ▸ h)

/-- The first query of a tap is sent at once if the deadline has not expired. -/
theorem tap_begins {q : Query} {rest : List Query}
    (hqueries : s.criteria.interactiveQueries = q :: rest)
    (hin : t.exchange.expired limit = false) {o : Except Failure Element}
    (h : tap c s limit t = (o, u)) :
    Leads c (fun _ _ => True) (t.exchange.after c q.request) u.exchange := by
  have hreads : AllowsReads (fun (_ : Exchange σ) _ => True) := fun _ _ _ => trivial
  have hbegin : ∀ {p v}, byQueries c s limit (q :: rest) t = (p, v) →
      Leads c (fun _ _ => True) (t.exchange.after c q.request) v.exchange := by
    intro p v hq
    rw [byQueries, expired_bind, hin] at hq
    obtain ⟨_, hq, _⟩ | ⟨found, w, hq, hrest⟩ := bind_inv hq
    · rw [(tryQuery_inv hq).1]
      exact .refl _
    rw [← (tryQuery_inv hq).1]
    cases found with
    | none => exact byQueries_leads hreads (fun _ _ _ _ => trivial) hrest
    | some handle =>
        obtain ⟨x, hx, hend⟩ := record_inv hrest
        exact hx ▸ ofHandle_leads hreads hend
  rw [tap_eq, hqueries] at h
  obtain ⟨hq, _⟩ | ⟨f, v, hq, _, _, hrun⟩ := queriesOr_inv h
  · exact hbegin hq
  · exact (hbegin hq).trans (fallback_leads hreads trivial ⟨trivial, trivial, trivial⟩ hrun)

end Attempt

end ElementFinder
