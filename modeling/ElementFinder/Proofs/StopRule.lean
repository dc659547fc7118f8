import ElementFinder.Proofs.Calls

/-!
# The stop rule

A call under a deadline looks for its element and for the page in time only, so once the deadline has
passed or was cancelled nothing but the request under way and the properties of a found element are
waited for. Before a tap two gaps are left, in which nobody looks at the deadline.
-/

namespace ElementFinder

open Exchange Finder

variable {σ : Type} {c : Client σ} {f : Finder σ} {configured : Timeouts} {rounds : Nat}
  {s : Selector} {d : Deadline} {u w : World σ}

/-! ## Ordinary calls -/

/-- What a call under a deadline sends: it looks for elements and pages in time only, it sends nothing
if the deadline has expired before, and on a steady clock the requests that are sent late come last
and only read properties. A call without a deadline sends nothing. -/
def StopsInTime (c : Client σ) (w u : World σ) : Except Failure Deadline → Prop
  | .error _ => u.sent = w.sent
  | .ok d => ∃ new, u.sent = w.sent ++ new ∧
      (∀ e ∈ new, e.request.isSearch = true → e.isLate d = false) ∧
      (w.exchange.begun.expired (some d) = true → new = []) ∧
      (c.Steady → ∃ timely late, new = timely ++ late ∧ (∀ e ∈ timely, e.isLate d = false) ∧
        ∀ e ∈ late, e.isLate d = true ∧ e.request.isSearch = false)

/-- Searches are allowed in time only. -/
def InTime (d : Deadline) (x : Exchange σ) (r : Request) : Prop :=
  r.isSearch = true → x.expired (some d) = false

/-- Requests that are allowed in time only are sent in time. -/
theorem leads_inTime (h : Leads c (InTime d) w.exchange.begun u.exchange) :
    ∃ new, u.sent = w.sent ++ new ∧ ∀ e ∈ new, e.request.isSearch = true → e.isLate d = false := by
  obtain ⟨new, hsent, hall⟩ := h.history
  refine ⟨new, hsent, fun e he hsearch => ?_⟩
  obtain ⟨before, after, rfl⟩ := List.append_of_mem he
  obtain ⟨z, r, rfl, hr, _⟩ := hall before e after rfl
  exact hr hsearch

theorem stopsInTime_of_leads (hd : w.exchange.begun.expired (some d) = true → u.sent = w.sent)
    (h : Leads c (InTime d) w.exchange.begun u.exchange) : StopsInTime c w u (.ok d) := by
  obtain ⟨new, hsent, hin⟩ := leads_inTime h
  refine ⟨new, hsent, hin, fun hpast => ?_, fun hc => ?_⟩
  · rw [hd hpast] at hsent
    simpa using hsent
  · obtain ⟨timely, late, hsplit, htimely, hlate, _⟩ := h.late_last hc d
    have hnew : new = timely ++ late := List.append_cancel_left (hsent.symm.trans hsplit)
    refine ⟨timely, late, hnew, htimely, fun e he => ⟨hlate e he, ?_⟩⟩
    by_contra hsearch
    have := hin e (by simp [hnew, he]) (by simpa using hsearch)
    simp [hlate e he] at this

theorem stopsInTime_of_unsent (h : u.exchange = w.exchange.begun) :
    ∀ deadline, StopsInTime c w u deadline
  | .error _ => congrArg Exchange.sent h
  | .ok _ => stopsInTime_of_leads (fun _ => congrArg Exchange.sent h) (h ▸ .refl _)

/-- Ordinary attempts under a deadline keep to it. -/
theorem stopsInTime_of_searches {deadline : Except Failure Deadline} {r : Except Stop Element}
    (h : Searches rounds deadline s (fun d => Attempt.standard c s (some d)) w u r) :
    StopsInTime c w u deadline := by
  cases deadline with
  | error e => exact stopsInTime_of_unsent (h.failed rfl) _
  | ok d =>
      refine stopsInTime_of_leads (fun hd => congrArg Exchange.sent (h.expired rfl hd)) ?_
      refine h.leads fun d' t v o hd _ hin hrun => ?_
      cases hd
      refine Attempt.standard_leads (fun x r hr hs => ?_) (fun _ _ x q hx _ => hx)
        (fun x hx _ => hx) hin hrun
      rw [hr] at hs
      cases hs

/-- A call for a selector, a call for a name, and a question for presence that may wait all stop in
time. -/
theorem ordinary_calls_stop_in_time (f : Finder σ) (configured : Timeouts) (rounds : Nat)
    (w : World σ) :
    (∀ s limit, StopsInTime f.client w (f.find configured rounds s limit w).2
      (f.deadlineAt configured w.now limit)) ∧
    (∀ m name bindings limit,
      StopsInTime f.client w (f.findNamed configured rounds m name bindings limit w).2
        (f.deadlineAt configured w.now (f.namedLimit m.settings limit))) ∧
    ∀ s milliseconds,
      (∀ d, presenceDeadline configured w.now milliseconds = .ok d → 0.0 < d.timeout) →
      StopsInTime f.client w (f.appears configured rounds s milliseconds w).2
        (presenceDeadline configured w.now milliseconds) := by
  refine ⟨fun s limit => ?_, fun m name bindings limit => ?_, fun s milliseconds hwait => ?_⟩
  · exact stopsInTime_of_searches (find_searches rfl)
  · cases hs : m.selector name bindings with
    | error g => exact stopsInTime_of_unsent (findNamed_unnamed hs rfl) _
    | ok s => exact stopsInTime_of_searches (findNamed_searches hs rfl)
  · obtain ⟨o, h⟩ | ⟨d, _, _, _, hd, hno, _⟩ := appears_inv (Prod.mk.eta.symm :
        f.appears configured rounds s milliseconds w = _)
    · exact stopsInTime_of_searches h
    · exact absurd (hwait d hd) hno

/-! ## Calls before a tap -/

/-- One request follows the other without a look at the deadline: the query for a part of the text
after the exact query, and the request for the page after either of them. -/
def FollowsUnguarded (s : Selector) (a b : Request) : Prop :=
  (a = s.criteria.exactQuery.request ∧ (b = s.criteria.containsQuery.request ∨ b = .source)) ∨
    a = s.criteria.containsQuery.request ∧ b = .source

theorem FollowsUnguarded.isSearch {a b : Request} (h : FollowsUnguarded s a b) :
    b.isSearch = true := by
  obtain ⟨_, rfl | rfl⟩ | ⟨_, rfl⟩ := h <;> rfl

/-- Searches are allowed in time, and where they follow another request unguarded. -/
def InTimeOrUnguarded (s : Selector) (d : Deadline) (start : List Sent) (x : Exchange σ)
    (r : Request) : Prop :=
  r.isSearch = true → x.expired (some d) = false ∨
    ∃ before a, x.sent = start ++ (before ++ [a]) ∧ FollowsUnguarded s a.request r

theorem tap_leads_inTimeOrUnguarded (hs : isTapText s = true) (hr : s.hasRelative = false)
    {deadline : Except Failure Deadline} (hd : deadline = .ok d) {r : Except Stop Element}
    (h : Searches rounds deadline s (f.tapAttempt s) w u r) :
    Leads f.client (InTimeOrUnguarded s d w.sent) w.exchange.begun u.exchange := by
  refine h.leads fun d' t v o hd' hreach hin hrun => ?_
  cases hd.symm.trans hd'
  simp only [tapAttempt, hr, hs, Bool.false_eq_true, ↓reduceIte] at hrun
  refine Attempt.tap_leads (fun x r hr hs => ?_) (fun x q hx _ => Or.inl hx)
    (fun x hx hin => ?_) hrun
  · rw [hr] at hs
    cases hs
  · -- What was sent since the call has begun ends with the exact query, or the one after it.
    obtain ⟨before, hsent, _⟩ := (hreach.trans hx).history
    let exact := s.criteria.exactQuery.request
    let part := s.criteria.containsQuery.request
    refine ⟨fun _ => Or.inr ⟨before, noted exact x, ?_, Or.inl ⟨rfl, Or.inr rfl⟩⟩,
      fun _ => Or.inr ⟨before, noted exact x, ?_, Or.inl ⟨rfl, Or.inl rfl⟩⟩,
      fun _ => Or.inr ⟨before ++ [noted exact x], noted part (x.after f.client exact), ?_,
        Or.inr ⟨rfl, rfl⟩⟩⟩
    all_goals simp [hsent, exact, part]

/-- A search that is sent late follows another request unguarded. -/
theorem tap_late_follows (hs : isTapText s = true) (hr : s.hasRelative = false)
    {deadline : Except Failure Deadline} (hd : deadline = .ok d) {r : Except Stop Element}
    (h : Searches rounds deadline s (f.tapAttempt s) w u r) :
    ∃ new, u.sent = w.sent ++ new ∧ ∀ before e after, new = before ++ e :: after →
      e.request.isSearch = true → e.isLate d = true →
      ∃ start a, before = start ++ [a] ∧ FollowsUnguarded s a.request e.request := by
  obtain ⟨new, hsent, hall⟩ := (tap_leads_inTimeOrUnguarded hs hr hd h).history
  refine ⟨new, hsent, fun before e after hnew hsearch hlate => ?_⟩
  obtain ⟨z, r, rfl, hr, hz⟩ := hall before e after hnew
  obtain hin | ⟨start, a, ha, hfollows⟩ := hr hsearch
  · simp [hin] at hlate
  · exact ⟨start, a, List.append_cancel_left (hz.symm.trans ha), hfollows⟩

/-- A call before a tap stops in time exactly if the deadline has not expired when a request follows
another one unguarded. -/
theorem tap_in_time_iff (f : Finder σ) (configured : Timeouts) (rounds : Nat) (limit : Limit)
    (w : World σ) (hs : isTapText s = true) (hr : s.hasRelative = false) :
    let u := (f.findForTap configured rounds s limit w).2
    match f.deadlineAt configured w.now limit with
    | .error _ => u.sent = w.sent
    | .ok d => ∃ new, u.sent = w.sent ++ new ∧
        ((∀ e ∈ new, e.request.isSearch = true → e.isLate d = false) ↔
          ∀ a b, [a, b] <:+: new → FollowsUnguarded s a.request b.request → b.isLate d = false) := by
  intro u
  have h : Searches rounds (f.deadlineAt configured w.now limit) s (f.tapAttempt s) w u _ :=
    findForTap_searches rfl
  cases hd : f.deadlineAt configured w.now limit with
  | error e => exact congrArg Exchange.sent (h.failed hd)
  | ok d =>
      obtain ⟨new, hsent, hlate⟩ := tap_late_follows hs hr hd h
      refine ⟨new, hsent, fun hin a b hab hfollows => ?_, fun hgaps e he hsearch => ?_⟩
      · exact hin b (hab.subset (by simp)) hfollows.isSearch
      · by_contra he'
        obtain ⟨before, after, hnew⟩ := List.append_of_mem he
        obtain ⟨start, a, rfl, hfollows⟩ := hlate before e after hnew hsearch (by simpa using he')
        exact he' (hgaps a e ⟨start, after, by simp [hnew]⟩ hfollows)

/-- A client that finds nothing; the call is cancelled while a request is answered, after a number of
others. -/
def cancelledClient (number : Nat) : Client Nat where
  ask _ n t :=
    { outcome := .error (.query "" none), client := n + 1, now := t, cancels := n == number }

theorem tap_in_time_iff_nope :
    let f : Finder Nat := { client := cancelledClient 3 }
    let s := Selector.ofText "Nope"
    isTapText s = true ∧ s.hasRelative = false ∧
      ∃ new, (f.findForTap .usual 2 s (.untilDeadline ⟨10.0, 0.0, false⟩)
          { client := 0, wall := ⟨"", ""⟩ }).2.sent = [] ++ new ∧
        ((∀ e ∈ new, e.request.isSearch = true → e.isLate ⟨10.0, 0.0, false⟩ = false) ↔
          ∀ a b, [a, b] <:+: new → FollowsUnguarded s a.request b.request →
            b.isLate ⟨10.0, 0.0, false⟩ = false) := by
  intro f s
  have hs : isTapText s = true := by decide
  have hr : s.hasRelative = false := by decide
  exact ⟨hs, hr, tap_in_time_iff f .usual 2 (.untilDeadline ⟨10.0, 0.0, false⟩) _ hs hr⟩

/-- Searches are sent after the call was cancelled during the exact query. -/
theorem tap_searches_after_cancel :
    let f : Finder Nat := { client := cancelledClient 7 }
    let d : Deadline := ⟨10.0, 0.0, false⟩
    let w : World Nat := { client := 0, wall := ⟨"", ""⟩ }
    ¬∀ e ∈ (f.findForTap .usual 2 (.ofText "Nope") (.untilDeadline d) w).2.sent,
      e.request.isSearch = true → e.isLate d = false := by
  decide +kernel

end ElementFinder
