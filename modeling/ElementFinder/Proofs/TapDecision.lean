import ElementFinder.Proofs.ExactText
import ElementFinder.Proofs.Reports
import ElementFinder.Proofs.Requests
import ElementFinder.Proofs.TypedFailure

/-!
# What decides a tap

Once the queries for interactive elements have missed, a tap asks for the exact text, for a part of the
text if that misses, and for the page in any case. Each of the three may give the element: the page
before a handle, and the handle of the exact query before that of the other. What an attempt asks and
what it returns follow from the answers.
-/

namespace ElementFinder

open Run Exchange Finder

variable {σ : Type} {c : Client σ} {s : Selector} {q : Query} {handle : String} {t u : World σ}
  {x z : Exchange σ} {queried : Except Failure (Query × String)}

/-- What a sequence comes to. -/
theorem Run.bind_fst {ε α β S : Type} {x : ExceptT ε (StateM S) α} {k : α → ExceptT ε (StateM S) β} {a : S} :
    ((x >>= k) a).1 = (x a).1 >>= fun b => (k b (x a).2).1 := by
  rcases h : x a with ⟨e | b, a'⟩
  · rw [bind_error h]
    rfl
  · rw [bind_ok h]
    rfl

/-! ## Answers -/

namespace Exchange

/-- The answer to a request is a query failure. -/
def misses (c : Client σ) (r : Request) (x : Exchange σ) : Bool :=
  match x.answer c r with
  | .ok _ => false
  | .error f => f.isQuery

/-- An answer or a query failure; all other failures go on. -/
def answerOrMiss (c : Client σ) (r : Request) (x : Exchange σ) : Except Failure (Except Failure r.Answer) :=
  match x.answer c r with
  | .ok a => .ok (.ok a)
  | .error f => if f.isQuery then .ok (.error f) else .error f

/-- The answer to a request, or the usual one in place of a query failure. -/
def answerOr (c : Client σ) (r : Request) (usual : r.Answer) (x : Exchange σ) : Except Failure r.Answer :=
  (x.answerOrMiss c r).map fun a => a.toOption.getD usual

/-- The time that a request takes is finite in milliseconds. -/
def TimeFinite (c : Client σ) (r : Request) (x : Exchange σ) : Prop :=
  ∃ n, TimingEvent.milliseconds ((x.after c r).now - x.now) = .ok n

variable {r : Request} {f : Failure}

theorem misses_iff : x.misses c r = true ↔ ∃ f, x.answer c r = .error f ∧ f.isQuery = true := by
  rw [misses]
  cases x.answer c r <;> simp

theorem answerOrMiss_ok {a : r.Answer} (h : x.answer c r = .ok a) : x.answerOrMiss c r = .ok (.ok a) := by
  rw [answerOrMiss, h]

theorem answerOrMiss_missed (h : x.answer c r = .error f) (hf : f.isQuery = true) :
    x.answerOrMiss c r = .ok (.error f) := by
  rw [answerOrMiss, h]
  exact if_pos hf

theorem answerOrMiss_failed (h : x.answer c r = .error f) (hf : f.isQuery = false) :
    x.answerOrMiss c r = .error f := by
  rw [answerOrMiss, h]
  exact if_neg (by simp [hf])

end Exchange

/-- The element with a handle that a query found, by the answers about its properties; one that misses
keeps its usual value. -/
def elementOf (c : Client σ) (s : Selector) (q : Query) (handle : String) (x : Exchange σ) :
    Except Failure Element := do
  let text ← x.answerOr c (.text handle) ""
  let y := x.after c (.text handle)
  let bounds ← y.answerOr c (.rect handle) {}
  let z := y.after c (.rect handle)
  let visible ← z.answerOr c (.displayed handle) false
  let selector ← s.describe
  return { text, bounds, visible, handle := some handle, origin := ⟨selector, q.name, some q.value⟩ }

/-- An element with the handle is labelled with the query that found it. -/
theorem elementOf_eq_ok {e : Element} (h : elementOf c s q handle x = .ok e) :
    e.handle = some handle ∧ e.origin.strategy = q.name ∧ e.origin.locator = some q.value := by
  obtain ⟨text, -, h⟩ := except_bind_ok.mp h
  obtain ⟨bounds, -, h⟩ := except_bind_ok.mp h
  obtain ⟨visible, -, h⟩ := except_bind_ok.mp h
  obtain ⟨description, -, h⟩ := except_bind_ok.mp h
  cases h
  exact ⟨rfl, rfl, rfl⟩

/-- If only queries fail, there always is an element for a handle. -/
theorem exists_elementOf (hc : c.FailsByQuery) {description : String} (hs : s.describe = .ok description) :
    ∃ e, elementOf c s q handle x = .ok e := by
  have hread : ∀ (y : Exchange σ) (r : Request) (usual : r.Answer), ∃ a, y.answerOr c r usual = .ok a := by
    intro y r usual
    rw [answerOr]
    cases ha : y.answer c r with
    | ok a => exact ⟨_, by rw [answerOrMiss_ok ha]; rfl⟩
    | error f => exact ⟨_, by rw [answerOrMiss_missed ha (hc r _ _ f ha)]; rfl⟩
  obtain ⟨text, htext⟩ := hread x (.text handle) ""
  obtain ⟨bounds, hbounds⟩ := hread (x.after c (.text handle)) (.rect handle) {}
  obtain ⟨visible, hvisible⟩ :=
    hread ((x.after c (.text handle)).after c (.rect handle)) (.displayed handle) false
  let e : Element :=
    { text, bounds, visible, handle := some handle, origin := ⟨description, q.name, some q.value⟩ }
  refine ⟨e, except_bind_ok.mpr ⟨text, htext, except_bind_ok.mpr ⟨bounds, hbounds, ?_⟩⟩⟩
  exact except_bind_ok.mpr ⟨visible, hvisible, except_bind_ok.mpr ⟨description, hs, rfl⟩⟩

namespace Attempt

open Work

/-! ## Steps -/

theorem mayMiss_eq (r : Request) :
    mayMiss c r t = (t.exchange.answerOrMiss c r, (Work.send c r t).2) := by
  have hsend : ∀ k : Except Failure r.Answer → Work σ (Except Failure r.Answer),
      ((Work.send c r).attempt >>= k) t = k (t.exchange.answer c r) (Work.send c r t).2 :=
    fun _ => rfl
  rw [mayMiss, hsend]
  cases ha : t.exchange.answer c r with
  | ok a =>
      rw [answerOrMiss_ok ha]
      rfl
  | error f =>
      cases hf : f.isQuery with
      | true =>
          rw [answerOrMiss_missed ha hf]
          simp only [hf, ↓reduceIte]
          rfl
      | false =>
          rw [answerOrMiss_failed ha hf]
          simp only [hf]
          rfl

/-- The time of a query is reported, if it is finite. -/
theorem reportTime_ends {started : Float} (missed : Bool)
    (htime : t.timing.enabled = true → ∃ n, TimingEvent.milliseconds (t.now - started) = .ok n) :
    ∃ u, (reportTime q started missed : Work σ Unit) t = (.ok (), u) ∧ u.exchange = t.exchange := by
  rw [reportTime_run]
  split
  · next henabled =>
    obtain ⟨n, hn⟩ := htime henabled
    obtain ⟨e, he, hline⟩ := TimingEvent.line_queried q.value q.name hn missed
    have hnow : ∀ k : Float → Work σ Unit, (Work.now >>= k) t = k t.now t := fun _ => rfl
    have hemit : (Work.ofExcept (.ok e) >>= Work.emit) t = Work.emit e t := rfl
    have hwritten : (Work.emit e t).1 = .ok () := by rw [Work.emit_fst, if_pos henabled, hline]
    rw [hnow, he, hemit]
    exact ⟨(Work.emit e t).2, Prod.ext hwritten rfl, Work.emit_quiet e t⟩
  · exact ⟨t, rfl, rfl⟩

/-- A query gives the handle that it is answered with, or none if it misses. -/
theorem tryQuery_ends (htime : t.timing.enabled = true → t.exchange.TimeFinite c q.request)
    {a : Except Failure String} (ha : t.exchange.answerOrMiss c q.request = .ok a) :
    ∃ u, tryQuery c q t = (.ok a.toOption, u) ∧ u.exchange = t.exchange.after c q.request := by
  have hstart : ∀ k : Float → Work σ (Option String), (Work.now >>= k) t = k t.now t := fun _ => rfl
  have hsent : mayMiss c (.find q.method q.value) t = (.ok a, (Work.send c q.request t).2) := by
    rw [mayMiss_eq]
    exact congrArg (·, _) ha
  have hreport : ∀ (v : World σ) missed, v.exchange = t.exchange.after c q.request →
      v.timing = t.timing → ∃ u, (reportTime q t.now missed : Work σ Unit) v = (.ok (), u) ∧
        u.exchange = t.exchange.after c q.request := by
    intro v missed hv htiming
    have hnow : v.now = (t.exchange.after c q.request).now := congrArg Exchange.now hv
    obtain ⟨u, hu, hquiet⟩ : ∃ u, (reportTime q t.now missed : Work σ Unit) v = (.ok (), u) ∧
        u.exchange = v.exchange :=
      reportTime_ends missed (by rw [htiming, hnow]; exact htime)
    exact ⟨u, hu, hquiet.trans hv⟩
  rw [tryQuery, hstart, bind_ok hsent]
  let v := (Work.send c q.request t).2
  cases a with
  | ok handle =>
      obtain ⟨u, hu, hexchange⟩ := hreport v false rfl rfl
      exact ⟨_, bind_ok hu, hexchange⟩
  | error f =>
      let missed : LogRecord := ⟨.search, .debug, "Strategy " ++ q.describe ++ " missed: " ++ f.message⟩
      obtain ⟨u, hu, hexchange⟩ := hreport { v with log := v.log.add missed } true rfl rfl
      exact ⟨_, bind_ok hu, hexchange⟩

theorem property_fst {r : Request} {usual : r.Answer} {word : String} :
    (property c r usual word handle t).1 = t.exchange.answerOr c r usual := by
  rw [property, answerOr]
  cases ha : t.exchange.answerOrMiss c r with
  | ok a =>
      rw [bind_ok (by rw [mayMiss_eq, ha])]
      cases a <;> rfl
  | error f =>
      rw [bind_error (by rw [mayMiss_eq, ha])]
      rfl

theorem property_exchange {r : Request} {usual : r.Answer} {word : String} :
    (property c r usual word handle t).2.exchange = t.exchange.after c r :=
  property_inv (o := (property c r usual word handle t).1) rfl

theorem ofHandle_fst : (ofHandle c s q handle t).1 = elementOf c s q handle t.exchange := by
  rw [ofHandle, bind_fst, property_fst, elementOf]
  refine bind_congr fun text => ?_
  rw [bind_fst, property_fst, property_exchange]
  refine bind_congr fun bounds => ?_
  rw [bind_fst, property_fst, property_exchange, property_exchange]
  refine bind_congr fun visible => ?_
  rw [bind_fst, ofExcept_run]
  rfl

/-! ## The queries for all elements -/

/-- What the two queries for all elements come to, and the exchange after them: the exact query is
answered, or else the query for a part of the text, or both miss. -/
inductive Queried (c : Client σ) (s : Selector) (x : Exchange σ) :
    Exchange σ → Except Failure (Query × String) → Prop
  | exact {handle : String} (answered : x.answer c s.criteria.exactQuery.request = .ok handle) :
      Queried c s x (x.after c s.criteria.exactQuery.request) (.ok (s.criteria.exactQuery, handle))
  | part {handle : String} (missed : x.misses c s.criteria.exactQuery.request = true)
      (answered : (x.after c s.criteria.exactQuery.request).answer c s.criteria.containsQuery.request =
        .ok handle) :
      Queried c s x
        ((x.after c s.criteria.exactQuery.request).after c s.criteria.containsQuery.request)
        (.ok (s.criteria.containsQuery, handle))
  | neither {f : Failure} (missed : x.misses c s.criteria.exactQuery.request = true)
      (failed : (x.after c s.criteria.exactQuery.request).answer c s.criteria.containsQuery.request =
        .error f) (query : f.isQuery = true) :
      Queried c s x
        ((x.after c s.criteria.exactQuery.request).after c s.criteria.containsQuery.request) (.error f)

section

variable (htime : t.timing.enabled = true → t.exchange.TimeFinite c s.criteria.exactQuery.request)
include htime

theorem exactOrContains_exact {handle : String}
    (h : t.exchange.answer c s.criteria.exactQuery.request = .ok handle) :
    ∃ u, exactOrContains c s t = (.ok (.ok (s.criteria.exactQuery, handle)), u) ∧
      u.exchange = t.exchange.after c s.criteria.exactQuery.request := by
  obtain ⟨u, hu, hexchange⟩ := tryQuery_ends htime (answerOrMiss_ok h)
  exact ⟨u, bind_ok hu, hexchange⟩

/-- After a miss of the exact query the other one is sent, and it decides. -/
theorem exactOrContains_after_miss (h : t.exchange.misses c s.criteria.exactQuery.request = true) :
    let part := s.criteria.containsQuery
    let y := t.exchange.after c s.criteria.exactQuery.request
    ∃ u, exactOrContains c s t =
        ((y.answerOrMiss c part.request).map fun a => a.map fun handle => (part, handle), u) ∧
      u.exchange = y.after c part.request := by
  intro part y
  obtain ⟨f, hf, hquery⟩ := misses_iff.mp h
  obtain ⟨v, hv, hexchange⟩ := tryQuery_ends htime (answerOrMiss_missed hf hquery)
  have hsent : mayMiss c (.find part.method part.value) v =
      (y.answerOrMiss c part.request, (Work.send c part.request v).2) := by
    rw [mayMiss_eq, hexchange]
    rfl
  have hafter : (Work.send c part.request v).2.exchange = y.after c part.request :=
    congrArg (Exchange.after c part.request) hexchange
  show ∃ u, (tryQuery c s.criteria.exactQuery >>= _) t = _ ∧ _
  rw [bind_ok hv]
  show ∃ u, (mayMiss c (.find part.method part.value) >>= _) v = _ ∧ _
  cases ha : y.answerOrMiss c part.request with
  | error g =>
      rw [ha] at hsent
      exact ⟨_, bind_error hsent, hafter⟩
  | ok a =>
      rw [ha] at hsent
      rw [bind_ok hsent]
      cases a with
      | ok handle => exact ⟨_, rfl, hafter⟩
      | error g => exact ⟨_, rfl, hafter⟩

theorem exactOrContains_ends (h : Queried c s t.exchange x queried) :
    ∃ u, exactOrContains c s t = (.ok queried, u) ∧ u.exchange = x := by
  cases h with
  | exact h => exact exactOrContains_exact htime h
  | part hmissed h =>
      obtain ⟨u, hu, hexchange⟩ := exactOrContains_after_miss htime hmissed
      rw [answerOrMiss_ok h] at hu
      exact ⟨u, hu, hexchange⟩
  | neither hmissed h hquery =>
      obtain ⟨u, hu, hexchange⟩ := exactOrContains_after_miss htime hmissed
      rw [answerOrMiss_missed h hquery] at hu
      exact ⟨u, hu, hexchange⟩

/-- The query for a part of the text is sent exactly if the exact query misses. -/
theorem exactOrContains_asks {o : Except Failure (Except Failure (Query × String))}
    (h : exactOrContains c s t = (o, u)) :
    let part := s.criteria.containsQuery
    u.exchange = t.exchange.afterAll c (s.criteria.exactQuery.request ::
      if t.exchange.misses c s.criteria.exactQuery.request then [part.request] else []) := by
  intro part
  cases hmissed : t.exchange.misses c s.criteria.exactQuery.request with
  | true =>
      obtain ⟨v, hv, hexchange⟩ := exactOrContains_after_miss htime hmissed
      cases h.symm.trans hv
      exact hexchange
  | false =>
      obtain ⟨hu, _⟩ | ⟨_, f, hf, hquery⟩ := exactOrContains_inv h
      · exact hu
      · simp [misses_iff.mpr ⟨f, hf, hquery⟩] at hmissed

end

/-! ## The page and the handles -/

/-- What a tap returns, by the two queries for all elements, the page and the handle. -/
def decided (c : Client σ) (s : Selector) (z : Exchange σ) (queried : Except Failure (Query × String)) :
    Except Failure Element :=
  match z.answer c .source >>= pickFrom s with
  | .ok e => .ok e
  | .error k =>
    if k.isOwn then queried >>= fun found => elementOf c s found.1 found.2 (z.after c .source)
    else .error k

theorem fallback_decided {description : String} (hs : s.describe = .ok description)
    (htime : t.timing.enabled = true → t.exchange.TimeFinite c s.criteria.exactQuery.request)
    (hq : Queried c s t.exchange z queried) {o : Except Failure Element}
    (h : fallback c s t = (o, u)) : o = decided c s z queried := by
  obtain ⟨v, hv, hexchange⟩ := exactOrContains_ends htime hq
  obtain ⟨k, hk, _⟩ | ⟨queried', v', p, x, hv', hp, hend⟩ := fallback_inv h
  · cases hk.symm.trans hv
  cases hv'.symm.trans hv
  obtain ⟨k, hk, _, _⟩ | ⟨hx, hpage⟩ := byPage_inv hp
  · cases hk.symm.trans hs
  rw [hexchange] at hx hpage
  rw [decided, ← hpage]
  obtain ⟨rfl, _, hforeign⟩ | ⟨k, missed, rfl, hown, rfl, rfl, _⟩ | ⟨k, q, handle, y, rfl, hown, rfl, hy, hend⟩ :=
    hend
  · cases o with
    | ok e => rfl
    | error k => exact (if_neg (by simp [hforeign k rfl])).symm
  · exact (if_pos hown).symm
  · have ho : (ofHandle c s q handle y).1 = elementOf c s q handle y.exchange := ofHandle_fst
    rw [hend, hy, hx] at ho
    exact ho.trans (if_pos hown).symm

/-- After the queries for all elements no element is asked for, only the page and the properties of an
element. -/
theorem fallback_asks
    (htime : t.timing.enabled = true → t.exchange.TimeFinite c s.criteria.exactQuery.request)
    {o : Except Failure Element} (h : fallback c s t = (o, u)) :
    ∃ rest, u.exchange = t.exchange.afterAll c (s.criteria.exactQuery.request :: rest) ∧
      (s.criteria.containsQuery.request ∈ rest ↔
        t.exchange.misses c s.criteria.exactQuery.request = true) := by
  have hreads : AllowsReads (fun (_ : Exchange σ) r => r.isFind = false) := by
    intro _ r hr
    cases r <;> first | rfl | cases hr
  -- What is asked for after the two queries is another row, and no query is in it.
  have hrow : ∀ {v : World σ}, Leads c (fun _ r => r.isFind = false) v.exchange u.exchange →
      ∀ {p}, exactOrContains c s t = (p, v) →
      ∃ rest, u.exchange = t.exchange.afterAll c (s.criteria.exactQuery.request :: rest) ∧
        (s.criteria.containsQuery.request ∈ rest ↔
          t.exchange.misses c s.criteria.exactQuery.request = true) := by
    intro v hleads p hv
    obtain ⟨others, hothers, hall⟩ := hleads.exists_row
    have hnone : s.criteria.containsQuery.request ∉ others := by
      intro hmem
      rw [← map_asked (c := c) (x := v.exchange) others] at hmem
      obtain ⟨e, he, heq⟩ := List.mem_map.mp hmem
      have := hall e he
      rw [heq] at this
      cases this
    let second := if t.exchange.misses c s.criteria.exactQuery.request
      then [s.criteria.containsQuery.request] else []
    refine ⟨second ++ others, ?_, ?_⟩
    · rw [hothers, exactOrContains_asks htime hv, ← afterAll_append]
      rfl
    · simp only [second]
      cases t.exchange.misses c s.criteria.exactQuery.request <;> simp [hnone]
  obtain ⟨k, he, _⟩ | ⟨queried, v, p, x, he, hp, hend⟩ := fallback_inv h
  · exact hrow (.refl _) he
  have hx : Leads c (fun _ r => r.isFind = false) v.exchange x.exchange := byPage_leads rfl hp
  obtain ⟨_, rfl, _⟩ | ⟨_, _, _, _, _, _, rfl⟩ | ⟨_, q, handle, y, _, _, _, hy, hend⟩ := hend
  · exact hrow hx he
  · exact hrow hx he
  · rw [← hy] at hx
    exact hrow (hx.trans (ofHandle_leads hreads hend)) he

end Attempt

/-! ## Main result -/

open Attempt

theorem describe_of_isTapText (h : isTapText s = true) : ∃ description, s.describe = .ok description := by
  rw [isTapText, Bool.and_eq_true] at h
  obtain ⟨text, htext⟩ := Option.isSome_iff_exists.mp h.2
  exact ⟨text, Selector.describe_of_text htext⟩

theorem pickFrom_handle {r : Except Failure String} {e : Element} (h : r >>= pickFrom s = .ok e) :
    e.handle = none := by
  obtain ⟨source, -, h⟩ := except_bind_ok.mp h
  obtain ⟨description, -, h⟩ := except_bind_ok.mp h
  obtain ⟨page, -, h⟩ := except_bind_ok.mp h
  obtain ⟨n, -, h⟩ := except_bind_ok.mp h
  cases n with
  | none => cases h
  | some n =>
      cases h
      rfl

/-- After the queries for interactive elements have missed in time, the query for a part of the text is
sent exactly if the exact query misses. If the page gives the element, it is returned, without a handle.
If the page fails in the library's own way, the element of the handle is returned, labelled with the query
that found it; if neither query found one, the failure is that of the second. -/
theorem tap_decided_by_answers {f : Finder σ} {d : Deadline} {v : World σ} {g : Failure}
    {o : Except Failure Element} (htext : isTapText s = true) (hrelative : s.hasRelative = false)
    (hmiss : byQueries f.client s (some d) s.criteria.interactiveQueries t = (.error g, v))
    (hquery : g.isQuery = true) (hin : v.exchange.expired (some d) = false)
    (htime : v.timing.enabled = true → v.exchange.TimeFinite f.client s.criteria.exactQuery.request)
    (h : f.tapAttempt s d t = (o, u)) :
    (∃ rest, u.exchange = v.exchange.afterAll f.client (s.criteria.exactQuery.request :: rest) ∧
      (s.criteria.containsQuery.request ∈ rest ↔
        v.exchange.misses f.client s.criteria.exactQuery.request = true)) ∧
    ∀ z queried, Queried f.client s v.exchange z queried →
      (∀ e, z.answer f.client .source >>= pickFrom s = .ok e → o = .ok e ∧ e.handle = none) ∧
      ∀ k, z.answer f.client .source >>= pickFrom s = .error k →
        (k.isOwn = false → o = .error k) ∧
        (k.isOwn = true →
          (∀ q handle, queried = .ok (q, handle) →
            o = elementOf f.client s q handle (z.after f.client .source) ∧
            (f.client.FailsByQuery → ∃ e, o = .ok e) ∧
            ∀ e, o = .ok e → e.handle = some handle ∧ e.origin.strategy = q.name ∧
              e.origin.locator = some q.value) ∧
          ∀ missed, queried = .error missed → o = .error missed) := by
  have hrun : fallback f.client s v = (o, u) := by
    have htap : f.tapAttempt s d = tap f.client s (some d) := by
      simp [tapAttempt, hrelative, htext]
    rw [htap, tap_eq, queriesOr_run hmiss] at h
    simpa [hquery, hin] using h
  obtain ⟨description, hs⟩ := describe_of_isTapText htext
  refine ⟨fallback_asks htime hrun, fun z queried hq => ?_⟩
  have ho := fallback_decided hs htime hq hrun
  rw [decided] at ho
  refine ⟨fun e he => ?_, fun k hk => ⟨fun hforeign => ?_, fun hown => ⟨?_, ?_⟩⟩⟩
  · rw [he] at ho
    exact ⟨ho, pickFrom_handle he⟩
  · rw [hk] at ho
    simpa [hforeign] using ho
  · rintro q handle rfl
    rw [hk] at ho
    replace ho : o = elementOf f.client s q handle (z.after f.client .source) := ho.trans (if_pos hown)
    refine ⟨ho, fun hc => ?_, fun e he => elementOf_eq_ok (ho.symm.trans he)⟩
    rw [ho]
    exact exists_elementOf hc hs
  · rintro missed rfl
    rw [hk] at ho
    exact ho.trans (if_pos hown)

theorem tap_decided_by_answers_password :
    let s := Selector.ofText "Password"
    let f : Finder Unit := { client := pageClient s.criteria.exactQuery "<App/>" }
    let d : Deadline := ⟨10.0, 0.0, false⟩
    let t : World Unit := { client := (), wall := ⟨"", ""⟩ }
    isTapText s = true ∧ s.hasRelative = false ∧ ∃ g v o u,
      byQueries f.client s (some d) s.criteria.interactiveQueries t = (.error g, v) ∧
      g.isQuery = true ∧ v.exchange.expired (some d) = false ∧
      (v.timing.enabled = true → v.exchange.TimeFinite f.client s.criteria.exactQuery.request) ∧
      f.tapAttempt s d t = (o, u) ∧
      (∃ rest, u.exchange = v.exchange.afterAll f.client (s.criteria.exactQuery.request :: rest) ∧
        (s.criteria.containsQuery.request ∈ rest ↔
          v.exchange.misses f.client s.criteria.exactQuery.request = true)) ∧
      ∀ z queried, Queried f.client s v.exchange z queried →
        (∀ e, z.answer f.client .source >>= pickFrom s = .ok e → o = .ok e ∧ e.handle = none) ∧
        ∀ k, z.answer f.client .source >>= pickFrom s = .error k →
          (k.isOwn = false → o = .error k) ∧
          (k.isOwn = true →
            (∀ q handle, queried = .ok (q, handle) →
              o = elementOf f.client s q handle (z.after f.client .source) ∧
              (f.client.FailsByQuery → ∃ e, o = .ok e) ∧
              ∀ e, o = .ok e → e.handle = some handle ∧ e.origin.strategy = q.name ∧
                e.origin.locator = some q.value) ∧
            ∀ missed, queried = .error missed → o = .error missed) := by
  intro s f d t
  rcases hmiss : byQueries f.client s (some d) s.criteria.interactiveQueries t with ⟨r, v⟩
  have hquery : (match (byQueries f.client s (some d) s.criteria.interactiveQueries t).1 with
      | .ok _ => false
      | .error g => g.isQuery) = true := by decide +kernel
  have hin : (byQueries f.client s (some d) s.criteria.interactiveQueries t).2.exchange.expired (some d) =
      false := by decide +kernel
  have hdisabled : (byQueries f.client s (some d) s.criteria.interactiveQueries t).2.timing.enabled =
      false := by decide +kernel
  rw [hmiss] at hquery hin hdisabled
  have htime : v.timing.enabled = true → v.exchange.TimeFinite f.client s.criteria.exactQuery.request :=
    fun henabled => Bool.noConfusion (henabled.symm.trans hdisabled)
  cases r with
  | ok e => cases hquery
  | error g =>
      exact ⟨by decide, by decide, g, v, _, _, rfl, hquery, hin, htime, rfl,
        tap_decided_by_answers (by decide) (by decide) hmiss hquery hin htime rfl⟩

end ElementFinder
