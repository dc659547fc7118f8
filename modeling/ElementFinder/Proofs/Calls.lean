import ElementFinder.Finder.Basic
import ElementFinder.Proofs.Attempt
import ElementFinder.Proofs.Polling

/-!
# How a call goes on

Each call begins with a clean cancel mark, makes its deadline from the present moment, and then
searches. What it sends is what the attempts of its search send.
-/

namespace ElementFinder

open Run Exchange

variable {σ : Type}

/-- The exchange at the beginning of a call: it is not cancelled yet. -/
def Exchange.begun (x : Exchange σ) : Exchange σ := { x with cancelled := false }

@[simp] theorem Exchange.sent_begun (x : Exchange σ) : x.begun.sent = x.sent := rfl

/-- The state at the beginning of a call: it is not cancelled yet, and there are no notes on it. -/
def World.begun (w : World σ) : World σ := { w with cancelled := false, notes := {} }

@[simp] theorem World.now_begun (w : World σ) : w.begun.now = w.now := rfl

namespace Finder

variable {c : Client σ} {allowed : Exchange σ → Request → Prop} {f : Finder σ}
  {configured : Timeouts} {rounds : Nat} {s : Selector} {d : Deadline} {limit : Limit}
  {attempt : Work σ Element} {keeping : Keeping} {t u w : World σ}

/-! ## Searches -/

theorem fresh_inv {o : Except Failure Element} (h : fresh attempt t = (o, u)) :
    ∃ v, v.exchange = t.exchange ∧ attempt v = (o, u) :=
  ⟨{ t with notes := { t.notes with attempts := [] } }, rfl, h⟩

theorem keeping_quiet (description : String) (keeping : Keeping) :
    Quiet (keeping.run description : Work σ (List (String × String))) := by
  cases keeping with
  | keep directory label => exact fun _ => rfl
  | drop => exact Quiet.pure _

theorem search_forResult {r : Except Stop Element}
    (h : search rounds s d attempt keeping w = (r, u)) :
    (u.exchange = w.exchange ∧ ∃ stop, r = .error stop) ∨
      ∃ description t o v, t.exchange = w.exchange ∧
        Poll.forResult rounds (fresh attempt) d description Failure.isOwn t = (o, v) ∧
        u.exchange = v.exchange ∧ ∀ e, r = .ok e → o = .ok e := by
  have hdescribe := Call.ofWork_quiet (Work.ofExcept_quiet (σ := σ) s.describe)
  have hrecord : ∀ level message, Quiet (Call.ofWork (Work.record level message) : Call σ Unit) :=
    fun level message => Call.ofWork_quiet (Work.record_quiet level message)
  obtain ⟨stop, hrun, hr⟩ | ⟨description, t, hrun, h⟩ := bind_inv h
  · exact Or.inl ⟨hdescribe.exchange_eq hrun, stop, hr⟩
  have ht := hdescribe.exchange_eq hrun
  obtain ⟨stop, hrun, hr⟩ | ⟨_, t, hrun, h⟩ := bind_inv h
  · exact Or.inl ⟨((hrecord _ _).exchange_eq hrun).trans ht, stop, hr⟩
  replace ht := ((hrecord _ _).exchange_eq hrun).trans ht
  obtain ⟨stop, hrun, hr⟩ | ⟨p, v, hrun, h⟩ := bind_inv h
  · obtain ⟨_, _, hstop⟩ | ⟨_, _, hstop⟩ | ⟨hloop, _⟩ := Call.attempt_inv hrun
    · cases hstop
    · cases hstop
    · exact Or.inr ⟨description, t, _, u, ht, hloop, rfl, by simp [hr]⟩
  -- What comes after the polling hangs on its result, but it asks nothing in any case.
  obtain ⟨e, hloop, hp⟩ | ⟨f, hloop, hp⟩ | ⟨_, hp⟩ := Call.attempt_inv hrun
  · cases hp
    refine Or.inr ⟨description, t, _, v, ht, hloop, ?_⟩
    obtain ⟨stop, hrun, hr⟩ | ⟨_, x, hrun, h⟩ := bind_inv h
    · exact ⟨(hrecord _ _).exchange_eq hrun, by simp [hr]⟩
    · cases h
      exact ⟨(hrecord _ _).exchange_eq hrun, fun _ he => by cases he; rfl⟩
  · cases hp
    refine Or.inr ⟨description, t, _, v, ht, hloop, ?_⟩
    suffices hfails : u.exchange = v.exchange ∧ ∃ stop, r = .error stop by
      obtain ⟨hu, stop, rfl⟩ := hfails
      exact ⟨hu, by simp⟩
    cases f with
    | deadline text wrapped about timeout count elapsed attempts artifacts =>
        obtain ⟨_, hrun, _⟩ | ⟨x, _, hrun, h⟩ := bind_inv h
        · cases hrun
        cases hrun
        obtain ⟨stop, hrun, hr⟩ | ⟨kept, x, hrun, h⟩ := bind_inv h
        · exact ⟨(Call.ofWork_quiet (keeping_quiet _ _)).exchange_eq hrun, stop, hr⟩
        have hx := (Call.ofWork_quiet (keeping_quiet _ _)).exchange_eq hrun
        obtain ⟨stop, hrun, hr⟩ | ⟨_, y, hrun, h⟩ := bind_inv h
        · exact ⟨((hrecord _ _).exchange_eq hrun).trans hx, stop, hr⟩
        · cases h
          exact ⟨((hrecord _ _).exchange_eq hrun).trans hx, _, rfl⟩
    | _ =>
        cases h
        exact ⟨rfl, _, rfl⟩
  · cases hp

/-- A search goes through failed attempts. It ends without a result where it looks at the deadline,
or with the end of one more attempt. -/
theorem search_inv {r : Except Stop Element} (h : search rounds s d attempt keeping w = (r, u)) :
    ∃ t z, t.exchange = w.exchange ∧
      Relation.ReflTransGen (Poll.Retries (fresh attempt) Failure.isOwn d) ⟨t, 0, none⟩ z ∧
      ((u.exchange = z.world.exchange ∧ ∃ stop, r = .error stop) ∨
        z.world.exchange.expired (some d) = false ∧ ∃ o v, fresh attempt z.world = (o, v) ∧
          u.exchange = v.exchange ∧ ∀ e, r = .ok e → o = .ok e) := by
  obtain ⟨hu, hr⟩ | ⟨description, x, p, y, hx, hpoll, hu, hr⟩ := search_forResult h
  · exact ⟨w, _, rfl, .refl, Or.inl ⟨hu, hr⟩⟩
  obtain ⟨t, z, ht, hz, ⟨hy, stop, rfl⟩ | ⟨hin, o, v, ho, hy, hp⟩⟩ := Poll.forResult_inv hpoll
  · refine ⟨t, z, ht.trans hx, hz, Or.inl ⟨hu.trans hy, ?_⟩⟩
    cases r with
    | error stop => exact ⟨stop, rfl⟩
    | ok e => cases hr e rfl
  · exact ⟨t, z, ht.trans hx, hz, Or.inr ⟨hin, o, v, ho, hu.trans hy, fun e he => hp e (hr e he)⟩⟩

/-- Whatever is allowed in each attempt that a search begins in time leads to its end: to a look at
the deadline, or to one more attempt. -/
theorem search_ends
    (hattempt : ∀ t v o, Leads c allowed w.exchange t.exchange →
      t.exchange.expired (some d) = false → attempt t = (o, v) →
      Leads c allowed t.exchange v.exchange)
    {r : Except Stop Element} (h : search rounds s d attempt keeping w = (r, u)) :
    ∃ z, Leads c allowed w.exchange z.exchange ∧
      ((u.exchange = z.exchange ∧ ∃ stop, r = .error stop) ∨
        z.exchange.expired (some d) = false ∧ ∃ o v, attempt z = (o, v) ∧
          u.exchange = v.exchange ∧ ∀ e, r = .ok e → o = .ok e) := by
  obtain ⟨t, z, ht, hz, hend⟩ := search_inv h
  have hstart : Leads c allowed w.exchange t.exchange := ht ▸ .refl _
  have hrounds : Leads c allowed w.exchange z.world.exchange := by
    refine Poll.rounds_leads ?_ hstart hz
    rintro a b ha ⟨hin, f, v, hrun, _, rfl⟩
    obtain ⟨y, hy, hrun⟩ := fresh_inv hrun
    rw [← hy] at ha hin ⊢
    exact hattempt y v _ ha hin hrun
  obtain hlook | ⟨hin, o, v, hrun, hu, hr⟩ := hend
  · exact ⟨z.world, hrounds, Or.inl hlook⟩
  · obtain ⟨y, hy, hrun⟩ := fresh_inv hrun
    rw [← hy] at hrounds hin
    exact ⟨y, hrounds, Or.inr ⟨hin, o, v, hrun, hu, hr⟩⟩

theorem search_leads
    (hattempt : ∀ t v o, Leads c allowed w.exchange t.exchange →
      t.exchange.expired (some d) = false → attempt t = (o, v) →
      Leads c allowed t.exchange v.exchange)
    {r : Except Stop Element} (h : search rounds s d attempt keeping w = (r, u)) :
    Leads c allowed w.exchange u.exchange := by
  obtain ⟨z, hz, ⟨hu, _⟩ | ⟨hin, o, v, hrun, hu, _⟩⟩ := search_ends hattempt h
  · rwa [hu]
  · rw [hu]
    exact hz.trans (hattempt z v o hz hin hrun)

/-- A search that makes an attempt goes on from what its first attempt begins with. -/
theorem search_begins {x : Exchange σ}
    (hbegin : ∀ t v o, t.exchange = w.exchange → t.exchange.expired (some d) = false →
      attempt t = (o, v) → Leads c allowed x v.exchange)
    (hattempt : ∀ t v o, attempt t = (o, v) → Leads c allowed t.exchange v.exchange)
    {r : Except Stop Element} (h : search rounds s d attempt keeping w = (r, u)) :
    (u.exchange = w.exchange ∧ ∃ stop, r = .error stop) ∨ Leads c allowed x u.exchange := by
  have hfirst : ∀ t v o, t.exchange = w.exchange → t.exchange.expired (some d) = false →
      fresh attempt t = (o, v) → Leads c allowed x v.exchange := by
    intro t v o ht hin hrun
    obtain ⟨y, hy, hrun⟩ := fresh_inv hrun
    exact hbegin y v o (hy.trans ht) (hy ▸ hin) hrun
  have hfresh : ∀ t v o, fresh attempt t = (o, v) → Leads c allowed t.exchange v.exchange := by
    intro t v o hrun
    obtain ⟨y, hy, hrun⟩ := fresh_inv hrun
    exact hy ▸ hattempt y v o hrun
  obtain ⟨t, z, ht, hz, hend⟩ := search_inv h
  obtain rfl | ⟨b, ⟨hin, f, v, hrun, _, rfl⟩, hz⟩ := hz.cases_head
  · obtain ⟨hu, hr⟩ | ⟨hin, o, v, hrun, hu, _⟩ := hend
    · exact Or.inl ⟨hu.trans ht, hr⟩
    · exact Or.inr (hu ▸ hfirst t v o ht hin hrun)
  · right
    have hrounds : Leads c allowed x z.world.exchange := by
      refine Poll.rounds_leads ?_ (hfirst t v _ ht hin hrun) hz
      rintro a b - ⟨_, f, v, hrun, _, rfl⟩
      exact hfresh a.world v _ hrun
    obtain ⟨hu, _⟩ | ⟨_, o, v, hrun, hu, _⟩ := hend
    · rwa [hu]
    · rw [hu]
      exact hrounds.trans (hfresh z.world v o hrun)

/-- A search whose deadline has expired before it begins sends nothing. -/
theorem search_expired (hd : w.exchange.expired (some d) = true) {r : Except Stop Element}
    (h : search rounds s d attempt keeping w = (r, u)) : u.exchange = w.exchange := by
  obtain ⟨t, z, ht, hz, hend⟩ := search_inv h
  rw [← ht] at hd ⊢
  have hz : z = ⟨t, 0, none⟩ := by
    obtain rfl | ⟨b, ⟨hin, _⟩, _⟩ := hz.cases_head
    · rfl
    · simp [hd] at hin
  subst hz
  obtain ⟨hu, _⟩ | ⟨hin, _⟩ := hend
  · exact hu
  · simp [hd] at hin

/-! ## Ways to call -/

/-- The deadline of a call that begins at a moment. -/
def deadlineAt (f : Finder σ) (configured : Timeouts) (now : Float) :
    Limit → Except Failure Deadline
  | .untilDeadline d => .ok d
  | .usual optional milliseconds =>
    f.timeout configured optional milliseconds >>= fun seconds => Deadline.ofSeconds seconds now

theorem deadline_run :
    (f.deadline configured limit : Work σ Deadline) t = (f.deadlineAt configured t.now limit, t) := by
  cases limit with
  | untilDeadline d => rfl
  | usual optional milliseconds =>
      rw [deadline, deadlineAt]
      cases ht : f.timeout configured optional milliseconds with
      | error e => rfl
      | ok seconds =>
          show Work.ofExcept _ t = _
          rw [Work.ofExcept_run]
          rfl

/-- The deadline of a question for presence that begins at a moment. -/
def presenceDeadline (configured : Timeouts) (now : Float) : Option Int → Except Failure Deadline
  | none => Deadline.ofSeconds (configured.get .findQuick) now
  | some ms => Deadline.ofMillis (.int ms) now

/-- A call fails before its search, or its search begins where the call has begun. -/
def Searches (rounds : Nat) (deadline : Except Failure Deadline) (s : Selector)
    (attempt : Deadline → Work σ Element) (w u : World σ) (r : Except Stop Element) : Prop :=
  (u.exchange = w.exchange.begun ∧ ∃ stop, r = .error stop) ∨
    ∃ d t v keeping, deadline = .ok d ∧ t.exchange = w.exchange.begun ∧
      search rounds s d (attempt d) keeping t = (r, v) ∧ u.exchange = v.exchange

section

variable {deadline : Except Failure Deadline} {attempts : Deadline → Work σ Element}
  {r : Except Stop Element}

theorem Searches.leads
    (hattempt : ∀ d t v o, deadline = .ok d → Leads c allowed w.exchange.begun t.exchange →
      t.exchange.expired (some d) = false → attempts d t = (o, v) →
      Leads c allowed t.exchange v.exchange)
    (h : Searches rounds deadline s attempts w u r) :
    Leads c allowed w.exchange.begun u.exchange := by
  obtain ⟨hu, _⟩ | ⟨d, t, v, keeping, hd, ht, h, hu⟩ := h
  · rw [hu]
    exact .refl _
  · rw [hu, ← ht]
    refine search_leads (fun t v o hreach => ?_) h
    rw [ht] at hreach
    exact hattempt d t v o hd hreach

/-- A call that returns an element has found it in an attempt that was begun in time. -/
theorem Searches.found
    (hattempt : ∀ d t v o, deadline = .ok d → Leads c allowed w.exchange.begun t.exchange →
      t.exchange.expired (some d) = false → attempts d t = (o, v) →
      Leads c allowed t.exchange v.exchange)
    {e : Element} (h : Searches rounds deadline s attempts w u (.ok e)) :
    ∃ d t v, deadline = .ok d ∧ Leads c allowed w.exchange.begun t.exchange ∧
      t.exchange.expired (some d) = false ∧ attempts d t = (.ok e, v) ∧
      u.exchange = v.exchange := by
  obtain ⟨_, stop, hr⟩ | ⟨d, t, v, keeping, hd, ht, h, hu⟩ := h
  · cases hr
  obtain ⟨z, hz, ⟨_, _, hr⟩ | ⟨hin, o, x, hrun, hx, hr⟩⟩ :=
    search_ends (fun t v o hreach => hattempt d t v o hd (ht ▸ hreach)) h
  · cases hr
  · rw [ht] at hz
    exact ⟨d, z, x, hd, hz, hin, hr e rfl ▸ hrun, hu.trans hx⟩

/-- A call whose deadline has expired before it begins sends nothing. -/
theorem Searches.expired (hd : deadline = .ok d) (hpast : w.exchange.begun.expired (some d) = true)
    (h : Searches rounds deadline s attempts w u r) : u.exchange = w.exchange.begun := by
  obtain ⟨hu, _⟩ | ⟨d', t, v, keeping, hd', ht, h, hu⟩ := h
  · exact hu
  · cases hd.symm.trans hd'
    rw [hu, search_expired (ht ▸ hpast) h, ht]

theorem Searches.failed {e : Failure} (hd : deadline = .error e)
    (h : Searches rounds deadline s attempts w u r) : u.exchange = w.exchange.begun := by
  obtain ⟨hu, _⟩ | ⟨d, _, _, _, hd', _⟩ := h
  · exact hu
  · cases hd.symm.trans hd'

end

theorem startCall_bind {α : Type} {k : Unit → Call σ α} :
    (Call.ofWork startCall >>= k) w = k () w.begun := rfl

theorem find_run : f.find configured rounds s limit w =
    match f.deadlineAt configured w.now limit with
    | .ok d => search rounds s d (Attempt.standard f.client s (some d))
        (.keep f.artifactsDirectory none) w.begun
    | .error e => (.error (.failed e), w.begun) := by
  rw [find, startCall_bind, Call.ofWork_bind_run deadline_run, World.now_begun]
  cases f.deadlineAt configured w.now limit <;> rfl

/-- What a call comes to once it has begun. -/
theorem searches_of_run {deadline : Except Failure Deadline} {attempts : Deadline → Work σ Element}
    {r : Except Stop Element}
    (h : (match deadline with
      | .ok d => search rounds s d (attempts d) keeping w.begun
      | .error e => (.error (.failed e), w.begun)) = (r, u)) :
    Searches rounds deadline s attempts w u r := by
  cases deadline with
  | ok d => exact Or.inr ⟨d, w.begun, u, keeping, rfl, rfl, h, rfl⟩
  | error e =>
      cases h
      exact Or.inl ⟨rfl, _, rfl⟩

theorem find_searches {r : Except Stop Element}
    (h : f.find configured rounds s limit w = (r, u)) :
    Searches rounds (f.deadlineAt configured w.now limit) s
      (fun d => Attempt.standard f.client s (some d)) w u r :=
  searches_of_run (find_run ▸ h)

/-- The attempts before a tap. -/
def tapAttempt (f : Finder σ) (s : Selector) (d : Deadline) : Work σ Element :=
  if s.hasRelative then Attempt.byRelation f.client s
  else if isTapText s then Attempt.tap f.client s (some d)
  else Attempt.standard f.client s (some d)

theorem findForTap_run : f.findForTap configured rounds s limit w =
    match f.deadlineAt configured w.now limit with
    | .ok d => search rounds s d (f.tapAttempt s d) (.keep f.artifactsDirectory none) w.begun
    | .error e => (.error (.failed e), w.begun) := by
  rw [findForTap, startCall_bind, Call.ofWork_bind_run deadline_run, World.now_begun]
  cases f.deadlineAt configured w.now limit <;> rfl

theorem findForTap_searches {r : Except Stop Element}
    (h : f.findForTap configured rounds s limit w = (r, u)) :
    Searches rounds (f.deadlineAt configured w.now limit) s (f.tapAttempt s) w u r :=
  searches_of_run (findForTap_run ▸ h)

section

variable {m : ObjectMap} {name bindings : Value} {r : Except Stop Element}

/-- What happens to the last page of a search for a name that is written in a way. -/
def namedKeeping (f : Finder σ) (settings : MapSettings) (label : String) : Keeping :=
  let own := f.artifactsDirectory.filter (!·.isEmpty)
  .keep (own.orElse fun _ => settings.artifactsDirectory) (some ("element_" ++ label))

theorem findNamed_run (hs : m.selector name bindings = .ok s) :
    f.findNamed configured rounds m name bindings limit w =
      match f.deadlineAt configured w.now (f.namedLimit m.settings limit) with
      | .ok d =>
        match name.writeOrFail with
        | .ok label => search rounds s d (Attempt.standard f.client s (some d))
            (f.namedKeeping m.settings label) w.begun
        | .error e => (.error (.failed e), w.begun)
      | .error e => (.error (.failed e), w.begun) := by
  rw [findNamed, startCall_bind, Call.ofWork_bind_run (Work.ofExcept_run _), hs]
  dsimp only
  rw [Call.ofWork_bind_run deadline_run, World.now_begun]
  cases f.deadlineAt configured w.now (f.namedLimit m.settings limit) with
  | ok d =>
      dsimp only
      rw [Call.ofWork_bind_run (Work.ofExcept_run _)]
      cases name.writeOrFail <;> rfl
  | error e => rfl

theorem findNamed_searches (hs : m.selector name bindings = .ok s)
    (h : f.findNamed configured rounds m name bindings limit w = (r, u)) :
    Searches rounds (f.deadlineAt configured w.now (f.namedLimit m.settings limit)) s
      (fun d => Attempt.standard f.client s (some d)) w u r := by
  rw [findNamed_run hs] at h
  cases hlabel : name.writeOrFail with
  | ok label =>
      rw [hlabel] at h
      exact searches_of_run h
  | error e =>
      rw [hlabel] at h
      split at h <;> (cases h; exact Or.inl ⟨rfl, _, rfl⟩)

/-- A call for a name without a selector sends nothing. -/
theorem findNamed_unnamed {g : Failure} (hs : m.selector name bindings = .error g)
    (h : f.findNamed configured rounds m name bindings limit w = (r, u)) :
    u.exchange = w.exchange.begun := by
  rw [findNamed, startCall_bind, Call.ofWork_bind_run (Work.ofExcept_run _), hs] at h
  cases h
  rfl

end

theorem findOnce_inv {o : Except Failure Element} (h : f.findOnce s w = (o, u)) :
    ∃ t, t.exchange = w.exchange.begun ∧ Attempt.standard f.client s none t = (o, u) :=
  ⟨{ w with cancelled := false, notes := {} }, rfl, h⟩

theorem presence_quiet (s : Selector) (r : Except Failure Element) :
    Quiet (presence s r : Work σ Bool) := by
  cases r with
  | ok e => exact Quiet.pure _
  | error e =>
      rw [presence]
      split
      · exact (Work.ofExcept_quiet _).bind fun _ => (Work.record_quiet _ _).bind fun _ =>
          Quiet.pure _
      · exact Quiet.throw _

/-- A question for presence is one ordinary attempt without a deadline. -/
theorem isPresent_inv {o : Except Failure Bool} (h : f.isPresent s t = (o, u)) :
    ∃ x v p, x.exchange = t.exchange ∧ Attempt.standard f.client s none x = (p, v) ∧
      u.exchange = v.exchange := by
  obtain ⟨_, hm, _⟩ | ⟨_, x, hm, h⟩ := bind_inv h
  · cases hm
  have hx : x.exchange = t.exchange := by
    cases hm
    rfl
  obtain ⟨p, v, hp, h⟩ := Work.bind_attempt_inv h
  exact ⟨x, v, p, hx, hp, (presence_quiet s p).exchange_eq h⟩

theorem appears_run {milliseconds : Option Int} :
    f.appears configured rounds s milliseconds w =
      match presenceDeadline configured w.now milliseconds with
      | .ok d =>
        if 0.0 < d.timeout then
          ((search rounds s d (Attempt.standard f.client s (some d)) .drop).attempt >>= fun r =>
            Call.ofWork (presence s r)) w.begun
        else Call.ofWork (f.isPresent s) w.begun
      | .error e => (.error (.failed e), w.begun) := by
  have hnow : ∀ k : Float → Call σ Bool, (Call.ofWork Work.now >>= k) w.begun = k w.now w.begun :=
    fun _ => rfl
  rw [appears, startCall_bind, hnow, Call.ofWork_bind_run
    (o := presenceDeadline configured w.now milliseconds)
    (by cases milliseconds <;> exact Work.ofExcept_run _)]
  cases presenceDeadline configured w.now milliseconds with
  | ok d =>
      dsimp only
      split <;> rfl
  | error e => rfl

/-- A call that asks whether the element is there searches if it may wait, and asks once if not. -/
theorem appears_inv {milliseconds : Option Int} {r : Except Stop Bool}
    (h : f.appears configured rounds s milliseconds w = (r, u)) :
    (∃ o, Searches rounds (presenceDeadline configured w.now milliseconds) s
        (fun d => Attempt.standard f.client s (some d)) w u o) ∨
      ∃ d x v p, presenceDeadline configured w.now milliseconds = .ok d ∧ ¬0.0 < d.timeout ∧
        x.exchange = w.exchange.begun ∧ Attempt.standard f.client s none x = (p, v) ∧
        u.exchange = v.exchange := by
  rw [appears_run] at h
  cases hd : presenceDeadline configured w.now milliseconds with
  | error e =>
      rw [hd] at h
      cases h
      exact Or.inl ⟨.error .unfinished, Or.inl ⟨rfl, _, rfl⟩⟩
  | ok d =>
      rw [hd] at h
      dsimp only at h
      split at h
      · left
        obtain ⟨_, hrun, _⟩ | ⟨p, v, hrun, h⟩ := bind_inv h
        · obtain ⟨o, hsearch⟩ := Call.exists_of_attempt hrun
          exact ⟨o, Or.inr ⟨d, _, u, _, rfl, rfl, hsearch, rfl⟩⟩
        · obtain ⟨o, hsearch⟩ := Call.exists_of_attempt hrun
          have hu := (Call.ofWork_quiet (presence_quiet s p)).exchange_eq h
          exact ⟨o, Or.inr ⟨d, _, v, _, rfl, rfl, hsearch, hu⟩⟩
      · next hwait =>
        right
        obtain ⟨o, hp, _⟩ := Call.ofWork_toOption h
        obtain ⟨x, v, p, hx, hrun, hu⟩ := isPresent_inv hp
        exact ⟨d, x, v, p, rfl, hwait, hx, hrun, hu⟩

/-- The deadline of a call that waits for an element to go and begins at a moment. -/
def goneDeadline (configured : Timeouts) (now : Float) (milliseconds : Int) :
    Except Failure Deadline :=
  if 0 < milliseconds then Deadline.ofMillis (.int milliseconds) now
  else Deadline.ofSeconds (configured.get .elementGone) now

theorem awaitGone_run {milliseconds : Int} :
    f.awaitGone configured rounds s milliseconds w =
      match goneDeadline configured w.now milliseconds with
      | .ok d =>
        match s.describe with
        | .ok description => Poll.forNo rounds (f.isPresent s) d
            ("element \x27" ++ description ++ "\x27 to disappear") w.begun
        | .error e => (.error (.failed e), w.begun)
      | .error e => (.error (.failed e), w.begun) := by
  have hnow : ∀ k : Float → Call σ Unit, (Call.ofWork Work.now >>= k) w.begun = k w.now w.begun :=
    fun _ => rfl
  rw [awaitGone, startCall_bind, hnow, Call.ofWork_bind_run
    (o := goneDeadline configured w.now milliseconds) (by exact Work.ofExcept_run _)]
  cases goneDeadline configured w.now milliseconds with
  | ok d =>
      dsimp only
      rw [Call.ofWork_bind_run (Work.ofExcept_run _)]
      cases s.describe <;> rfl
  | error e => rfl

/-- A call that waits for an element to go asks for it again and again. -/
theorem awaitGone_leads {milliseconds : Int} {r : Except Stop Unit}
    (hask : ∀ t v o, Leads c allowed w.exchange.begun t.exchange →
      Attempt.standard f.client s none t = (o, v) → Leads c allowed t.exchange v.exchange)
    (h : f.awaitGone configured rounds s milliseconds w = (r, u)) :
    Leads c allowed w.exchange.begun u.exchange := by
  have hpresent : ∀ t v o, Leads c allowed w.exchange.begun t.exchange →
      f.isPresent s t = (o, v) → Leads c allowed t.exchange v.exchange := by
    intro t v o ht hrun
    obtain ⟨x, y, p, hx, hrun, hv⟩ := isPresent_inv hrun
    rw [hv, ← hx]
    exact hask x y p (hx ▸ ht) hrun
  rw [awaitGone_run] at h
  split at h
  · split at h
    · obtain ⟨x, z, hx, hz, hend⟩ := Poll.forNo_inv h
      have hrounds : Leads c allowed w.exchange.begun z.world.exchange := by
        refine Poll.rounds_leads ?_ (by rw [hx]; exact .refl _) hz
        rintro a b ha ⟨_, v, hrun, rfl⟩
        exact hpresent a.world v _ ha hrun
      obtain hu | ⟨_, o, v, hrun, hu⟩ := hend
      · rwa [hu]
      · rw [hu]
        exact hrounds.trans (hpresent z.world v o hrounds hrun)
    · cases h
      exact .refl _
  · cases h
    exact .refl _

end Finder

end ElementFinder
