import ElementFinder.Proofs.Moment
import ElementFinder.Waiting.World
import Mathlib.Logic.Relation

/-!
# The exchange with a client

Of all that a search sees and changes, only requests touch the client, the clock, the cancel mark and
the list of sent requests. This part of the state is the exchange. A run leads from one exchange to
another by requests, each of which is allowed where it is sent.
-/

namespace ElementFinder

/-- What requests change: the client, the clock, the cancel mark and what was sent. -/
structure Exchange (σ : Type) where
  client : σ
  now : Float
  cancelled : Bool
  sent : List Sent

/-- The exchange of a state. -/
def World.exchange {σ : Type} (s : World σ) : Exchange σ := ⟨s.client, s.now, s.cancelled, s.sent⟩

@[simp] theorem World.sent_exchange {σ : Type} (s : World σ) : s.exchange.sent = s.sent := rfl

/-- The request asks for an element. -/
def Request.isFind : Request → Bool
  | .find _ _ => true
  | _ => false

/-- The deadline had passed or was cancelled when the request was sent. -/
def Sent.isLate (e : Sent) (d : Deadline) : Bool :=
  (if e.cancelled then d.cancel else d).expired e.moment

/-- The clock never moves backwards while a request is answered. -/
def Client.Steady {σ : Type} (c : Client σ) : Prop :=
  ∀ r u t, t ≤ t → t ≤ (c.ask r u t).now

namespace Exchange

variable {σ : Type} {c : Client σ} {x y z : Exchange σ} {r : Request} {d : Deadline}

/-- The request as it is noted when it is sent. -/
def noted (r : Request) (x : Exchange σ) : Sent := ⟨r, x.now, x.cancelled⟩

/-- The answer to a request. -/
def answer (c : Client σ) (r : Request) (x : Exchange σ) : Except Failure r.Answer :=
  (c.ask r x.client x.now).outcome

/-- The exchange after one more request. -/
def after (c : Client σ) (r : Request) (x : Exchange σ) : Exchange σ :=
  let trip := c.ask r x.client x.now
  ⟨trip.client, trip.now, x.cancelled || trip.cancels, x.sent ++ [noted r x]⟩

/-- The deadline has passed or was cancelled; without a deadline there is nothing to pass. -/
def expired (x : Exchange σ) : Option Deadline → Bool
  | none => false
  | some d => (if x.cancelled then d.cancel else d).expired x.now

@[simp] theorem sent_after : (x.after c r).sent = x.sent ++ [noted r x] := rfl

@[simp] theorem request_noted : (noted r x).request = r := rfl

@[simp] theorem isLate_noted : (noted r x).isLate d = x.expired (some d) := rfl

theorem expired_iff : x.expired (some d) = true ↔
    d.cancelled = true ∨ x.cancelled = true ∨ d.finish ≤ x.now := by
  cases h : x.cancelled <;> simp [expired, h, Deadline.expired_iff]

theorem cancelled_eq_false (h : x.expired (some d) = false) : x.cancelled = false := by
  cases hx : x.cancelled with
  | false => rfl
  | true => simp [expired_iff.mpr (Or.inr (Or.inl hx))] at h

/-- With a steady clock no request brings an expired deadline back. -/
theorem expired_after (hc : c.Steady) (h : x.expired (some d) = true) :
    (x.after c r).expired (some d) = true := by
  rcases expired_iff.mp h with hd | hx | hf
  · exact expired_iff.mpr (Or.inl hd)
  · exact expired_iff.mpr (Or.inr (Or.inl (by simp [after, hx])))
  · refine expired_iff.mpr (Or.inr (Or.inr (Moment.le_trans hf ?_)))
    exact hc r x.client x.now (Moment.le_self_of_le hf)

/-! ## Runs -/

variable {allowed : Exchange σ → Request → Prop}

/-- From one exchange to another by requests that are all allowed where they are sent. -/
def Leads (c : Client σ) (allowed : Exchange σ → Request → Prop) :
    Exchange σ → Exchange σ → Prop :=
  Relation.ReflTransGen fun x y => ∃ r, allowed x r ∧ y = x.after c r

namespace Leads

theorem refl (x : Exchange σ) : Leads c allowed x x := Relation.ReflTransGen.refl

theorem trans (h : Leads c allowed x y) (h' : Leads c allowed y z) : Leads c allowed x z :=
  Relation.ReflTransGen.trans h h'

theorem tail (h : Leads c allowed x y) (hr : allowed y r) : Leads c allowed x (y.after c r) :=
  Relation.ReflTransGen.tail h ⟨r, hr, rfl⟩

theorem single (hr : allowed x r) : Leads c allowed x (x.after c r) := (refl x).tail hr

/-- What was sent on the way, with the exchange in which each request was sent. -/
theorem history (h : Leads c allowed x y) :
    ∃ new, y.sent = x.sent ++ new ∧ ∀ before e after, new = before ++ e :: after →
      ∃ z r, e = noted r z ∧ allowed z r ∧ z.sent = x.sent ++ before := by
  induction h with
  | refl => exact ⟨[], by simp, fun before e after h => by simp at h⟩
  | @tail y _ _ hstep ih =>
    obtain ⟨r, hr, rfl⟩ := hstep
    obtain ⟨new, hnew, hall⟩ := ih
    refine ⟨new ++ [noted r y], by simp [hnew], fun before e after h => ?_⟩
    rcases List.eq_nil_or_concat after with rfl | ⟨after, e', rfl⟩
    · obtain ⟨rfl, he⟩ := List.append_inj' h rfl
      cases he
      exact ⟨y, r, rfl, hr, hnew⟩
    · have h' : new ++ [noted r y] = (before ++ e :: after) ++ [e'] := by simpa using h
      obtain ⟨hn, -⟩ := List.append_inj' h' rfl
      exact hall before e after hn

/-- With a steady clock the requests that are sent late are the last ones. -/
theorem late_last (hc : c.Steady) (d : Deadline) (h : Leads c allowed x y) :
    ∃ timely late, y.sent = x.sent ++ (timely ++ late) ∧ (∀ e ∈ timely, e.isLate d = false) ∧
      (∀ e ∈ late, e.isLate d = true) ∧ (late ≠ [] → y.expired (some d) = true) := by
  induction h with
  | refl => exact ⟨[], [], by simp, by simp, by simp, by simp⟩
  | @tail y _ _ hstep ih =>
    obtain ⟨r, -, rfl⟩ := hstep
    obtain ⟨timely, late, hsent, htimely, hlate, hend⟩ := ih
    -- A request that is sent late goes to the late ones; one in time comes before any of them.
    cases hy : y.expired (some d) with
    | true =>
        refine ⟨timely, late ++ [noted r y], by simp [hsent], htimely, ?_, ?_⟩
        · intro e he
          rcases List.mem_append.mp he with he | he
          · exact hlate e he
          · rw [List.mem_singleton.mp he, isLate_noted, hy]
        · intro _
          exact expired_after hc hy
    | false =>
        have hnone : late = [] := by
          by_contra hne
          simp [hend hne] at hy
        subst hnone
        refine ⟨timely ++ [noted r y], [], by simp [hsent], ?_, by simp, by simp⟩
        intro e he
        rcases List.mem_append.mp he with he | he
        · exact htimely e he
        · rw [List.mem_singleton.mp he, isLate_noted, hy]

end Leads

end Exchange

end ElementFinder
