import ElementFinder.Proofs.Exchange
import ElementFinder.Proofs.Results
import ElementFinder.Waiting.Poll

/-!
# Running work

What a piece of work makes of a state: which work leaves the exchange alone, and what a request
changes. Calls run in the same way, but for the ways in which they can stop.
-/

namespace ElementFinder

variable {ε σ α β : Type}

/-! ## Runs that ask nothing -/

namespace Run

variable {x : ExceptT ε (StateM (World σ)) α} {f : α → ExceptT ε (StateM (World σ)) β}
  {s t u : World σ}

/-- The run leaves the exchange as it is. -/
def Quiet (x : ExceptT ε (StateM (World σ)) α) : Prop := ∀ s, (x s).2.exchange = s.exchange

namespace Quiet

theorem exchange_eq {r : Except ε α} (hx : Quiet x) (h : x s = (r, u)) :
    u.exchange = s.exchange := by
  have := hx s
  rwa [h] at this

theorem pure (a : α) : Quiet (Pure.pure a : ExceptT ε (StateM (World σ)) α) := fun _ => rfl

theorem throw (e : ε) : Quiet (MonadExcept.throw e : ExceptT ε (StateM (World σ)) α) := fun _ => rfl

theorem bind (hx : Quiet x) (hf : ∀ a, Quiet (f a)) : Quiet (x >>= f) := by
  intro s
  rcases h : x s with ⟨e | a, t⟩
  · rw [bind_error h, hx.exchange_eq h]
  · rw [bind_ok h, hf a t, hx.exchange_eq h]

end Quiet

end Run

/-! ## Work -/

namespace Work

open Run

variable {x : Work σ α} {s t u : World σ}

/-- Work that is run for its result goes on with that result, whatever it is. -/
theorem bind_attempt_inv {g : Except Failure α → Work σ β} {r : Except Failure β}
    (h : (attempt x >>= g) s = (r, u)) : ∃ o t, x s = (o, t) ∧ g o t = (r, u) :=
  ⟨_, _, rfl, h⟩

theorem ofExcept_run (o : Except Failure α) : (ofExcept o : Work σ α) s = (o, s) := by
  cases o <;> rfl

theorem ofExcept_inv {o : Except Failure α} {r : Except Failure α}
    (h : (ofExcept o : Work σ α) s = (r, u)) : r = o ∧ u = s := by
  rw [ofExcept_run] at h
  cases h
  exact ⟨rfl, rfl⟩

theorem expired_run (limit : Option Deadline) :
    (expired limit : Work σ Bool) s = (.ok (s.exchange.expired limit), s) := by
  cases limit <;> rfl

theorem expired_bind {limit : Option Deadline} {f : Bool → Work σ α} :
    (expired limit >>= f) s = f (s.exchange.expired limit) s :=
  bind_ok (expired_run limit)

theorem ofExcept_quiet (o : Except Failure α) : Quiet (ofExcept o : Work σ α) := by
  intro s
  rw [ofExcept_run]

theorem now_quiet : Quiet (now : Work σ Float) := fun _ => rfl

theorem record_quiet (level : LogLevel) (message : String) :
    Quiet (record level message : Work σ Unit) := fun _ => rfl

theorem emit_run (e : TimingEvent) : (emit e : Work σ Unit) s =
    match s.timing.emit s.wall.time e s.files with
    | .ok (files, records) => (.ok (), { s with files, log := s.log ++ records })
    | .error f => (.error f, s) := by
  show (ofExcept _ >>= _ : Work σ Unit) s = _
  rcases s.timing.emit s.wall.time e s.files with f | ⟨files, records⟩ <;> rfl

theorem emit_quiet (e : TimingEvent) : Quiet (emit e : Work σ Unit) := by
  intro s
  rw [emit_run]
  rcases s.timing.emit s.wall.time e s.files with f | ⟨files, records⟩ <;> rfl

theorem record_inv {level : LogLevel} {message : String} {f : Unit → Work σ α}
    {r : Except Failure α} (h : (record level message >>= f) s = (r, u)) :
    ∃ t, t.exchange = s.exchange ∧ f () t = (r, u) :=
  ⟨{ s with log := s.log.add ⟨.search, level, message⟩ }, rfl, h⟩

theorem note_inv {b : LocatorAttempt} {f : Unit → Work σ α} {r : Except Failure α}
    (h : (note b >>= f) s = (r, u)) : ∃ t, t.exchange = s.exchange ∧ f () t = (r, u) :=
  ⟨{ s with notes := { s.notes with attempts := s.notes.attempts ++ [b] } }, rfl, h⟩

/-! ## Requests -/

theorem send_inv {c : Client σ} {q : Request} {r : Except Failure q.Answer}
    (h : send c q s = (r, u)) : r = s.exchange.answer c q ∧ u.exchange = s.exchange.after c q := by
  cases h
  exact ⟨rfl, rfl⟩

/-- What comes of a request hangs on the exchange alone. -/
theorem send_congr (c : Client σ) (q : Request) (h : s.exchange = t.exchange) :
    (send c q s).1 = (send c q t).1 ∧ (send c q s).2.exchange = (send c q t).2.exchange := by
  show s.exchange.answer c q = t.exchange.answer c q ∧ s.exchange.after c q = t.exchange.after c q
  rw [h]
  exact ⟨rfl, rfl⟩

end Work

end ElementFinder
