import ElementFinder.Proofs.Reports
import ElementFinder.Proofs.Rounds

/-!
# How polling ends

Polling goes through attempts that are begun in time and fail in a listed way, to its last look at the
deadline. There it ends, with the failure of the last attempt, or it ends with one more attempt. The
clock may move and the call may be cancelled during any attempt.
-/

namespace ElementFinder

open Run

variable {σ α : Type} {s t u v w : World σ} {d : Deadline} {description : String}

/-- The deadline as it stands in a state: the call in progress may have been cancelled. -/
def World.standing (s : World σ) (d : Deadline) : Deadline := if s.cancelled then d.cancel else d

namespace World

theorem cancelled_standing (s : World σ) (d : Deadline) :
    (s.standing d).cancelled = (d.cancelled || s.cancelled) := by
  cases h : s.cancelled <;> simp [standing, h]

@[simp] theorem timeout_standing (s : World σ) (d : Deadline) :
    (s.standing d).timeout = d.timeout := by
  rw [standing]
  split <;> rfl

@[simp] theorem elapsed_standing (s : World σ) (d : Deadline) :
    (s.standing d).elapsed = d.elapsed := by
  rw [standing]
  split <;> rfl

end World

namespace Poll

variable {attempt : Work σ α} {listed : Failure → Bool} {ask : Work σ Bool}
  {loop : Call σ (Polled α)} {text : Deadline → Option Failure → String}

/-! ## Reports around a loop -/

/-- After the report of a number of attempts a result is left as it is, if the number can be
written. -/
theorem counted_run {report : Work σ Unit} {e : TimingEvent} {n : Nat} {r : Except Stop α}
    {k : Call σ α} (hreport : report s = Work.emit e s)
    (he : ∀ time, (e.line time).map (fun _ => ()) = TimingEvent.countWritten n)
    (hk : ∀ t, k t = (r, t)) :
    (Call.ofWork report >>= fun _ => k) s = (s.counted n r, s.reporting e) := by
  have hfst := Work.emit_fst (s := s) e
  rw [he, TimingEvent.countWritten] at hfst
  rcases hemit : Work.emit e s with ⟨f | _, u⟩
  · rw [bind_error (e := .failed f) (t := u) (by rw [Call.ofWork, hreport, hemit]), World.counted,
      World.reporting, hemit]
    rw [hemit] at hfst
    split at hfst
    · next henabled =>
      split at hfst
      · next hn =>
        cases hfst
        rw [if_pos ⟨henabled, hn⟩]
      · cases hfst
    · cases hfst
  · rw [bind_ok (a := ()) (t := u) (by rw [Call.ofWork, hreport, hemit]), hk, World.counted,
      World.reporting, hemit]
    rw [hemit] at hfst
    rw [if_neg]
    rintro ⟨henabled, hn⟩
    rw [if_pos henabled, if_pos hn] at hfst
    cases hfst

/-- The failure of polling that ends where it stands. It has the failure of the last attempt and the
number of attempts. -/
def Standing.missed (z : Standing σ) (description : String) (d : Deadline)
    (text : Deadline → Option Failure → String) : Failure :=
  .deadline (text (z.world.standing d) z.last) z.last (some description)
    (some (.real d.timeout)) (some z.count) (some (.real (d.elapsed z.world.now))) [] []

theorem Standing.missed_eq (z : Standing σ) :
    Poll.missed (text (z.world.standing d) z.last) description (z.world.standing d) z.world.now
      z.count z.last = z.missed description d text := by
  rw [Poll.missed, World.timeout_standing, World.elapsed_standing, Standing.missed]

theorem reported_run (text : Deadline → Option Failure → String) {o : Except Stop (Polled α)} :
    loop (s.reporting (.started description d)) = (o, v) → reported description d loop text s =
      match o with
      | .error stop => (.error stop, v)
      | .ok (.found a n) => (v.counted n (.ok a), v.reporting (.succeeded description d v.now n))
      | .ok (.missed n last) =>
        (v.counted n (.error (.failed (Standing.missed ⟨v, n, last⟩ description d text))),
          v.reporting (.failed description (v.standing d) v.now n last)) := by
  intro hloop
  have hstarted : Call.ofWork (Work.emit (.started description d)) s =
      (.ok (), s.reporting (.started description d)) := by
    have hfst := Work.emit_fst (s := s) (.started description d)
    rw [TimingEvent.line_started, ite_self] at hfst
    rcases hemit : Work.emit (.started description d) s with ⟨_ | _, u⟩
    · rw [hemit] at hfst
      cases hfst
    · rw [Call.ofWork, World.reporting, hemit]
  rw [reported, bind_ok hstarted]
  obtain stop | ⟨a, n⟩ | ⟨n, last⟩ := o
  · exact bind_error hloop
  · rw [bind_ok hloop]
    exact counted_run (bind_ok rfl) (TimingEvent.line_succeeded · v.now n) fun _ => rfl
  · have hnow : Call.ofWork (Work.now : Work σ Float) v = (.ok v.now, v) := rfl
    have hstanding : Call.ofWork (Work.standing d : Work σ Deadline) v =
      (.ok (v.standing d), v) := rfl
    rw [bind_ok hloop]
    dsimp only
    rw [bind_ok hnow, bind_ok hstanding, ← Standing.missed_eq]
    exact counted_run rfl (TimingEvent.line_failed · v.now n last) fun _ => rfl

/-! ## The ends of polling -/

/-- How polling ends where it last looks at the deadline: the deadline has expired, or one more
attempt is begun in time, which gives the result or a failure that ends the call at once. -/
inductive Ends (final : World σ → Except Failure α → World σ → Prop) (d : Deadline)
    (description : String) (text : Deadline → Option Failure → String) (z : Standing σ) :
    Except Stop α → World σ → Prop
  | missed (late : z.world.exchange.expired (some d) = true) :
      Ends final d description text z
        (z.world.counted z.count (.error (.failed (z.missed description d text))))
        (z.world.reporting
          (.failed description (z.world.standing d) z.world.now z.count z.last))
  | found (a : α) (v : World σ) (inTime : z.world.exchange.expired (some d) = false)
      (last : final z.world (.ok a) v) :
      Ends final d description text z (v.counted (z.count + 1) (.ok a))
        (v.reporting (.succeeded description d v.now (z.count + 1 : Nat)))
  | refused (f : Failure) (v : World σ) (inTime : z.world.exchange.expired (some d) = false)
      (last : final z.world (.error f) v) :
      Ends final d description text z (.error (.failed f)) v

/-- An attempt that ends polling for a result: it has one, or it fails in a way that is not listed. -/
def Settles (attempt : Work σ α) (listed : Failure → Bool) (t : World σ) (o : Except Failure α)
    (v : World σ) : Prop :=
  attempt t = (o, v) ∧ ∀ f, o = .error f → listed f = false

/-- A question that ends waiting for a no: the answer is no, or there is none. -/
def Denies (ask : Work σ Bool) (t : World σ) (o : Except Failure Unit) (v : World σ) : Prop :=
  (ask t = (.ok false, v) ∧ o = .ok ()) ∨ ∃ f, ask t = (.error f, v) ∧ o = .error f

/-- What is said when waiting for a no has missed its deadline. -/
def stillYes (description : String) (d : Deadline) (_ : Option Failure) : String :=
  "Timed out waiting for " ++ description ++ " after " ++ Decimal.text d.timeout
    ++ "s (condition kept returning true)"

theorem forResult_ends (rounds : Nat) (attempt : Work σ α) (listed : Failure → Bool)
    (d : Deadline) (description : String) (w : World σ) :
    ∃ z, Relation.ReflTransGen (Retries attempt listed d)
        ⟨w.reporting (.started description d), 0, none⟩ z ∧
      ∃ r u, forResult rounds attempt d description listed w = (r, u) ∧
        ((r = .error .unfinished ∧ u = z.world ∧ z.count = rounds) ∨
          Ends (Settles attempt listed) d description (missedText description) z r u) := by
  rcases hloop : untilResult attempt listed d rounds 0 none
    (w.reporting (.started description d)) with ⟨o, v⟩
  have hrun := reported_run (missedText description) hloop
  obtain ⟨z, hz, ⟨rfl, rfl, hcount⟩ | ⟨hlate, rfl, rfl⟩ |
    ⟨hin, ⟨a, ha, rfl⟩ | ⟨f, hf, hl, rfl⟩⟩⟩ := untilResult_inv hloop
  · exact ⟨z, hz, _, _, hrun, Or.inl ⟨rfl, rfl, by simpa using hcount⟩⟩
  · exact ⟨z, hz, _, _, hrun, Or.inr (.missed hlate)⟩
  · exact ⟨z, hz, _, _, hrun, Or.inr (.found a v hin ⟨ha, by simp⟩)⟩
  · refine ⟨z, hz, _, _, hrun, Or.inr (.refused f v hin ⟨hf, ?_⟩)⟩
    rintro _ ⟨rfl⟩
    exact hl

/-- Questions that are answered leave no failure. -/
theorem AsksAgain.last_eq_none {y z : Standing σ} (hy : y.last = none)
    (h : Relation.ReflTransGen (AsksAgain ask d) y z) : z.last = none := by
  obtain rfl | ⟨_, _, _, _, _, rfl⟩ := h.cases_tail
  · exact hy
  · rfl

theorem forNo_ends (rounds : Nat) (ask : Work σ Bool) (d : Deadline) (description : String)
    (w : World σ) :
    ∃ z, Relation.ReflTransGen (AsksAgain ask d)
        ⟨w.reporting (.started description d), 0, none⟩ z ∧
      ∃ r u, forNo rounds ask d description w = (r, u) ∧
        ((r = .error .unfinished ∧ u = z.world ∧ z.count = rounds) ∨
          Ends (Denies ask) d description (stillYes description) z r u) := by
  rcases hloop : untilNo ask d rounds 0 (w.reporting (.started description d)) with ⟨o, v⟩
  have hrun := reported_run (stillYes description) hloop
  obtain ⟨z, hz, ⟨rfl, rfl, hcount⟩ | ⟨hlate, rfl, rfl⟩ | ⟨hin, ⟨ha, rfl⟩ | ⟨f, hf, rfl⟩⟩⟩ :=
    untilNo_inv hloop
  · exact ⟨z, hz, _, _, hrun, Or.inl ⟨rfl, rfl, by simpa using hcount⟩⟩
  · rw [← AsksAgain.last_eq_none rfl hz] at hrun
    exact ⟨z, hz, _, _, hrun, Or.inr (.missed hlate)⟩
  · exact ⟨z, hz, _, _, hrun, Or.inr (.found () v hin (Or.inl ⟨ha, rfl⟩))⟩
  · exact ⟨z, hz, _, _, hrun, Or.inr (.refused f v hin (Or.inr ⟨f, hf, rfl⟩))⟩

/-- The reason for the end is the cancelling of the deadline, or of the call in progress. -/
theorem reason_eq_cancelled_iff : reason (s.standing d) = "cancelled" ↔
    d.cancelled = true ∨ s.cancelled = true := by
  rw [← Bool.or_eq_true, ← World.cancelled_standing]
  cases h : (s.standing d).cancelled <;> simp [reason, h]

/-! ## Exchanges of polling -/

/-- Polling for a result goes through failed attempts. It ends without a result where it looks at the
deadline, or with the end of one more attempt. -/
theorem forResult_inv {rounds : Nat} {r : Except Stop α}
    (h : forResult rounds attempt d description listed s = (r, u)) :
    ∃ t z, t.exchange = s.exchange ∧
      Relation.ReflTransGen (Retries attempt listed d) ⟨t, 0, none⟩ z ∧
      ((u.exchange = z.world.exchange ∧ ∃ stop, r = .error stop) ∨
        z.world.exchange.expired (some d) = false ∧ ∃ o v, attempt z.world = (o, v) ∧
          u.exchange = v.exchange ∧ ∀ a, r = .ok a → o = .ok a) := by
  obtain ⟨z, hz, r', u', hrun, hend⟩ := forResult_ends rounds attempt listed d description s
  obtain ⟨rfl, rfl⟩ := Prod.mk.inj (hrun.symm.trans h)
  refine ⟨_, z, World.exchange_reporting _, hz, ?_⟩
  obtain ⟨rfl, rfl, _⟩ | hlate | ⟨a, v, hin, ha, _⟩ | ⟨f, v, hin, hf, _⟩ := hend
  · exact Or.inl ⟨rfl, _, rfl⟩
  · exact Or.inl ⟨World.exchange_reporting _, World.counted_error _⟩
  · refine Or.inr ⟨hin, _, v, ha, World.exchange_reporting _, fun b hb => ?_⟩
    cases World.of_counted_eq_ok hb
    rfl
  · exact Or.inr ⟨hin, _, _, hf, rfl, by simp⟩

/-- Waiting for a no goes through questions that are answered with yes, and ends where it looks at
the deadline or with the end of one more question. -/
theorem forNo_inv {rounds : Nat} {r : Except Stop Unit}
    (h : forNo rounds ask d description s = (r, u)) :
    ∃ t z, t.exchange = s.exchange ∧ Relation.ReflTransGen (AsksAgain ask d) ⟨t, 0, none⟩ z ∧
      (u.exchange = z.world.exchange ∨
        z.world.exchange.expired (some d) = false ∧ ∃ o v, ask z.world = (o, v) ∧
          u.exchange = v.exchange) := by
  obtain ⟨z, hz, r', u', hrun, hend⟩ := forNo_ends rounds ask d description s
  obtain ⟨rfl, rfl⟩ := Prod.mk.inj (hrun.symm.trans h)
  refine ⟨_, z, World.exchange_reporting _, hz, ?_⟩
  obtain ⟨_, rfl, _⟩ | hlate | ⟨_, v, hin, hno⟩ | ⟨f, v, hin, hno⟩ := hend
  · exact Or.inl rfl
  · exact Or.inl (World.exchange_reporting _)
  · obtain ⟨hask, _⟩ | ⟨_, _, hno⟩ := hno
    · exact Or.inr ⟨hin, _, v, hask, World.exchange_reporting _⟩
    · cases hno
  · obtain ⟨_, hno⟩ | ⟨_, hask, _⟩ := hno
    · cases hno
    · exact Or.inr ⟨hin, _, _, hask, rfl⟩

/-! ## Main result -/

/-- Polling for a result and waiting for a no end where they last look at the deadline, or with one
more attempt; a run that ends in no way has used up its rounds. The reason that is given is that the
deadline was cancelled exactly if it was. -/
theorem polling_ends (rounds : Nat) (attempt : Work σ α) (listed : Failure → Bool)
    (ask : Work σ Bool) (d : Deadline) (description : String) (w : World σ) :
    let start : Standing σ := ⟨w.reporting (.started description d), 0, none⟩
    (∃ z, Relation.ReflTransGen (Retries attempt listed d) start z ∧
      ∃ r u, forResult rounds attempt d description listed w = (r, u) ∧
        ((r = .error .unfinished ∧ u = z.world ∧ z.count = rounds) ∨
          Ends (Settles attempt listed) d description (missedText description) z r u)) ∧
    (∃ z, Relation.ReflTransGen (AsksAgain ask d) start z ∧
      ∃ r u, forNo rounds ask d description w = (r, u) ∧
        ((r = .error .unfinished ∧ u = z.world ∧ z.count = rounds) ∨
          Ends (Denies ask) d description (stillYes description) z r u)) ∧
    ∀ s : World σ, reason (s.standing d) = "cancelled" ↔ d.cancelled = true ∨ s.cancelled = true :=
  ⟨forResult_ends rounds attempt listed d description w,
    forNo_ends rounds ask d description w, fun _ => reason_eq_cancelled_iff⟩

end Poll

end ElementFinder
