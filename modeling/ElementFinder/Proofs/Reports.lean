import ElementFinder.Proofs.Work
import ElementFinder.Proofs.Written

/-!
# Reports to the timing log

A report asks nothing and changes only files and log. It fails if a number in it is too long to be
written; of all that polling reports, only the number of attempts can be. The time of a query can be
reported if it is finite in milliseconds.
-/

namespace ElementFinder

variable {σ α : Type} {s u : World σ} {d : Deadline} {description : String} {f : Failure}

/-! ## Lines -/

/-- The whole part of a double can always be written. -/
theorem Numeral.write_wholePart {x : Float} {n : Int} (h : wholePart x = .ok n) :
    ∃ text, write n = .ok text := by
  rw [wholePart] at h
  split at h
  · next b hb =>
    cases h
    exact ⟨_, if_pos (Binary.natAbs_truncate_lt hb)⟩
  · cases h

namespace TimingEvent

/-- A detail holds an integer that is too long to be written. -/
def HoldsTooLong (e : TimingEvent) : Prop := ∃ p ∈ e.details, p.1.HoldsTooLong ∨ p.2.HoldsTooLong

theorem line_failsWhen (e : TimingEvent) (time : String) :
    FailsWhen (· = .numeral .tooLongToWrite) e.HoldsTooLong (e.line time) := by
  have hwritten : ∀ v : Value, FailsWhen (· = .numeral .tooLongToWrite) v.HoldsTooLong v.writeOrFail :=
    fun v => v.write_writtenUnless.mapError fun _ h => congrArg Failure.numeral h
  exact (FailsWhen.mapM (fun p => (hwritten p.1).both (hwritten p.2) fun name value => name ++ "=" ++ value)
    e.details).map _

theorem line_error {e : TimingEvent} {time : String} (h : e.line time = .error f) :
    ∃ fault, f = .numeral fault := by
  have hfails := e.line_failsWhen time
  rw [h] at hfails
  cases hfails with
  | error hf _ => exact ⟨_, hf⟩

theorem detail_float (name : String) (x : Float) :
    detail (.text name, .float x) = .ok (name ++ "=" ++ Decimal.text x) := rfl

theorem detail_int (name : String) (n : Int) :
    detail (.text name, .int n) =
      ((Numeral.write n).mapError Failure.numeral).map fun text => name ++ "=" ++ text := by
  rw [detail]
  show (Except.ok name >>= fun a => (Numeral.write n).mapError Failure.numeral >>= fun b =>
    .ok (a ++ "=" ++ b)) = _
  cases Numeral.write n <;> rfl

/-- Whether a line can be written hangs on its details. -/
theorem line_map (e : TimingEvent) (time : String) :
    (e.line time).map (fun _ => ()) = (e.details.mapM detail).map fun _ => () := by
  rw [line]
  cases e.details.mapM detail <;> rfl

/-- A number of attempts that is too long to be written. -/
def TooLong (n : Nat) : Prop := Nat.pow 10 Numeral.digitLimit ≤ n

instance : DecidablePred TooLong := fun _ => Nat.decLe _ _

/-- What writing a number of attempts comes to. -/
def countWritten (n : Nat) : Except Failure Unit :=
  if TooLong n then .error (.numeral .tooLongToWrite) else .ok ()

theorem countWritten_eq (n : Nat) :
    ((Numeral.write n).mapError Failure.numeral).map (fun _ => ()) = countWritten n := by
  show (Except.mapError _ (if n < _ then _ else _)).map _ = _
  rw [countWritten]
  by_cases hn : TooLong n
  · rw [if_pos hn, if_neg (Nat.not_lt.mpr hn)]
    rfl
  · rw [if_neg hn, if_pos (Nat.not_le.mp hn)]
    rfl

theorem countWritten_zero : countWritten 0 = .ok () := by
  have hpos : ∀ digits, 0 < Nat.pow 10 digits := fun _ => Nat.pow_pos (Nat.zero_lt_succ 9)
  exact if_neg (Nat.not_le.mpr (hpos _))

theorem line_started (time : String) :
    ((started description d).line time).map (fun _ => ()) = .ok () := rfl

theorem line_succeeded (time : String) (now : Float) (n : Nat) :
    ((succeeded description d now n).line time).map (fun _ => ()) = countWritten n := by
  rw [line_map, ← countWritten_eq]
  simp only [succeeded, elapsed, List.mapM_cons, detail_int, detail_float, List.mapM_nil]
  cases Numeral.write n <;> rfl

theorem line_failed (time : String) (now : Float) (n : Nat) (last : Option Failure) :
    ((failed description d now n last).line time).map (fun _ => ()) = countWritten n := by
  rw [line_map, ← countWritten_eq]
  have hlast : ∃ texts, (last.map fun f => (Value.text "last_error", Value.text f.kindName)).toList.mapM
      detail = .ok texts := by
    cases last <;> exact ⟨_, rfl⟩
  obtain ⟨texts, hlast⟩ := hlast
  simp only [failed, allowed, elapsed, List.cons_append, List.nil_append, List.mapM_cons,
    detail_int, detail_float, hlast]
  cases Numeral.write n <;> rfl

/-- A query can be reported if the time that it took is finite in milliseconds. -/
theorem line_queried (description query : String) {started now : Float} {n : Int}
    (h : milliseconds (now - started) = .ok n) (missed : Bool) :
    ∃ e, queried description query started now missed = .ok e ∧
      ∀ time, (e.line time).map (fun _ => ()) = .ok () := by
  obtain ⟨text, htext⟩ := Numeral.write_wholePart h
  refine ⟨_, by rw [queried, h]; rfl, fun time => ?_⟩
  rw [line_map]
  simp only [List.mapM_cons, List.mapM_nil, detail_int, htext]
  rfl

end TimingEvent

/-! ## Reports -/

/-- The state after the report of an event. -/
def World.reporting (s : World σ) (e : TimingEvent) : World σ := (Work.emit e s).2

/-- What the report of a number of attempts leaves of a result. If times are reported, it fails for a
number that is too long to be written. -/
def World.counted (s : World σ) (n : Nat) (r : Except Stop α) : Except Stop α :=
  if s.timing.enabled = true ∧ TimingEvent.TooLong n then
    .error (.failed (.numeral .tooLongToWrite))
  else r

theorem World.counted_error {n : Nat} (stop : Stop) :
    ∃ stop', s.counted n (.error stop : Except Stop α) = .error stop' := by
  rw [counted]
  split <;> exact ⟨_, rfl⟩

theorem World.of_counted_eq_ok {n : Nat} {r : Except Stop α} {a : α}
    (h : s.counted n r = .ok a) : r = .ok a := by
  rw [counted] at h
  split at h
  · cases h
  · exact h

namespace Work

theorem emit_fst (e : TimingEvent) : (emit e s).1 =
    if s.timing.enabled then (e.line s.wall.time).map fun _ => () else .ok () := by
  rw [emit_run, TimingLog.emit]
  cases s.timing.enabled with
  | false => rfl
  | true =>
      simp only [↓reduceIte]
      cases e.line s.wall.time <;> rfl

/-- A report fails only as a number cannot be written. -/
theorem emit_error {e : TimingEvent} (h : emit e s = (.error f, u)) :
    ∃ fault, f = .numeral fault := by
  have hfst := (emit_fst (s := s) e).symm.trans (congrArg Prod.fst h)
  split at hfst
  · cases hline : e.line s.wall.time with
    | error g =>
        rw [hline] at hfst
        cases hfst
        exact TimingEvent.line_error hline
    | ok text =>
        rw [hline] at hfst
        cases hfst
  · cases hfst

end Work

namespace World

@[simp] theorem exchange_reporting (e : TimingEvent) : (s.reporting e).exchange = s.exchange :=
  Work.emit_quiet e s

@[simp] theorem notes_reporting (e : TimingEvent) : (s.reporting e).notes = s.notes := by
  rw [reporting, Work.emit_run]
  split <;> rfl

end World

end ElementFinder
