import ElementFinder.Proofs.KeptPages
import ElementFinder.Proofs.SideBySide

/-!
# Calls without reports

Reports of times go to the log and to a file, and a call looks at neither. So it asks the same and ends the
same without them, as long as each of them can be written. All that a report could change is whether the
last page of a failed search can be kept, if the file of the timing log is in its way.
-/

namespace ElementFinder

open Run Exchange

variable {σ α : Type} {c : Client σ} {I : Exchange σ → Prop} {w s t : World σ} {rounds : Nat}

/-! ## States -/

/-- The state with the timing log enabled or disabled. -/
def World.timed (w : World σ) (enabled : Bool) : World σ :=
  { w with timing := { w.timing with enabled } }

@[simp] theorem World.now_timed (w : World σ) (enabled : Bool) : (w.timed enabled).now = w.now := rfl

/-- Two states that are alike but for reports: the first came from a state by a run with reports, the
second by one without. -/
structure World.Unreported (w : World σ) (I : Exchange σ → Prop) (s t : World σ) : Prop where
  exchange : s.exchange = t.exchange
  within : I s.exchange
  notes : s.notes = t.notes
  wall : s.wall = w.wall ∧ t.wall = w.wall
  timing : s.timing = { w.timing with enabled := true } ∧ t.timing.enabled = false
  files : w.timing.Leads w.files s.files ∧ t.files = w.files

namespace World.Unreported

theorem timed (h : I w.exchange) : Unreported w I (w.timed true) (w.timed false) :=
  ⟨rfl, h, rfl, ⟨rfl, rfl⟩, ⟨rfl, rfl⟩, .refl, rfl⟩

theorem begun (h : I w.exchange.begun) : Unreported w I (w.timed true).begun (w.timed false).begun :=
  ⟨rfl, h, rfl, ⟨rfl, rfl⟩, ⟨rfl, rfl⟩, .refl, rfl⟩

/-- The two may have different records. -/
theorem logged (h : Unreported w I s t) (l l' : Log) :
    Unreported w I { s with log := l } { t with log := l' } :=
  ⟨h.exchange, h.within, h.notes, h.wall, h.timing, h.files⟩

/-- They note the same. -/
theorem noted (h : Unreported w I s t) (note : Notes → Notes) :
    Unreported w I { s with notes := note s.notes } { t with notes := note t.notes } :=
  ⟨h.exchange, h.within, congrArg note h.notes, h.wall, h.timing, h.files⟩

/-- A report can be written with reports, and leads to a state that is alike. -/
theorem emit (h : Unreported w I s t) {e : TimingEvent}
    (he : ∀ time, (e.line time).map (fun _ => ()) = .ok ()) :
    (Work.emit e s).1 = .ok () ∧ Unreported w I (Work.emit e s).2 t := by
  obtain ⟨line, hline⟩ : ∃ line, e.line s.wall.time = .ok line := by
    have hwritten := he s.wall.time
    cases hline : e.line s.wall.time with
    | ok line => exact ⟨line, rfl⟩
    | error f =>
        rw [hline] at hwritten
        cases hwritten
  rw [Work.emit_run, TimingLog.emit, h.timing.1, hline]
  refine ⟨rfl, h.exchange, h.within, h.notes, h.wall, ⟨rfl, h.timing.2⟩, ?_, h.files.2⟩
  exact h.files.1.tail ⟨line, TimingLog.write_fst line e.isError⟩

/-- Without reports it leads to nothing. -/
theorem emit_unwritten (h : Unreported w I s t) (e : TimingEvent) :
    (Work.emit e t).1 = .ok () ∧ Unreported w I s (Work.emit e t).2 := by
  rw [Work.emit_run, TimingLog.emit, if_neg (by simp [h.timing.2])]
  exact ⟨rfl, h.exchange, h.within, h.notes, h.wall, h.timing, h.files⟩

/-- Reports of no more attempts than can be written make no difference. -/
theorem keptByReports (hrounds : ¬TimingEvent.TooLong rounds) : KeptByReports (Unreported w I) Eq rounds where
  exchange _ _ h := h.exchange
  forget _ _ h := h.noted fun notes => { notes with attempts := [] }
  record _ _ _ _ _ h := ⟨.ok trivial, h.logged _ _⟩
  emit e e' n hn he _ s t h := by
    have hcount : TimingEvent.countWritten n = .ok () :=
      if_neg fun hlong => hrounds (Nat.le_trans hlong hn)
    obtain ⟨hs, hreported⟩ := h.emit fun time => (he time).trans hcount
    obtain ⟨ht, hafter⟩ := hreported.emit_unwritten e'
    rw [hs, ht]
    exact ⟨.ok trivial, hafter⟩

end World.Unreported

/-! ## Attempts -/

/-- Whatever is asked from an exchange on, each query takes a time that is finite in milliseconds. -/
def Exchange.TimesFinite (c : Client σ) (x : Exchange σ) : Prop :=
  ∀ y, Leads c (fun _ _ => True) x y → ∀ q : Query,
    ∃ n, TimingEvent.milliseconds ((y.after c q.request).now - y.now) = .ok n

theorem Exchange.TimesFinite.after {x : Exchange σ} (h : x.TimesFinite c) (r : Request) :
    (x.after c r).TimesFinite c :=
  fun y hy => h y ((Leads.single trivial).trans hy)

namespace Attempt

open Work World

theorem parts_unreported (hI : ∀ x r, I x → I (x.after c r)) :
    Parts c (Unreported w I) fun _ => True where
  exchange _ _ h := h.exchange
  send r s t h := by
    obtain ⟨hsame, hsent⟩ := send_congr c r h.exchange
    exact ⟨hsame, ⟨hsent, hI _ r h.within, h.notes, h.wall, h.timing, h.files⟩, fun _ _ => trivial⟩
  record _ _ _ _ h := ⟨rfl, h.logged _ _, fun _ _ => trivial⟩
  note a _ _ h :=
    ⟨rfl, h.noted fun notes => { notes with attempts := notes.attempts ++ [a] }, fun _ _ => trivial⟩
  shown source _ _ h := ⟨rfl, h.noted fun notes => { notes with page := some source }, fun _ _ => trivial⟩

/-- Two states that are alike but for reports, at a moment to which the time from a start can be
counted. -/
def Counted (w : World σ) (I : Exchange σ → Prop) (started : Float) (s t : World σ) : Prop :=
  Unreported w I s t ∧ ∃ n, TimingEvent.milliseconds (s.now - started) = .ok n

theorem reportTime_unreported (q : Query) (started : Float) (missed : Bool) :
    PairsTo (Counted w I started) (Unreported w I) Eq Eq (reportTime q started missed)
      (reportTime q started missed) := by
  rintro s t ⟨h, n, hn⟩
  obtain ⟨e, he, hline⟩ := TimingEvent.line_queried q.value q.name hn missed
  obtain ⟨hemit, hafter⟩ := h.emit hline
  have hnow : ∀ k : Float → Work σ Unit, (Work.now >>= k) s = k s.now s := fun _ => rfl
  have hemitted : (Work.ofExcept (.ok e) >>= Work.emit) s = Work.emit e s := rfl
  rw [reportTime_run, reportTime_run, if_pos (by rw [h.timing.1]), if_neg (by simp [h.timing.2]), hnow, he,
    hemitted, hemit]
  exact ⟨.ok rfl, hafter⟩

/-- Once a query is answered, the time since its start can be counted. -/
theorem mayMiss_counted (hparts : Parts c (Unreported w I) fun _ => True) {q : Query}
    (htimes : ∀ x, I x → ∃ n, TimingEvent.milliseconds ((x.after c q.request).now - x.now) = .ok n)
    (started : Float) :
    PairsTo (fun s t => Unreported w I s t ∧ s.now = started) (Counted w I started) Eq Eq
      (mayMiss c q.request) (mayMiss c q.request) := by
  rintro s t ⟨h, rfl⟩
  obtain ⟨halike, hafter⟩ := ((hparts.mayMiss q.request).pairs fun _ _ => rfl) s t h
  have hnow : (mayMiss c q.request s).2.now = (s.exchange.after c q.request).now :=
    congrArg Exchange.now (mayMiss_inv rfl).1
  refine ⟨halike, hafter, ?_⟩
  rw [hnow]
  exact htimes s.exchange h.within

/-- A query makes no difference, whether its time is reported or not. -/
theorem tryQuery_unreported (hparts : Parts c (Unreported w I) fun _ => True) {q : Query}
    (htimes : ∀ x, I x → ∃ n, TimingEvent.milliseconds ((x.after c q.request).now - x.now) = .ok n) :
    Respects (Unreported w I) (fun _ => True) (tryQuery c q) := by
  have hnote : ∀ a, Pairs (Unreported w I) Eq Eq (Work.note a : Work σ Unit) (Work.note a) :=
    fun a => (hparts.note a).pairs fun _ _ => rfl
  refine Pairs.respects (now_bind_pairs (fun _ _ h => h.exchange) fun started => ?_)
  refine (mayMiss_counted hparts htimes started).bind (fun _ _ h => h.1) ?_
  rintro answer _ rfl
  have hreport := reportTime_unreported (w := w) (I := I) q started
  cases answer with
  | ok handle =>
      exact (hreport false).bind (fun _ _ h => h) fun _ _ _ => (hnote _).bind fun _ _ _ => .pure rfl
  | error f =>
      have hrecord : ∀ level message, Pairs (Counted w I started) Eq Eq
          (Work.record level message : Work σ Unit) (Work.record level message) :=
        fun _ _ _ _ ⟨h, hn⟩ => ⟨.ok rfl, h.logged _ _, hn⟩
      refine PairsTo.bind (hrecord _ _) (fun _ _ h => h.1) fun _ _ _ => ?_
      exact (hreport true).bind (fun _ _ h => h) fun _ _ _ => (hnote _).bind fun _ _ _ => .pure rfl

/-- No step of an attempt hangs on reports. -/
theorem steps_unreported (c : Client σ) :
    Steps c (Unreported w (Exchange.TimesFinite c)) fun _ => True :=
  have hparts := parts_unreported fun _ r h => h.after r
  ⟨hparts, fun q => tryQuery_unreported hparts fun x hx => hx x (.refl x) q⟩

end Attempt

/-! ## Calls -/

/-- Two calls end with the same result and the same exchange: the client was asked the same, and the clock
stands at the same moment. -/
def SameEnd {ε : Type} (p q : Except ε α × World σ) : Prop := p.1 = q.1 ∧ p.2.exchange = q.2.exchange

def Failure.withoutArtifacts : Failure → Failure
  | .deadline text wrapped description timeout count elapsed attempts _ =>
    .deadline text wrapped description timeout count elapsed attempts []
  | f => f

def Failure.artifacts : Failure → List (String × String)
  | .deadline _ _ _ _ _ _ _ artifacts => artifacts
  | _ => []

/-- The artifacts that a call ends with; only a failure has any. -/
def artifactsOf : Except Stop α → List (String × String)
  | .error (.failed f) => f.artifacts
  | _ => []

def Stop.withoutArtifacts : Stop → Stop
  | .failed f => .failed f.withoutArtifacts
  | .unfinished => .unfinished

/-- Two calls end the same, but for the artifacts of their failures. -/
def SameButArtifacts (p q : Except Stop α × World σ) : Prop :=
  p.1.mapError Stop.withoutArtifacts = q.1.mapError Stop.withoutArtifacts ∧ p.2.exchange = q.2.exchange

/-- The run ends the same, whether times are reported or not. -/
def World.EndsAlike {ε : Type} (w : World σ) (x : ExceptT ε (StateM (World σ)) α) : Prop :=
  SameEnd (x (w.timed true)) (x (w.timed false))

/-- The call ends the same but for artifacts, and on a condition altogether. -/
def World.EndsAlikeIf (w : World σ) (p : Prop) (x : Call σ α) : Prop :=
  SameButArtifacts (x (w.timed true)) (x (w.timed false)) ∧ (p → w.EndsAlike x)

/-- Two failures are the same but for artifacts, and on a condition altogether. -/
structure Failure.SameIf (p : Prop) (f g : Failure) : Prop where
  but : f.withoutArtifacts = g.withoutArtifacts
  same : p → f = g

theorem StopAlike.eq {a b : Stop} (h : StopAlike Eq a b) : a = b := by
  cases h with
  | unfinished => rfl
  | failed h => rw [h]

theorem Run.Alike.sameIf {p : Prop} {x y : Except Stop α} (h : Alike Eq (StopAlike (Failure.SameIf p)) x y) :
    x.mapError Stop.withoutArtifacts = y.mapError Stop.withoutArtifacts ∧ (p → x = y) := by
  obtain h | (_ | h) := h
  · rw [h]
    exact ⟨rfl, fun _ => rfl⟩
  · exact ⟨rfl, fun _ => rfl⟩
  · refine ⟨congrArg (fun f => Except.error (Stop.failed f)) h.but, fun hp => ?_⟩
    rw [h.same hp]

namespace Run.PairsTo

variable {R' : World σ → World σ → Prop}

theorem sameEnd {ε : Type} {E : ε → ε → Prop} {x : ExceptT ε (StateM (World σ)) α}
    (h : PairsTo (World.Unreported w I) R' Eq E x x) (hE : ∀ e f, E e f → e = f)
    (hR : ∀ s t, R' s t → s.exchange = t.exchange) (hst : World.Unreported w I s t) :
    SameEnd (x s) (x t) := by
  obtain ⟨halike, hafter⟩ := h s t hst
  exact ⟨(halike.mono hE).eq, hR _ _ hafter⟩

theorem sameButArtifacts {p : Prop} {x : Call σ α}
    (h : PairsTo (World.Unreported w I) (fun s t => s.exchange = t.exchange) Eq
      (StopAlike (Failure.SameIf p)) x x) (hst : World.Unreported w I s t) :
    SameButArtifacts (x s) (x t) ∧ (p → SameEnd (x s) (x t)) := by
  obtain ⟨halike, hafter⟩ := h s t hst
  obtain ⟨hbut, hsame⟩ := halike.sameIf
  exact ⟨⟨hbut, hafter⟩, fun hp => ⟨hsame hp, hafter⟩⟩

end Run.PairsTo

/-! ## Polling -/

namespace Poll

open World

variable {d : Deadline} {description : String}

theorem forResult_unreported (hrounds : ¬TimingEvent.TooLong rounds) {x : Work σ α}
    {listed : Failure → Bool} (hx : Pairs (Unreported w I) Eq Eq x x) :
    Pairs (Unreported w I) Eq (StopAlike Eq) (forResult rounds x d description listed)
      (forResult rounds x d description listed) :=
  forResult_pairs (Unreported.keptByReports hrounds) (Nat.le_refl _) hx (fun _ _ h => by rw [h])
    fun _ _ _ _ _ hlast => by rw [eq_of_rel hlast]

theorem forNo_unreported (hrounds : ¬TimingEvent.TooLong rounds) {ask : Work σ Bool}
    (hask : Pairs (Unreported w I) Eq Eq ask ask) :
    Pairs (Unreported w I) Eq (StopAlike Eq) (forNo rounds ask d description)
      (forNo rounds ask d description) :=
  forNo_pairs (Unreported.keptByReports hrounds) (Nat.le_refl _) hask
    fun _ _ _ _ _ _ hlast => by rw [eq_of_rel hlast]

end Poll

/-! ## Calls of a finder -/

namespace Finder

open World Attempt Poll

variable {f : Finder σ} {configured : Timeouts} {s : Selector} {d : Deadline}
  {attempt : Work σ Element}

theorem keepsKind_eq : KeepsKind Eq Eq where
  isOwn _ _ h := by rw [h]
  isDeadline _ _ h := by rw [h]
  missed a b hab d now count last last' hlast := by rw [hab, Poll.eq_of_rel hlast]

theorem standard_unreported (f : Finder σ) (s : Selector) (limit : Option Deadline) :
    Pairs (Unreported w (Exchange.TimesFinite f.client)) Eq Eq (standard f.client s limit)
      (standard f.client s limit) :=
  ((steps_unreported f.client).standard (admits_all s) limit).pairs fun _ _ => rfl

theorem tapAttempt_unreported (f : Finder σ) (s : Selector) (d : Deadline) :
    Pairs (Unreported w (Exchange.TimesFinite f.client)) Eq Eq (f.tapAttempt s d) (f.tapAttempt s d) := by
  have hsteps := steps_unreported (w := w) f.client
  rw [tapAttempt]
  split
  · exact (hsteps.byRelation (admits_all s)).pairs fun _ _ => rfl
  · split
    · exact (hsteps.tap (admits_all s) (some d)).pairs fun _ _ => rfl
    · exact standard_unreported f s (some d)

/-- A page is kept with reports as it is without, if the timing log spares it. -/
theorem search_unreported (hrounds : ¬TimingEvent.TooLong rounds) (directory label : Option String)
    (hattempt : Pairs (Unreported w I) Eq Eq attempt attempt) :
    PairsTo (Unreported w I) (fun s t => s.exchange = t.exchange) Eq
      (StopAlike (Failure.SameIf (w.timing.SparesArtifacts w.files directory w.wall.stamp)))
      (search rounds s d attempt (.keep directory label))
      (search rounds s d attempt (.keep directory label)) := by
  refine search_pairs (Unreported.keptByReports hrounds) keepsKind_eq (Nat.le_refl _)
    (fun f g h => ⟨by rw [h], fun _ => h⟩) (fun _ _ h => h.exchange)
    (fun _ _ _ _ _ h => ⟨.ok trivial, h⟩) (.refl _) hattempt ?_
  rintro a _ f _ u v rfl rfl huv s t h
  refine ⟨.ok ⟨?_, fun hspares => ?_⟩, h.exchange⟩
  · rw [huv.notes]
    cases f <;> rfl
  · rw [huv.notes, h.wall.1, h.wall.2, h.notes, h.files.2]
    exact congrArg (f.withNotes v.notes.attempts) (hspares _ _ _ h.files.1)

theorem presence_unreported (s : Selector) (r : Except Failure Element) :
    Pairs (Unreported w I) Eq Eq (presence s r) (presence s r) := by
  cases r with
  | ok e => exact .pure rfl
  | error e =>
      rw [presence]
      split
      · refine (Work.ofExcept_pairs (.refl _)).bind ?_
        rintro description _ rfl
        have hrecord : ∀ level message, Pairs (Unreported w I) Eq Eq
            (Work.record level message : Work σ Unit) (Work.record level message) :=
        fun _ _ _ _ h => ⟨.ok rfl, h.logged _ _⟩
        exact (hrecord _ _).bind fun _ _ _ => .pure rfl
      · exact .throw rfl

theorem isPresent_unreported (f : Finder σ) (s : Selector) :
    Pairs (Unreported w (Exchange.TimesFinite f.client)) Eq Eq (f.isPresent s) (f.isPresent s) := by
  have hpresence : Pairs (Unreported w (Exchange.TimesFinite f.client)) Eq Eq
      ((standard f.client s none).attempt >>= presence s)
      ((standard f.client s none).attempt >>= presence s) :=
    Work.attempt_bind_pairs (standard_unreported f s none) (fun e _ he => he ▸ presence_unreported s (.ok e))
      fun g _ hg => hg ▸ presence_unreported s (.error g)
  intro t u h
  exact hpresence _ _ (h.noted fun _ => {})

/-- The search of a call for presence keeps no page, so all of its failures are the same. -/
theorem presenceSearch_unreported (hrounds : ¬TimingEvent.TooLong rounds)
    (hattempt : Pairs (Unreported w I) Eq Eq attempt attempt) :
    Pairs (Unreported w I) Eq (StopAlike Eq) (search rounds s d attempt .drop)
      (search rounds s d attempt .drop) := by
  refine search_pairs (Unreported.keptByReports hrounds) keepsKind_eq (Nat.le_refl _) (fun _ _ h => h)
    (fun _ _ h => h) (Unreported.keptByReports hrounds).record (.refl _)
    hattempt ?_
  rintro a _ f _ u v rfl rfl huv s t h
  refine ⟨.ok ?_, h⟩
  rw [huv.notes]

section

variable (hrounds : ¬TimingEvent.TooLong rounds) (htimes : w.exchange.begun.TimesFinite f.client)
  (configured : Timeouts) (s : Selector)

include htimes in
theorem findOnce_endsAlike : w.EndsAlike (f.findOnce s) :=
  (standard_unreported f s none).sameEnd (fun _ _ h => h) (fun _ _ h => h.exchange)
    (Unreported.begun htimes)

include hrounds htimes

/-- A call that makes its deadline and searches ends alike if its attempts do. -/
theorem endsAlikeIf_of_run {x : Call σ Element} (deadline : Float → Except Failure Deadline)
    {attempts : Deadline → Work σ Element} {directory : Option String}
    (hrun : ∀ u : World σ, x u = match deadline u.now with
      | .ok d => search rounds s d (attempts d) (.keep directory none) u.begun
      | .error e => (.error (.failed e), u.begun))
    (hattempts : ∀ d, Pairs (Unreported w (Exchange.TimesFinite f.client)) Eq Eq (attempts d) (attempts d)) :
    w.EndsAlikeIf (w.timing.SparesArtifacts w.files directory w.wall.stamp) x := by
  rw [EndsAlikeIf, EndsAlike, hrun, hrun, now_timed, now_timed]
  cases deadline w.now with
  | ok d =>
      exact (search_unreported hrounds directory none (hattempts d)).sameButArtifacts
        (Unreported.begun htimes)
  | error e => exact ⟨⟨rfl, rfl⟩, fun _ => ⟨rfl, rfl⟩⟩

theorem find_endsAlike (limit : Limit) :
    w.EndsAlikeIf (w.timing.SparesArtifacts w.files f.artifactsDirectory w.wall.stamp)
      (f.find configured rounds s limit) :=
  endsAlikeIf_of_run hrounds htimes s (f.deadlineAt configured · limit) (fun _ => find_run)
    fun d => standard_unreported f s (some d)

theorem findForTap_endsAlike (limit : Limit) :
    w.EndsAlikeIf (w.timing.SparesArtifacts w.files f.artifactsDirectory w.wall.stamp)
      (f.findForTap configured rounds s limit) :=
  endsAlikeIf_of_run hrounds htimes s (f.deadlineAt configured · limit) (fun _ => findForTap_run)
    fun d => tapAttempt_unreported f s d

theorem appears_endsAlike (milliseconds : Option Int) :
    w.EndsAlike (f.appears configured rounds s milliseconds) := by
  rw [EndsAlike, appears_run, appears_run, now_timed, now_timed]
  cases presenceDeadline configured w.now milliseconds with
  | ok d =>
      dsimp only
      split
      · refine (Call.attempt_bind_pairs
          (presenceSearch_unreported hrounds (standard_unreported f s (some d)))
          (fun _ _ h => h) (F := Eq) ?_ ?_).sameEnd (fun _ _ h => h.eq) (fun _ _ h => h.exchange)
            (Unreported.begun htimes)
        · exact fun e _ he => he ▸ Call.ofWork_pairs (presence_unreported s (.ok e))
        · exact fun g _ hg => hg ▸ Call.ofWork_pairs (presence_unreported s (.error g))
      · exact (Call.ofWork_pairs (isPresent_unreported f s)).sameEnd (fun _ _ h => h.eq)
          (fun _ _ h => h.exchange) (Unreported.begun htimes)
  | error e => exact ⟨rfl, rfl⟩

theorem awaitGone_endsAlike (milliseconds : Int) :
    w.EndsAlike (f.awaitGone configured rounds s milliseconds) := by
  rw [EndsAlike, awaitGone_run, awaitGone_run, now_timed, now_timed]
  cases goneDeadline configured w.now milliseconds with
  | ok d =>
      cases s.describe with
      | ok description =>
          exact (forNo_unreported hrounds (isPresent_unreported f s)).sameEnd (fun _ _ h => h.eq)
            (fun _ _ h => h.exchange) (Unreported.begun htimes)
      | error e => exact ⟨rfl, rfl⟩
  | error e => exact ⟨rfl, rfl⟩

end

end Finder

/-! ## Main result -/

/-- An attempt of the caller: its result, and what it makes of the exchange. -/
abbrev Script (σ α : Type) := Exchange σ → Except Failure α × Exchange σ

/-- The attempt as work. -/
def Script.run (x : Script σ α) : Work σ α := fun s =>
  let (r, y) := x s.exchange
  (r, { s with client := y.client, now := y.now, cancelled := y.cancelled, sent := y.sent })

theorem Script.run_unreported (x : Script σ α) :
    Pairs (World.Unreported w fun _ => True) Eq Eq x.run x.run := by
  intro s t h
  have hafter : (x.run s).2.exchange = (x.run t).2.exchange := by
    show (x s.exchange).2 = (x t.exchange).2
    rw [h.exchange]
  refine ⟨.of_eq (fun _ => rfl) (fun _ => rfl) ?_, hafter, trivial, h.notes, h.wall, h.timing, h.files⟩
  show (x s.exchange).1 = (x t.exchange).1
  rw [h.exchange]

/-- Whether times are reported makes no difference to how a call ends and to what it asks, nor to how any
attempts of a caller are polled, as long as what is reported can be written: fewer attempts than have too
long a number, and times of queries that are finite in milliseconds. Only the artifacts of a failed search for an
element can differ, and they do not if the file of the timing log spares them, as it does if it is not in the way
of their directory. -/
theorem reports_make_no_difference (w : World σ) (hrounds : ¬TimingEvent.TooLong rounds) :
    (∀ (f : Finder σ) (configured : Timeouts) (s : Selector), w.exchange.begun.TimesFinite f.client →
      (∀ limit, w.EndsAlikeIf (w.timing.SparesArtifacts w.files f.artifactsDirectory w.wall.stamp)
        (f.find configured rounds s limit)) ∧
      (∀ limit, w.EndsAlikeIf (w.timing.SparesArtifacts w.files f.artifactsDirectory w.wall.stamp)
        (f.findForTap configured rounds s limit)) ∧
      w.EndsAlike (f.findOnce s) ∧
      (∀ milliseconds, w.EndsAlike (f.appears configured rounds s milliseconds)) ∧
      ∀ milliseconds, w.EndsAlike (f.awaitGone configured rounds s milliseconds)) ∧
    ('/' ∉ w.wall.stamp.toList → ∀ directory, w.timing.Clears w.files directory →
      w.timing.SparesArtifacts w.files directory w.wall.stamp) ∧
    ∀ d description,
      (∀ {α : Type} (x : Script σ α) listed,
        w.EndsAlike (Poll.forResult rounds x.run d description listed)) ∧
      ∀ ask : Script σ Bool, w.EndsAlike (Poll.forNo rounds ask.run d description) := by
  refine ⟨fun f configured s htimes => ⟨Finder.find_endsAlike hrounds htimes configured s,
    Finder.findForTap_endsAlike hrounds htimes configured s, Finder.findOnce_endsAlike htimes s,
    Finder.appears_endsAlike hrounds htimes configured s,
    Finder.awaitGone_endsAlike hrounds htimes configured s⟩,
    fun hstamp _ hclears => hclears.sparesArtifacts hstamp, fun d description => ⟨fun x listed => ?_, fun ask => ?_⟩⟩
  · exact (Poll.forResult_unreported hrounds x.run_unreported).sameEnd (fun _ _ h => h.eq)
      (fun _ _ h => h.exchange) (.timed trivial)
  · exact (Poll.forNo_unreported hrounds ask.run_unreported).sameEnd (fun _ _ h => h.eq)
      (fun _ _ h => h.exchange) (.timed trivial)

/-- A client that finds nothing and shows an empty page. Five seconds are over with its first answer. -/
def idleClient : Client Unit where
  ask
    | .source, u, _ => { outcome := .ok "<AppiumAUT/>", client := u, now := 5.0 }
    | _, u, _ => { outcome := .error (.query "" none), client := u, now := 5.0 }

theorem idleClient_timesFinite (x : Exchange Unit) (hx : x.now = 0.0) : x.TimesFinite idleClient := by
  have hcounted : ∀ span, (TimingEvent.milliseconds span).toOption.isSome = true →
      ∃ n, TimingEvent.milliseconds span = .ok n := by
    intro span h
    cases hspan : TimingEvent.milliseconds span with
    | ok n => exact ⟨n, rfl⟩
    | error f => simp [hspan, Except.toOption] at h
  intro y hy q
  have hnow : y.now = 0.0 ∨ y.now = 5.0 := by
    cases hy with
    | refl => exact Or.inl hx
    | tail _ hstep =>
        obtain ⟨r, -, rfl⟩ := hstep
        cases r <;> exact Or.inr rfl
  refine hcounted _ ?_
  show (TimingEvent.milliseconds (5.0 - y.now)).toOption.isSome = true
  obtain h | h := hnow <;> (rw [h]; decide +kernel)

theorem reports_make_no_difference_save :
    let f : Finder Unit := { client := idleClient, artifactsDirectory := some "pages" }
    let s : Selector := { criteria := { id := some "save" } }
    let w : World Unit := { client := (), wall := ⟨"", ""⟩, timing := { path := some "logs/timing.log" } }
    ¬TimingEvent.TooLong 9 ∧ w.exchange.begun.TimesFinite f.client ∧
      TimingLog.Apart w.files "logs/timing.log" "pages" ∧
      (∀ limit, w.EndsAlike (f.find .usual 9 s limit)) ∧
      (∀ limit, w.EndsAlike (f.findForTap .usual 9 s limit)) ∧
      w.EndsAlike (f.findOnce s) ∧
      (∀ milliseconds, w.EndsAlike (f.appears .usual 9 s milliseconds)) ∧
      ∀ milliseconds, w.EndsAlike (f.awaitGone .usual 9 s milliseconds) := by
  intro f s w
  have hrounds : ¬TimingEvent.TooLong 9 := by decide +kernel
  have htimes : w.exchange.begun.TimesFinite f.client := idleClient_timesFinite _ rfl
  have hapart : TimingLog.Apart w.files "logs/timing.log" "pages" := by decide +kernel
  obtain ⟨hcalls, hclear, -⟩ := reports_make_no_difference w hrounds
  have hspares : w.timing.SparesArtifacts w.files f.artifactsDirectory w.wall.stamp :=
    hclear (by decide) _ (Or.inr (Or.inr ⟨_, _, rfl, rfl, hapart⟩))
  obtain ⟨hfind, htap, honce, happears, hgone⟩ := hcalls f .usual s htimes
  exact ⟨hrounds, htimes, hapart, fun limit => (hfind limit).2 hspares, fun limit => (htap limit).2 hspares,
    honce, happears, hgone⟩

/-- A client that finds every element and is far from the start with its first answer. -/
def distantClient : Client Unit where
  ask
    | .find _ _, u, _ => { outcome := .ok "e1", client := u, now := 1.7e305 }
    | .text _, u, _ => { outcome := .ok "Save", client := u, now := 1.7e305 }
    | .rect _, u, _ => { outcome := .ok {}, client := u, now := 1.7e305 }
    | .displayed _, u, _ => { outcome := .ok true, client := u, now := 1.7e305 }
    | .source, u, _ => { outcome := .ok "<AppiumAUT/>", client := u, now := 1.7e305 }

/-- With the timing log enabled a failed search has no artifacts any more if the log goes to where their directory
should be. And a search that finds its element fails with the log enabled if a query lasts too long, although both of
its moments are finite in milliseconds. -/
theorem reports_can_make_a_difference :
    let f : Finder Unit := { client := idleClient, artifactsDirectory := some "pages" }
    let s : Selector := { criteria := { width := some 40 } }
    let w : World Unit := { client := (), wall := ⟨"", ""⟩, timing := { path := some "pages" } }
    let limit := Limit.untilDeadline ⟨5.0, 0.0, false⟩
    let g : Finder Unit := { client := distantClient }
    let z : World Unit := { client := (), wall := ⟨"", ""⟩, now := -1.7e305 }
    w.exchange.begun.TimesFinite f.client ∧
      ((f.find .usual 9 s limit (w.timed true)).2.files.content? ["pages"]).isSome ∧
      artifactsOf (f.find .usual 9 s limit (w.timed true)).1 = [] ∧
      artifactsOf (f.find .usual 9 s limit (w.timed false)).1 =
        [("page_source", "pages/element__width_40__source.xml")] ∧
      ¬w.EndsAlike (f.find .usual 9 s limit) ∧
      (TimingEvent.milliseconds (-1.7e305)).isOk ∧ (TimingEvent.milliseconds 1.7e305).isOk ∧
      (g.findOnce { criteria := { id := some "save" } } (z.timed false)).1.isOk ∧
      ¬z.EndsAlike (g.findOnce { criteria := { id := some "save" } }) := by
  intro f s w limit g z
  have hlost : artifactsOf (f.find .usual 9 s limit (w.timed true)).1 = [] := by decide +kernel
  have hkept : artifactsOf (f.find .usual 9 s limit (w.timed false)).1 =
      [("page_source", "pages/element__width_40__source.xml")] := by
    decide +kernel
  have hfound : (g.findOnce { criteria := { id := some "save" } } (z.timed false)).1.isOk := by decide +kernel
  have hfailed : ¬(g.findOnce { criteria := { id := some "save" } } (z.timed true)).1.isOk := by decide +kernel
  refine ⟨idleClient_timesFinite _ rfl, by decide +kernel, hlost, hkept, fun h => ?_, by decide +kernel,
    by decide +kernel, hfound, fun h => hfailed ?_⟩
  · have hsame := congrArg artifactsOf h.1
    rw [hlost, hkept] at hsame
    cases hsame
  · rw [h.1]
    exact hfound

end ElementFinder
