import ElementFinder.Proofs.Calls
import ElementFinder.Proofs.Related
import ElementFinder.Proofs.Surroundings

/-!
# How calls fail

Failures of the library itself lead a search to its next attempt, so they never end it. What is left,
if the client fails by query failures only and all texts can be judged, is the missed deadline, a time
that makes no deadline, and a selector or an anchor that cannot be described.
-/

namespace ElementFinder

open Run

variable {σ α β : Type} {s : Selector} {d : Deadline}

/-! ## Failures on a page -/

/-- The failure is that of a missed deadline. -/
def Failure.IsDeadline : Failure → Prop
  | .deadline .. => True
  | _ => False

theorem Failure.IsDeadline.isOwn {f : Failure} (h : f.IsDeadline) : f.isOwn = true := by
  cases f <;> first | rfl | cases h

theorem isParse_of_ofSource_error {source : String} {f : Failure}
    (h : Snapshot.ofSource source = .error f) : f.isParse = true := by
  rw [Snapshot.ofSource] at h
  dsimp only at h
  split at h
  · cases h
  · split at h <;> (cases h; rfl)

theorem isOwn_of_isParse {f : Failure} (hf : f.isParse = true) : f.isOwn = true := by
  cases f <;> first | rfl | cases hf

namespace Selector

/-- All texts that a search for the selector looks at can be judged. -/
def TextsJudged (s : Selector) : Prop := ∀ c ∈ s.judged, ∀ a, ∃ b, c.textMeets a = .ok b

theorem pickIn_error {page : Snapshot} {f : Failure} (h : s.pickIn page = .error f) :
    ∃ a, s.criteria.textMeets a = .error f := by
  rw [pickIn_eq] at h
  obtain hf | ⟨found, _, h⟩ := except_bind_error.mp h
  · obtain ⟨n, _, hn⟩ := Criteria.filterNodes_eq_error hf
    exact ⟨n.attributes, hn⟩
  · obtain ⟨_, hc⟩ | ⟨n, _, hc⟩ := s.chooseCandidate_eq found <;> (rw [hc] at h; cases h)

theorem isOwn_of_pickIn_error {page : Snapshot} {f : Failure} (h : s.pickIn page = .error f) :
    f.isOwn = false := by
  obtain ⟨a, ha⟩ := pickIn_error h
  exact Criteria.isOwn_of_textMeets_error ha

/-- An attempt for a selector whose texts can be judged fails in the library's own way, or as a
description cannot be written. -/
theorem TextsJudged.admits (hs : s.TextsJudged) :
    Attempt.Admits s fun f => f.isOwn = true ∨ s.Undescribed f where
  own _ hf := Or.inl hf
  source _ _ hf := Or.inl (isOwn_of_isParse (isParse_of_ofSource_error hf))
  describe _ hf := Or.inr (Or.inl hf)
  pick page f hf := by
    obtain ⟨a, ha⟩ := pickIn_error hf
    obtain ⟨b, hb⟩ := hs s.criteria List.mem_cons_self a
    rw [hb] at ha
    cases ha
  resolve page f hf := by
    obtain ⟨c, hc, a, ha⟩ | hd | ⟨_, _, _, _, rfl, _⟩ | ⟨_, rfl, _⟩ := resolveIn_error hf
    · obtain ⟨b, hb⟩ := hs c hc a
      rw [hb] at ha
      cases ha
    · exact Or.inr hd
    · exact Or.inl rfl
    · exact Or.inl rfl

end Selector

/-! ## Searches without timing -/

/-- The client fails by query failures only. -/
def Client.FailsByQuery (c : Client σ) : Prop :=
  ∀ r u t f, (c.ask r u t).outcome = .error f → f.isQuery = true

/-- No times are reported, and the files have a property. -/
def Untimed (p : FileTree → Prop) (s : World σ) : Prop := s.timing.enabled = false ∧ p s.files

variable {p : FileTree → Prop} {P : Failure → Prop} {U : Failure → Prop}

namespace Attempt

theorem steps_untimed {c : Client σ} (hc : c.FailsByQuery) (hP : ∀ f, f.isOwn = true → P f) :
    Steps c (fun s t => s = t ∧ Untimed p s) P := by
  refine Parts.steps ⟨fun _ _ h => h.1 ▸ rfl, fun r => keeps_iff.mpr fun s hs => ?_, ?_, ?_, ?_⟩
    fun q started missed => keeps_iff.mpr fun s hs => ?_
  · exact ⟨hs, fun f hf => hP f (isOwn_of_isQuery (hc r s.client s.now f hf))⟩
  · exact fun _ _ => keeps_of_ok (fun _ => rfl) fun _ hs => hs
  · exact fun _ => keeps_of_ok (fun _ => rfl) fun _ hs => hs
  · exact fun _ => keeps_of_ok (fun _ => rfl) fun _ hs => hs
  · rw [reportTime_run, if_neg (by simp [hs.1])]
    exact ⟨hs, by simp⟩

end Attempt

theorem Work.emit_untimed (e : TimingEvent) :
    Keeps (Untimed p) P (Work.emit e : Work σ Unit) := keeps_iff.mpr fun s hs => by
  rw [Work.emit_run, TimingLog.emit, if_neg (by simp [hs.1])]
  exact ⟨hs, by simp⟩

namespace Call

variable {I : World σ → Prop} {P' : Stop → Prop}

theorem ofWork_keeps {x : Work σ α} (hx : Keeps I P x) (hP : ∀ f, P f → P' (.failed f)) :
    Keeps I P' (ofWork x) := keeps_iff.mpr fun s hs => by
  obtain ⟨hafter, hfail⟩ := keeps_iff.mp hx s hs
  rcases h : ofWork x s with ⟨r, u⟩
  obtain ⟨a, ha, rfl⟩ | ⟨f, hf, rfl⟩ := ofWork_inv h
  · rw [ha] at hafter
    exact ⟨hafter, by simp⟩
  · rw [hf] at hafter hfail
    refine ⟨hafter, fun e he => ?_⟩
    cases he
    exact hP f (hfail f rfl)

theorem ofWork_keeps_of_succeeds {x : Work σ α} (hx : Keeps I (fun _ => False) x) :
    Keeps I P' (ofWork x) := ofWork_keeps hx fun _ hf => hf.elim

/-- What comes after work of a call that is run for its result. -/
theorem ofWork_attempt_bind_keeps {x : Work σ α} {k : Except Failure α → Call σ β}
    (hx : Keeps I P x) (hok : ∀ a, Keeps I P' (k (.ok a)))
    (herror : ∀ f, P f → Keeps I P' (k (.error f))) :
    Keeps I P' (ofWork x.attempt >>= k) := keeps_iff.mpr fun s hs => by
  obtain ⟨hafter, hfail⟩ := keeps_iff.mp hx s hs
  rw [attempt_bind]
  cases h : (x s).1 with
  | ok a => exact keeps_iff.mp (hok a) _ hafter
  | error f => exact keeps_iff.mp (herror f (hfail f h)) _ hafter

/-- What comes after a part of a call that is run for its result. -/
theorem attempt_bind_keeps {P : Stop → Prop} {x : Call σ α} {k : Except Failure α → Call σ β}
    (hx : Keeps I P x) (hok : ∀ a, Keeps I P' (k (.ok a)))
    (herror : ∀ f, P (.failed f) → Keeps I P' (k (.error f)))
    (hstop : P .unfinished → P' .unfinished) : Keeps I P' (x.attempt >>= k) :=
  keeps_iff.mpr fun s hs => by
  obtain ⟨hafter, hfail⟩ := keeps_iff.mp hx s hs
  rcases h : x s with ⟨(f | _) | a, u⟩ <;> rw [h] at hafter hfail
  · rw [bind_ok (a := .error f) (t := u) (by rw [attempt, h])]
    exact keeps_iff.mp (herror f (hfail _ rfl)) u hafter
  · rw [bind_error (e := .unfinished) (t := u) (by rw [attempt, h])]
    refine ⟨hafter, fun e he => ?_⟩
    cases he
    exact hstop (hfail _ rfl)
  · rw [bind_ok (a := .ok a) (t := u) (by rw [attempt, h])]
    exact keeps_iff.mp (hok a) u hafter

end Call

/-! ## Polling -/

/-- A call ends as its rounds are used up, at its deadline, or by one of some further failures. -/
def EndsAtDeadlineOr (U : Failure → Prop) : Stop → Prop
  | .unfinished => True
  | .failed f => f.IsDeadline ∨ U f

namespace Poll

/-- Own failures lead to the next attempt, so only the others end the loop. -/
theorem untilResult_keeps {I : World σ → Prop} {attempt : Work σ α}
    (hattempt : Keeps I (fun f => f.isOwn = true ∨ U f) attempt) (rounds count : Nat)
    (last : Option Failure) :
    Keeps I (EndsAtDeadlineOr U) (untilResult attempt Failure.isOwn d rounds count last) := by
  induction rounds generalizing count last with
  | zero => exact .throw trivial
  | succ rounds ih =>
      rw [untilResult]
      have hexpired : Keeps I (fun _ => False) (Work.expired (some d) : Work σ Bool) :=
        keeps_of_ok (fun _ => rfl) fun _ hs => hs
      refine (Call.ofWork_keeps_of_succeeds hexpired).bind fun past => ?_
      split
      · exact .pure _
      · refine Call.ofWork_attempt_bind_keeps hattempt (fun a => .pure _) fun f hf => ?_
        dsimp only
        split
        · exact ih _ _
        · next hown => exact .throw (Or.inr (hf.resolve_left hown))

theorem reported_keeps {description : String} {loop : Call σ (Polled α)}
    {text : Deadline → Option Failure → String}
    (hloop : Keeps (Untimed p) (EndsAtDeadlineOr U) loop) :
    Keeps (Untimed p) (EndsAtDeadlineOr U) (reported description d loop text) := by
  have hnow : Keeps (Untimed p) (fun _ => False) (Work.now : Work σ Float) :=
    keeps_of_ok (fun _ => rfl) fun _ hs => hs
  have hemit : ∀ e, Keeps (Untimed p) (EndsAtDeadlineOr U)
      (Call.ofWork (Work.emit e) : Call σ Unit) :=
    fun e => Call.ofWork_keeps_of_succeeds (Work.emit_untimed e)
  refine (hemit _).bind fun _ => hloop.bind fun polled => ?_
  cases polled with
  | found a count =>
      exact (Call.ofWork_keeps_of_succeeds (hnow.bind fun _ => Work.emit_untimed _)).bind
        fun _ => .pure _
  | missed count last =>
      have hstanding : Keeps (Untimed p) (fun _ => False) (Work.standing d : Work σ Deadline) :=
        keeps_of_ok (fun _ => rfl) fun _ hs => hs
      exact (Call.ofWork_keeps_of_succeeds hnow).bind fun _ =>
        (Call.ofWork_keeps_of_succeeds hstanding).bind fun _ =>
          (hemit _).bind fun _ => .throw (Or.inl trivial)

end Poll

/-! ## Calls -/

namespace Finder

variable {f : Finder σ} {configured : Timeouts} {rounds : Nat} {limit : Limit} {w : World σ}

theorem search_keeps {attempt : Work σ Element} {keeping : Keeping}
    (hattempt : Keeps (Untimed p) (fun f => f.isOwn = true ∨ U f) attempt)
    (hdescribe : ∀ f, s.describe = .error f → U f)
    (hkeeping : ∀ description, Keeps (Untimed p) (fun _ => False)
      (keeping.run description : Work σ (List (String × String)))) :
    Keeps (Untimed p) (EndsAtDeadlineOr U) (search rounds s d attempt keeping) := by
  have hrecord : ∀ level message, Keeps (Untimed p) (EndsAtDeadlineOr U)
      (Call.ofWork (Work.record level message) : Call σ Unit) :=
    fun level message => Call.ofWork_keeps_of_succeeds (keeps_of_ok (fun _ => rfl) fun _ hs => hs)
  have hfresh : Keeps (Untimed p) (fun f => f.isOwn = true ∨ U f) (fresh attempt) := by
    rw [fresh]
    exact Respects.bind (keeps_of_ok (fun _ => rfl) fun _ hs => hs) fun _ => hattempt
  refine (Call.ofWork_keeps (Work.ofExcept_respects hdescribe) fun _ hf => Or.inr hf).bind
    fun description => (hrecord _ _).bind fun _ => Call.attempt_bind_keeps
      (Poll.reported_keeps (Poll.untilResult_keeps hfresh _ _ _)) (fun e => ?_) (fun g hg => ?_) id
  · exact (hrecord _ _).bind fun _ => .pure _
  · cases g with
    | deadline text wrapped about timeout count elapsed attempts artifacts =>
        have hget : Keeps (Untimed p) (EndsAtDeadlineOr U) (get : Call σ (World σ)) :=
          keeps_of_ok (fun _ => rfl) fun _ hs => hs
        exact hget.bind fun _ => (Call.ofWork_keeps_of_succeeds (hkeeping _)).bind fun _ =>
          (hrecord _ _).bind fun _ => .throw (Or.inl trivial)
    | _ => exact .throw hg

/-- A search for a selector without a description fails at once. -/
theorem search_undescribed {attempt : Work σ Element} {keeping : Keeping} {g : Failure}
    (hd : s.describe = .error g) :
    search rounds s d attempt keeping w = (.error (.failed g), w) := by
  rw [search, Call.ofWork_bind_run (Work.ofExcept_run _), hd]

theorem keepPage_keeps (directory label : Option String) (description : String) :
    Keeps (Untimed fun _ => True) (fun _ => False)
      ((Keeping.keep directory label).run description : Work σ (List (String × String))) :=
  keeps_of_ok (fun _ => rfl) fun _ hs => ⟨hs.1, trivial⟩

theorem presence_error_keeps {g : Failure} (hg : g.isOwn = true ∨ s.Undescribed g) :
    Keeps (Untimed p) s.Undescribed (presence s (.error g) : Work σ Bool) := by
  rw [presence]
  split
  · refine Respects.bind (Work.ofExcept_respects fun g hg => Or.inl hg) fun _ => ?_
    exact Respects.bind (keeps_of_ok (fun _ => rfl) fun _ hs => hs) fun _ => .pure _
  · next hown => exact .throw (hg.resolve_left hown)

theorem isPresent_keeps
    (hattempt : Keeps (Untimed p) (fun f => f.isOwn = true ∨ s.Undescribed f)
      (Attempt.standard f.client s none)) :
    Keeps (Untimed p) s.Undescribed (f.isPresent s) :=
  Respects.bind (keeps_of_ok (fun _ => rfl) fun _ hs => hs) fun _ =>
    Work.attempt_bind_respects hattempt (fun _ => .pure _) fun _ hg => presence_error_keeps hg

/-- A call that waits and a call that asks once answer unless a description cannot be written. -/
theorem appears_keeps (configured : Timeouts) (rounds : Nat) (milliseconds : Option Int)
    (hattempt : ∀ limit, Keeps (Untimed p) (fun f => f.isOwn = true ∨ s.Undescribed f)
      (Attempt.standard f.client s limit))
    (hw : Untimed p w.begun) :
    Untimed p (f.appears configured rounds s milliseconds w).2 ∧
      ∀ g, (f.appears configured rounds s milliseconds w).1 = .error (.failed g) →
        presenceDeadline configured w.now milliseconds = .error g ∨ s.Undescribed g := by
  let ends : Stop → Prop := fun stop => ∀ g, stop = .failed g → s.Undescribed g
  have hfailed : ∀ g, s.Undescribed g → ends (.failed g) := by
    rintro g hg _ ⟨rfl⟩
    exact hg
  rw [appears_run]
  cases presenceDeadline configured w.now milliseconds with
  | error e =>
      refine ⟨hw, fun g hg => ?_⟩
      cases hg
      exact Or.inl rfl
  | ok d =>
      dsimp only
      split
      · have hsearch : Keeps (Untimed p) (EndsAtDeadlineOr s.Undescribed)
            (search rounds s d (Attempt.standard f.client s (some d)) .drop) :=
          search_keeps (hattempt _) (fun _ hf => Or.inl hf) fun _ => .pure _
        have hcall : Keeps (Untimed p) ends
            ((search rounds s d (Attempt.standard f.client s (some d)) .drop).attempt >>= fun r =>
              Call.ofWork (presence s r)) := by
          refine Call.attempt_bind_keeps hsearch (fun e => .pure true) (fun g hg => ?_)
            (by simp [ends])
          exact Call.ofWork_keeps (presence_error_keeps (hg.imp_left Failure.IsDeadline.isOwn))
            hfailed
        obtain ⟨hafter, hends⟩ := keeps_iff.mp hcall _ hw
        exact ⟨hafter, fun g hg => Or.inr (hends _ hg g rfl)⟩
      · have hcall : Keeps (Untimed p) ends (Call.ofWork (f.isPresent s)) :=
          Call.ofWork_keeps (isPresent_keeps (hattempt none)) hfailed
        obtain ⟨hafter, hends⟩ := keeps_iff.mp hcall _ hw
        exact ⟨hafter, fun g hg => Or.inr (hends _ hg g rfl)⟩

end Finder

/-! ## Main result -/

open Finder

/-- A call for an element fails by its missed deadline, except that a time that makes no deadline and a
description that cannot be written end it with their own failure. -/
structure EndsTyped (deadline : Except Failure Deadline) (s : Selector) (r : Except Stop Element) :
    Prop where
  failure : ∀ g, r = .error (.failed g) → g.IsDeadline ∨ deadline = .error g ∨ s.Undescribed g
  undated : ∀ g, deadline = .error g → r = .error (.failed g)
  undescribed : ∀ d g, deadline = .ok d → s.describe = .error g → r = .error (.failed g)

theorem endsTyped_of_run {rounds : Nat} {deadline : Except Failure Deadline} {w : World σ}
    {attempts : Deadline → Work σ Element} {directory label : Option String}
    {o : Except Stop Element × World σ} (hw : w.timing.enabled = false)
    (hattempt : ∀ d, Keeps (Untimed fun _ => True) (fun f => f.isOwn = true ∨ s.Undescribed f)
      (attempts d))
    (hrun : o = match deadline with
      | .ok d => search rounds s d (attempts d) (.keep directory label) w.begun
      | .error e => (.error (.failed e), w.begun)) : EndsTyped deadline s o.1 := by
  subst hrun
  cases deadline with
  | error e =>
      refine ⟨fun g hg => ?_, fun g hg => ?_, by simp⟩
      · cases hg
        exact Or.inr (Or.inl rfl)
      · cases hg
        rfl
  | ok d =>
      have hsearch : Keeps (Untimed fun _ => True) (EndsAtDeadlineOr s.Undescribed)
          (search rounds s d (attempts d) (.keep directory label)) :=
        search_keeps (hattempt d) (fun _ hf => Or.inl hf) (keepPage_keeps directory label)
      refine ⟨fun g hg => ?_, by simp, fun d' g hd hs => ?_⟩
      · exact ((keeps_iff.mp hsearch w.begun ⟨hw, trivial⟩).2 _ hg).imp_right Or.inr
      · exact congrArg Prod.fst (search_undescribed hs)

/-- With a client that fails by query failures only and texts that can be judged, a call for an element
that ends gives the element or misses its deadline, unless a description cannot be written. A question
for presence gives an answer on the same condition, and no file is written for it. -/
theorem calls_end_typed (f : Finder σ) (configured : Timeouts) (rounds : Nat) (w : World σ)
    {s : Selector} (hclient : f.client.FailsByQuery) (htexts : s.TextsJudged)
    (htiming : w.timing.enabled = false) :
    (∀ limit, EndsTyped (f.deadlineAt configured w.now limit) s
      (f.find configured rounds s limit w).1) ∧
    (∀ limit, EndsTyped (f.deadlineAt configured w.now limit) s
      (f.findForTap configured rounds s limit w).1) ∧
    (∀ m name bindings limit, m.selector (.text name) bindings = .ok s →
      EndsTyped (f.deadlineAt configured w.now (f.namedLimit m.settings limit)) s
        (f.findNamed configured rounds m (.text name) bindings limit w).1) ∧
    ∀ milliseconds,
      (∀ g, (f.appears configured rounds s milliseconds w).1 = .error (.failed g) →
        presenceDeadline configured w.now milliseconds = .error g ∨ s.Undescribed g) ∧
      (f.appears configured rounds s milliseconds w).2.files = w.files := by
  have hsteps : ∀ p : FileTree → Prop, Attempt.Steps f.client (fun s t => s = t ∧ Untimed p s)
      (fun g => g.isOwn = true ∨ s.Undescribed g) :=
    fun p => Attempt.steps_untimed hclient fun _ hg => Or.inl hg
  have hstandard : ∀ p limit, Keeps (Untimed p) (fun g => g.isOwn = true ∨ s.Undescribed g)
      (Attempt.standard f.client s limit) := fun p limit => (hsteps p).standard htexts.admits limit
  refine ⟨fun limit => endsTyped_of_run htiming (fun d => hstandard _ _) find_run, fun limit => ?_,
    fun m name bindings limit hs => ?_, fun milliseconds => ?_⟩
  · refine endsTyped_of_run htiming (fun d => ?_) findForTap_run
    rw [tapAttempt]
    split
    · exact (hsteps _).byRelation htexts.admits
    · split
      · exact (hsteps _).tap htexts.admits _
      · exact hstandard _ _
  · exact endsTyped_of_run htiming (fun d => hstandard _ _) (findNamed_run hs)
  · obtain ⟨⟨_, hfiles⟩, hfails⟩ := appears_keeps configured rounds milliseconds
      (hstandard (· = w.files)) ⟨htiming, rfl⟩
    exact ⟨hfails, hfiles⟩

/-- A client that finds nothing; each of its answers takes a second. -/
def emptyClient : Client Unit where
  ask _ u t := { outcome := .error (.query "" none), client := u, now := t + 1.0 }

theorem emptyClient_failsByQuery : emptyClient.FailsByQuery := by
  intro r u t f hf
  cases hf
  rfl

theorem textsJudged_of_textless {s : Selector} (hs : ∀ c ∈ s.judged, c.text = none) :
    s.TextsJudged := by
  intro c hc a
  exact ⟨true, by rw [Criteria.textMeets, hs c hc]; rfl⟩

theorem calls_end_typed_save :
    let f : Finder Unit := { client := emptyClient }
    let s : Selector := { criteria := { id := some "save" } }
    let w : World Unit := { client := (), wall := ⟨"", ""⟩ }
    f.client.FailsByQuery ∧ s.TextsJudged ∧ w.timing.enabled = false ∧
      (∀ limit, EndsTyped (f.deadlineAt .usual w.now limit) s (f.find .usual 9 s limit w).1) ∧
      (∀ limit, EndsTyped (f.deadlineAt .usual w.now limit) s
        (f.findForTap .usual 9 s limit w).1) ∧
      (∀ m name bindings limit, m.selector (.text name) bindings = .ok s →
        EndsTyped (f.deadlineAt .usual w.now (f.namedLimit m.settings limit)) s
          (f.findNamed .usual 9 m (.text name) bindings limit w).1) ∧
      ∀ milliseconds,
        (∀ g, (f.appears .usual 9 s milliseconds w).1 = .error (.failed g) →
          presenceDeadline .usual w.now milliseconds = .error g ∨ s.Undescribed g) ∧
        (f.appears .usual 9 s milliseconds w).2.files = w.files := by
  intro f s w
  have htexts : s.TextsJudged := textsJudged_of_textless (by decide)
  exact ⟨emptyClient_failsByQuery, htexts, rfl,
    calls_end_typed f .usual 9 w emptyClient_failsByQuery htexts rfl⟩

/-- A call for a width of more digits than can be written ends with the failure of writing it. -/
theorem wide_call_ends_untyped :
    let f : Finder Unit := { client := emptyClient }
    let s : Selector := { criteria := { width := some (Int.ofNat (Nat.pow 10 Numeral.digitLimit)) } }
    let w : World Unit := { client := (), wall := ⟨"", ""⟩ }
    f.client.FailsByQuery ∧ s.TextsJudged ∧ w.timing.enabled = false ∧
      ∃ text, (f.find .usual 9 s (.untilDeadline ⟨5.0, 0.0, false⟩) w).1 =
        .error (.failed (.value text)) := by
  intro f s w
  have hundescribed : s.describe.toOption = none := by decide +kernel
  cases hd : s.describe with
  | ok text => simp [hd, Except.toOption] at hundescribed
  | error g =>
      obtain ⟨fault, rfl⟩ := Selector.describe_error hd
      refine ⟨emptyClient_failsByQuery, textsJudged_of_textless (by decide), rfl, fault.message, ?_⟩
      rw [find_run]
      exact congrArg Prod.fst (search_undescribed hd)

end ElementFinder
