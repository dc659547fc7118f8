import ElementFinder.Proofs.KeptPages
import ElementFinder.Proofs.Reports
import ElementFinder.Selector.Basic

/-!
# Lines of events in a file

Each event that is emitted adds one text with a line feed behind it to the file of the timing log, whatever
is configured, enabled and disabled in between. The text is one line if the words of the event have no line
feed; nothing takes a line feed out of a description or of a detail.
-/

namespace ElementFinder

/-! ## Lines -/

namespace Text

/-- The text can stand in one line. -/
def InLine (s : String) : Prop := '\n' ∉ s.toList

instance : DecidablePred InLine := fun s => inferInstanceAs (Decidable ('\n' ∉ s.toList))

@[simp] theorem inLine_append {a b : String} : InLine (a ++ b) ↔ InLine a ∧ InLine b := by
  simp [InLine]

theorem inLine_joined {sep : String} (hsep : InLine sep) {texts : List String} :
    InLine (joined sep texts) ↔ ∀ s ∈ texts, InLine s := by
  fun_induction joined sep texts with
  | case1 => simp [InLine]
  | case2 => simp
  | case3 a b rest ih =>
      rw [inLine_append, inLine_append, ih, and_iff_left hsep, List.forall_mem_cons (a := a)]

theorem notMem_of_mem_splitAt {sep : Char} {cs piece : List Char} (h : piece ∈ splitAt sep cs) :
    sep ∉ piece := by
  induction cs generalizing piece with
  | nil => simp_all [splitAt]
  | cons c cs ih =>
      rw [splitAt] at h
      split at h
      · obtain rfl | h := List.mem_cons.mp h
        · exact List.not_mem_nil
        · exact ih h
      · next hc =>
        cases hsplit : splitAt sep cs with
        | nil => exact absurd hsplit (splitAt_ne_nil sep cs)
        | cons first more =>
            rw [hsplit] at h ih
            obtain rfl | h := List.mem_cons.mp h
            · exact List.not_mem_cons_of_ne_of_not_mem (Ne.symm hc) (ih List.mem_cons_self)
            · exact ih (List.mem_cons_of_mem _ h)

/-- Pieces that end with a separator each are found again if they do not hold it, and only then. -/
theorem splitAt_flatMap_eq_iff {sep : Char} {pieces : List (List Char)} :
    splitAt sep (pieces.flatMap (· ++ [sep])) = pieces ++ [[]] ↔ ∀ piece ∈ pieces, sep ∉ piece := by
  constructor
  · intro h piece hpiece
    exact notMem_of_mem_splitAt (h ▸ List.mem_append_left _ hpiece)
  · intro h
    induction pieces with
    | nil => rfl
    | cons piece pieces ih =>
        rw [List.forall_mem_cons] at h
        rw [List.flatMap_cons, List.append_assoc, List.singleton_append, splitAt_append, ih h.2,
          splitAt_of_notMem h.1]
        rfl

/-- There are as many separators as pieces if no piece holds one, and only then. -/
theorem count_flatMap_eq_length_iff {sep : Char} {pieces : List (List Char)} :
    (pieces.flatMap (· ++ [sep])).count sep = pieces.length ↔ ∀ piece ∈ pieces, sep ∉ piece := by
  have hle : ∀ pieces : List (List Char), pieces.length ≤ (pieces.flatMap (· ++ [sep])).count sep := by
    intro pieces
    induction pieces with
    | nil => exact Nat.le_refl 0
    | cons piece pieces ih => simp; omega
  induction pieces with
  | nil => simp
  | cons piece pieces ih =>
      have hrest := hle pieces
      simp only [List.flatMap_cons, List.count_append, List.count_singleton_self, List.length_cons,
        List.forall_mem_cons]
      constructor
      · intro h
        exact ⟨List.count_eq_zero.mp (by omega), ih.mp (by omega)⟩
      · rintro ⟨hpiece, hpieces⟩
        have hpiece := List.count_eq_zero.mpr hpiece
        have hpieces := ih.mpr hpieces
        omega

/-- The text is made of the given lines, each with a line feed behind it. -/
def IsLines (lines : List String) (text : String) : Prop :=
  splitAt '\n' text.toList = lines.map String.toList ++ [[]]

instance {lines : List String} {text : String} : Decidable (IsLines lines text) :=
  inferInstanceAs (Decidable (_ = _))

end Text

open Text

/-! ## Events -/

namespace TimingEvent

variable {e : TimingEvent} {time line : String}

/-- No word of an event breaks its line. -/
structure Unbroken (e : TimingEvent) : Prop where
  status : InLine (lower e.status)
  name : InLine e.name
  description : ∀ d ∈ e.description, InLine d
  details : ∀ p ∈ e.details, ∀ text, p.1.writeOrFail = .ok text ∨ p.2.writeOrFail = .ok text → InLine text

theorem inLine_detail {p : Value × Value} {text : String} (h : detail p = .ok text) : InLine text ↔
    ∀ text, p.1.writeOrFail = .ok text ∨ p.2.writeOrFail = .ok text → InLine text := by
  obtain ⟨name, hname, h⟩ := except_bind_ok.mp h
  obtain ⟨value, hvalue, h⟩ := except_bind_ok.mp h
  cases h
  rw [inLine_append, inLine_append, hname, hvalue]
  constructor
  · rintro ⟨⟨hname, -⟩, hvalue⟩ text (h | h)
    · exact Except.ok.inj h ▸ hname
    · exact Except.ok.inj h ▸ hvalue
  · exact fun h => ⟨⟨h name (Or.inl rfl), by decide⟩, h value (Or.inr rfl)⟩

/-- Where an event is written, each of its words stands in the line as it is. -/
theorem inLine_line_iff (h : e.line time = .ok line) (htime : InLine time) : InLine line ↔ e.Unbroken := by
  obtain ⟨details, hdetails, h⟩ := except_bind_ok.mp h
  cases h
  have hdescription : (∀ s ∈ ((e.description.filter (!·.isEmpty)).map ("description=" ++ ·)).toList,
      InLine s) ↔ ∀ d ∈ e.description, InLine d := by
    cases hd : e.description with
    | none => simp
    | some d =>
        by_cases hempty : d = ""
        · subst hempty
          exact iff_of_true (by simp) (by simp [InLine])
        · simp_all [InLine]
  have hparts : (∀ text ∈ details, InLine text) ↔ ∀ p ∈ e.details, ∀ text,
      p.1.writeOrFail = .ok text ∨ p.2.writeOrFail = .ok text → InLine text := by
    rw [except_mapM_forall hdetails]
    refine forall₂_congr fun p hp => ?_
    obtain ⟨text, htext⟩ := except_mapM_exists_ok.mp ⟨_, hdetails⟩ p hp
    rw [htext, ← inLine_detail htext]
    simp
  have hfixed : (∀ s ∈ ["[" ++ lower e.status ++ "]", "[timing]", "time=" ++ time, "event=" ++ e.name],
      InLine s) ↔ InLine (lower e.status) ∧ InLine e.name := by
    simp_all [InLine]
  rw [inLine_joined (by decide), List.forall_mem_append, List.forall_mem_append, hfixed, hdescription, hparts]
  constructor
  · rintro ⟨⟨⟨hstatus, hname⟩, hdescription⟩, hdetails⟩
    exact ⟨hstatus, hname, hdescription, hdetails⟩
  · rintro ⟨hstatus, hname, hdescription, hdetails⟩
    exact ⟨⟨⟨hstatus, hname⟩, hdescription⟩, hdetails⟩

theorem line_start (h : e.line time = .ok line) :
    ∃ rest, line = "[" ++ lower e.status ++ "] [timing]" ++ rest := by
  obtain ⟨details, -, h⟩ := except_bind_ok.mp h
  cases h
  refine ⟨" " ++ joined " " (["time=" ++ time, "event=" ++ e.name] ++
    ((e.description.filter (!·.isEmpty)).map ("description=" ++ ·)).toList ++ details), ?_⟩
  simp only [List.cons_append, List.nil_append, joined]
  simp only [String.append_assoc]
  rfl

end TimingEvent

/-! ## Calls -/

/-- What is reported to a timing log. -/
inductive TimingReport where
  | log (e : TimingEvent)
  | started (description : String) (d : Deadline)
  | succeeded (description : String) (d : Deadline) (now : Float) (attempts : Int)
  | failed (description : String) (d : Deadline) (now : Float) (attempts : Int) (last : Option Failure)
  | queried (description query : String) (started now : Float) (missed : Bool)

def TimingReport.event : TimingReport → Except Failure TimingEvent
  | log e => .ok e
  | started description d => .ok (.started description d)
  | succeeded description d now attempts => .ok (.succeeded description d now attempts)
  | failed description d now attempts last => .ok (.failed description d now attempts last)
  | queried description query start now missed => TimingEvent.queried description query start now missed

/-- What a program asks of a timing log. -/
inductive TimingCall where
  | configure (console : Bool) (path : Option String) (level : String)
  | enable
  | disable
  | report (r : TimingReport)

/-- A line of an event. -/
structure Emission where
  event : TimingEvent
  time : String
  line : String
  written : event.line time = .ok line

/-- The line of an event at a time of day, if it can be written. -/
def TimingEvent.emission? (time : String) (e : TimingEvent) : Option Emission :=
  match h : e.line time with
  | .ok line => some ⟨e, time, line, h⟩
  | .error _ => none

theorem TimingEvent.emission?_of_line {e : TimingEvent} {time line : String} (h : e.line time = .ok line) :
    e.emission? time = some ⟨e, time, line, h⟩ := by
  rw [emission?]
  split
  · next h' =>
    cases h.symm.trans h'
    rfl
  · next h' => cases h.symm.trans h'

theorem TimingEvent.emission?_of_error {e : TimingEvent} {time : String} {f : Failure}
    (h : e.line time = .error f) : e.emission? time = none := by
  rw [emission?]
  split
  · next h' => cases h.symm.trans h'
  · rfl

def TimingReport.emission? (time : String) (r : TimingReport) : Option Emission :=
  match r.event with
  | .ok e => e.emission? time
  | .error _ => none

theorem TimingReport.time_of_emission? {r : TimingReport} {time : String} {m : Emission}
    (h : r.emission? time = some m) : m.time = time := by
  rw [emission?] at h
  split at h
  · next e _ =>
    cases hline : e.line time with
    | error f =>
        rw [e.emission?_of_error hline] at h
        cases h
    | ok line =>
        rw [e.emission?_of_line hline] at h
        cases h
        rfl
  · cases h

/-- A report has a line if there is an event that can be written. -/
theorem TimingReport.emission?_isSome_iff {r : TimingReport} {time : String} :
    (r.emission? time).isSome ↔ ∃ e, r.event = .ok e ∧ ¬e.HoldsTooLong := by
  rw [emission?]
  cases r.event with
  | error f => simp
  | ok e =>
      simp only [Except.ok.injEq, exists_eq_left', ← (e.line_failsWhen time).exists_ok_iff]
      cases hline : e.line time with
      | error f => simp [e.emission?_of_error hline]
      | ok line => simp [e.emission?_of_line hline]

def Emission.text (m : Emission) : String := m.line ++ "\n"

/-- A timing log with the files that it writes to. -/
structure Recorder where
  log : TimingLog := {}
  files : FileTree := {}

namespace Recorder

open FileTree

/-- What comes of a call at a time of day, and the records that it gives. A call that fails does nothing. -/
def step (s : Recorder) : String × TimingCall → Recorder × Log
  | (_, .configure console path level) =>
    match s.log.configure console path level with
    | .ok log => ({ s with log }, [])
    | .error _ => (s, [])
  | (_, .enable) => ({ s with log := { s.log with enabled := true } }, [])
  | (_, .disable) => ({ s with log := { s.log with enabled := false } }, [])
  | (time, .report r) =>
    match r.event >>= fun e => s.log.emit time e s.files with
    | .ok (files, records) => ({ s with files }, records)
    | .error _ => (s, [])

/-- What stands in the file at a place. -/
def text (s : Recorder) (p : Place) : String := (s.files.content? p).getD ""

/-- The place of the file that lines go to, if there is one. -/
def place? (s : Recorder) : Option Place :=
  (givenText? s.log.path).map fun path => plainNames (s.files.origin path) path

/-- The report of a call that is for the file at a place. -/
def due? (s : Recorder) (p : Place) : TimingCall → Option TimingReport
  | .report r => if s.log.enabled ∧ s.place? = some p then some r else none
  | _ => none

/-- The state after some calls, each at its time of day. -/
def after (s : Recorder) : List (String × TimingCall) → Recorder
  | [] => s
  | c :: rest => (s.step c).1.after rest

/-- The records of some calls. -/
def records (s : Recorder) : List (String × TimingCall) → Log
  | [] => []
  | c :: rest => (s.step c).2 ++ (s.step c).1.records rest

/-- The reports for the file at a place, while the log is enabled, with their times of day. -/
def reports (s : Recorder) (p : Place) : List (String × TimingCall) → List (String × TimingReport)
  | [] => []
  | c :: rest => ((s.due? p c.2).map (c.1, ·)).toList ++ (s.step c).1.reports p rest

/-- The lines of the reports for the file at a place. -/
def emissions (s : Recorder) (p : Place) (calls : List (String × TimingCall)) : List Emission :=
  (s.reports p calls).filterMap fun r => r.2.emission? r.1

end Recorder

/-! ## Files -/

namespace TimingLog

open FileTree

variable {log : TimingLog} {line : String} {files : FileTree}

theorem content?_appendLine {path : String} (h : notWritten path ∉ (appendLine path line files).2)
    (p : Place) : ((appendLine path line files).1.content? p).getD "" =
      (files.content? p).getD "" ++ if plainNames (files.origin path) path = p then line ++ "\n" else "" := by
  have hmade := Grows.makeDirectories files (files.directoryOf path)
  have hsame := content?_makeDirectories files (files.directoryOf path)
  obtain hfailed | ⟨after, happend, hdone⟩ := appendLine_cases path line files
  · simp [hfailed] at h
  · rw [hdone]
    obtain ⟨q, hq, rfl⟩ := Option.map_eq_some_iff.mp happend
    have hplace : q = plainNames (files.origin path) path := by
      rw [filePlace?_lands hq, origin_congr hmade.working, plainNames_eq]
    by_cases hp : p = q
    · subst hp
      rw [if_pos hplace.symm, content?_put_self, hsame, Option.getD_some]
    · rw [content?_put _ hp, hsame, if_neg (by rwa [← hplace, eq_comm]), String.append_empty]

theorem content?_write {isError : Bool} (h : ∀ path, notWritten path ∉ (log.write line isError files).2)
    (p : Place) : ((log.write line isError files).1.content? p).getD "" =
      (files.content? p).getD "" ++
        if (givenText? log.path).map (fun path => plainNames (files.origin path) path) = some p then
          line ++ "\n" else "" := by
  rw [write, ← givenText?] at h ⊢
  cases hpath : givenText? log.path with
  | none => simp
  | some path =>
      rw [hpath] at h
      have h := h path
      dsimp only at h ⊢
      rw [List.mem_append, not_or] at h
      rw [content?_appendLine h.2]
      simp only [Option.map_some, Option.some_inj]

end TimingLog

namespace Recorder

variable {s : Recorder} {time : String} {p : Place}

theorem step_report (r : TimingReport) : s.step (time, .report r) =
    if s.log.enabled then
      match r.emission? time with
      | some m => ({ s with files := (s.log.write m.line m.event.isError s.files).1 },
          (s.log.write m.line m.event.isError s.files).2)
      | none => (s, [])
    else (s, []) := by
  rw [step, TimingReport.emission?]
  cases r.event with
  | error f => exact (ite_self _).symm
  | ok e =>
      show (match s.log.emit time e s.files with | .ok (files, records) => _ | .error _ => _) = _
      rw [TimingLog.emit]
      cases s.log.enabled with
      | false => rfl
      | true =>
          cases hline : e.line time with
          | error f => simp [e.emission?_of_error hline, Except.map]
          | ok line => simp [e.emission?_of_line hline, Except.map]

theorem text_step {c : String × TimingCall} (h : ∀ path, TimingLog.notWritten path ∉ (s.step c).2) :
    (s.step c).1.text p =
      s.text p ++ (((s.due? p c.2).bind (·.emission? c.1)).map Emission.text).getD "" := by
  obtain ⟨time, c⟩ := c
  cases c with
  | configure console path level =>
      rw [step]
      cases s.log.configure console path level <;> simp [text, due?]
  | enable => simp [step, text, due?]
  | disable => simp [step, text, due?]
  | report r =>
      -- Only a report writes, and only what is due at the place is written there.
      rw [step_report] at h ⊢
      cases henabled : s.log.enabled with
      | false => simp [due?, henabled]
      | true =>
          have hdue : s.due? p (.report r) = if s.place? = some p then some r else none := by
            simp [due?, henabled]
          rw [henabled] at h
          rw [hdue]
          cases hline : r.emission? time with
          | none => by_cases hplace : s.place? = some p <;> simp [hplace, hline]
          | some m =>
              rw [hline] at h
              have hwritten := TimingLog.content?_write h p
              rw [← place?] at hwritten
              by_cases hplace : s.place? = some p <;> simp_all [text, Emission.text]

variable {calls : List (String × TimingCall)}

theorem emissions_cons (c : String × TimingCall) (rest : List (String × TimingCall)) :
    s.emissions p (c :: rest) =
      ((s.due? p c.2).bind (·.emission? c.1)).toList ++ (s.step c).1.emissions p rest := by
  rw [emissions, reports, List.filterMap_append, ← emissions]
  cases s.due? p c.2 with
  | none => rfl
  | some r => cases h : r.emission? c.1 <;> simp [h]

/-- A file gains the lines that were emitted to it, in their order, and nothing else. -/
theorem text_after (h : ∀ path, TimingLog.notWritten path ∉ s.records calls) :
    (s.after calls).text p = s.text p ++ String.join ((s.emissions p calls).map Emission.text) := by
  induction calls generalizing s with
  | nil => simp [after, emissions, reports]
  | cons c rest ih =>
      simp only [records, List.mem_append, not_or, forall_and] at h
      rw [after, ih h.2, text_step h.1, emissions_cons, List.map_append, String.append_assoc]
      cases (s.due? p c.2).bind (·.emission? c.1) <;> simp

theorem time_mem_of_mem_emissions {m : Emission} (h : m ∈ s.emissions p calls) :
    m.time ∈ calls.map Prod.fst := by
  induction calls generalizing s with
  | nil => cases h
  | cons c rest ih =>
      rw [emissions_cons, List.mem_append, Option.mem_toList, Option.bind_eq_some_iff] at h
      obtain ⟨r, -, hr⟩ | h := h
      · rw [TimingReport.time_of_emission? hr]
        exact List.mem_cons_self
      · exact List.mem_cons_of_mem _ (ih h)

end Recorder

open Recorder

/-- A file gains the text of the events that were emitted while the log was enabled and this file configured;
each begins with its status. The text is one line for each event, in the order of emission, if no word of an
event has a line feed. Otherwise not even the number of lines is that of the events. A report is emitted if
there is an event, and no integer in it is too long to be written. -/
theorem file_has_line_for_each_event_iff {s : Recorder} {p : Place} {calls : List (String × TimingCall)}
    (htimes : ∀ c ∈ calls, InLine c.1) (hwritten : ∀ path, TimingLog.notWritten path ∉ s.records calls) :
    ∃ added : String, (s.after calls).text p = s.text p ++ added ∧
      (∀ m ∈ s.emissions p calls, ∃ rest,
        m.line = "[" ++ lower m.event.status ++ "] [timing]" ++ rest) ∧
      (IsLines ((s.emissions p calls).map (·.line)) added ↔ ∀ m ∈ s.emissions p calls, m.event.Unbroken) ∧
      (added.toList.count '\n' = (s.emissions p calls).length ↔
        ∀ m ∈ s.emissions p calls, m.event.Unbroken) ∧
      ((s.emissions p calls).length = (s.reports p calls).length ↔
        ∀ r ∈ s.reports p calls, ∃ e, r.2.event = .ok e ∧ ¬e.HoldsTooLong) := by
  have hunbroken : ∀ m ∈ s.emissions p calls, InLine m.line ↔ m.event.Unbroken := by
    intro m hm
    obtain ⟨c, hc, htime⟩ := List.mem_map.mp (time_mem_of_mem_emissions hm)
    exact TimingEvent.inLine_line_iff m.written (htime ▸ htimes c hc)
  have hlines : (∀ piece ∈ (s.emissions p calls).map (·.line.toList), '\n' ∉ piece) ↔
      ∀ m ∈ s.emissions p calls, m.event.Unbroken := by
    rw [List.forall_mem_map]
    exact forall₂_congr hunbroken
  have hadded : (String.join ((s.emissions p calls).map Emission.text)).toList =
      ((s.emissions p calls).map (·.line.toList)).flatMap (· ++ ['\n']) := by
    simp [String.toList_join, List.flatMap_map, Emission.text]
  refine ⟨_, text_after hwritten, fun m _ => TimingEvent.line_start m.written, ?_, ?_, ?_⟩
  · rw [IsLines, hadded, List.map_map, ← hlines]
    exact splitAt_flatMap_eq_iff
  · rw [hadded, ← hlines, ← count_flatMap_eq_length_iff, List.length_map]
  · rw [emissions, List.length_filterMap_eq_countP, List.countP_eq_length]
    exact forall₂_congr fun r _ => TimingReport.emission?_isSome_iff

/-- Two events in two files, and one in between while the log is disabled. -/
theorem file_has_line_for_each_event_iff_two_files :
    let retried : TimingEvent :=
      { name := "retry", description := some "Sign in", status := "Miss", details := [(.text "tries", .int 2)] }
    let calls := [("12:00:00", .configure false (some "first.log") "info"), ("12:00:00", .enable),
      ("12:00:01", .report (.log retried)), ("12:00:02", .disable), ("12:00:03", .report (.log retried)),
      ("12:00:04", .enable), ("12:00:05", .configure false (some "logs/second.log") "info"),
      ("12:00:06", .report (.log { name := "end" }))]
    (∀ c ∈ calls, InLine c.1) ∧ (∀ path, TimingLog.notWritten path ∉ ({} : Recorder).records calls) ∧
      IsLines ["[miss] [timing] time=12:00:01 event=retry description=Sign in tries=2"]
        ((({} : Recorder).after calls).text ["first.log"]) := by
  intro retried calls
  have htimes : ∀ c ∈ calls, InLine c.1 := by decide +kernel
  have hrecords : ({} : Recorder).records calls = [] := by decide +kernel
  have hwritten : ∀ path, TimingLog.notWritten path ∉ ({} : Recorder).records calls := by simp [hrecords]
  have hemitted : (({} : Recorder).emissions ["first.log"] calls).map (·.line) =
      ["[miss] [timing] time=12:00:01 event=retry description=Sign in tries=2"] := by decide +kernel
  obtain ⟨added, htext, -, hlines, hcount, -⟩ :=
    file_has_line_for_each_event_iff (p := ["first.log"]) htimes hwritten
  have hbefore : ({} : Recorder).text ["first.log"] = "" := rfl
  rw [hbefore, String.empty_append] at htext
  have hone : added.toList.count '\n' = (({} : Recorder).emissions ["first.log"] calls).length := by
    rw [← htext]
    decide +kernel
  have hlines := hlines.mpr (hcount.mp hone)
  rw [hemitted, ← htext] at hlines
  exact ⟨htimes, hwritten, hlines⟩

/-- A description with a line feed makes two lines of one event. -/
theorem event_takes_two_lines :
    let calls := [("12:00:00", .configure false (some "first.log") "info"), ("12:00:00", .enable),
      ("12:00:01", .report (.log { name := "open", description := some "Sign\nin" }))]
    ({} : Recorder).records calls = [] ∧
      (({} : Recorder).after calls).text ["first.log"] =
        "[info] [timing] time=12:00:01 event=open description=Sign\nin\n" ∧
      ¬IsLines ((({} : Recorder).emissions ["first.log"] calls).map (·.line))
        ((({} : Recorder).after calls).text ["first.log"]) := by
  decide +kernel

end ElementFinder
