import ElementFinder.Proofs.Notes
import ElementFinder.Proofs.Polling
import ElementFinder.Proofs.Reading

/-!
# What a missed deadline tells

A search that misses its deadline tells the failure of its last round and the records of its last
round, and it keeps the last page that any of its rounds was given.
-/

namespace ElementFinder

open Run Exchange

variable {σ α : Type} {c : Client σ} {s : Selector} {d : Deadline} {queries : List Query}
  {attempt : Work σ Element} {t u w : World σ} {g : Failure}

/-- The report of a number does not fail by a missed deadline. -/
theorem World.of_counted_eq {n : Nat} {r : Except Stop α} (hg : g.IsDeadline)
    (h : t.counted n r = .error (.failed g)) : r = .error (.failed g) := by
  rw [counted] at h
  split at h
  · cases h
    cases hg
  · exact h

/-! ## Rounds -/

namespace Finder

/-- An attempt that fails in the library's own way has noted each of its requests. -/
def NotesMisses (c : Client σ) (s : Selector) (queries : List Query) (attempt : Work σ Element) :
    Prop :=
  ∀ t u f, attempt t = (.error f, u) → f.isOwn = true →
    Account.MissesAll c s queries t.account u.account

/-- A round begins without records. It leaves one for each of its requests, and the last page that it
was given or, if there is none, that of the rounds before. -/
theorem fresh_missed (hattempt : NotesMisses c s queries attempt)
    (h : fresh attempt t = (.error g, u)) (hg : g.isOwn = true) :
    ∃ rs, u.exchange = t.exchange.afterAll c rs ∧
      List.Forall₂ (Account.Missed c s queries) (asked c t.exchange rs) u.notes.attempts ∧
      u.notes.page = (t.exchange.lastPage? c rs).or t.notes.page := by
  obtain ⟨rs, records, hexchange, hrecords, hmissed, hpage⟩ := (hattempt _ u g h hg).rows
  have hall : u.notes.attempts = records := hrecords
  exact ⟨rs, hexchange, hall ▸ hmissed, hpage⟩

/-- Rounds remember the last page that any of them was given. -/
theorem rounds_page (hattempt : NotesMisses c s queries attempt) {y z : Poll.Standing σ}
    (h : Relation.ReflTransGen (Poll.Retries (fresh attempt) Failure.isOwn d) y z) :
    ∃ rs, z.world.exchange = y.world.exchange.afterAll c rs ∧
      z.world.notes.page = (y.world.exchange.lastPage? c rs).or y.world.notes.page := by
  induction h with
  | refl => exact ⟨[], rfl, rfl⟩
  | tail _ hround ih =>
      obtain ⟨rs, hexchange, hpage⟩ := ih
      obtain ⟨_, f, t, hrun, hf, rfl⟩ := hround
      obtain ⟨rs', hexchange', _, hpage'⟩ := fresh_missed hattempt hrun hf
      refine ⟨rs ++ rs', ?_, ?_⟩
      · rw [hexchange', hexchange, afterAll_append]
      · rw [hpage', hexchange, hpage, lastPage?_append, Option.or_assoc]

/-! ## Searches -/

/-- The state after the record that a search begins. -/
def announced (w : World σ) (description : String) (d : Deadline) : World σ :=
  w.recorded .debug
    ("Resolving " ++ Text.quoted description ++ " (timeout " ++ Decimal.fixed 2 d.timeout ++ "s)")

/-- A search misses its deadline if its polling does. It adds the records of the last attempt and
what was made of the last page. -/
theorem search_deadline_inv {rounds : Nat} {directory label : Option String} {description : String}
    {r : Except Stop Element} {v : World σ} (hd : s.describe = .ok description)
    (hpoll : Poll.forResult rounds (fresh attempt) d description Failure.isOwn
      (announced w description d) = (r, v))
    (h : search rounds s d attempt (.keep directory label) w = (.error (.failed g), u))
    (hg : g.IsDeadline) :
    ∃ f artifacts records, r = .error (.failed f) ∧ f.IsDeadline ∧
      Artifact.keep v.files directory (label.getD ("element_" ++ description)) v.wall.stamp
        v.notes.page = (u.files, records, artifacts) ∧
      g = f.withNotes v.notes.attempts artifacts ∧ u.exchange = v.exchange := by
  have hannounce : ∀ k : Unit → Call σ Element,
      (Call.ofWork (Work.record .debug ("Resolving " ++ Text.quoted description ++ " (timeout "
        ++ Decimal.fixed 2 d.timeout ++ "s)")) >>= k) w = k () (announced w description d) :=
    fun _ => rfl
  rw [search, Call.ofWork_bind_run (Work.ofExcept_run _), hd] at h
  dsimp only at h
  rw [hannounce] at h
  obtain (f | _) | e := r
  · rw [bind_ok (a := .error f) (t := v) (by rw [Call.attempt, hpoll])] at h
    cases f with
    | deadline text wrapped about timeout count elapsed attempts artifacts =>
        cases h
        exact ⟨_, _, _, rfl, trivial, rfl, rfl, rfl⟩
    | _ =>
        cases h
        cases hg
  · rw [bind_error (e := .unfinished) (t := v) (by rw [Call.attempt, hpoll])] at h
    cases h
  · rw [bind_ok (a := .ok e) (t := v) (by rw [Call.attempt, hpoll])] at h
    cases h

/-- A search that misses its deadline has gone through failed rounds to a look at the deadline. -/
theorem search_missed {rounds : Nat} {directory label : Option String}
    (h : search rounds s d attempt (.keep directory label) w = (.error (.failed g), u))
    (hg : g.IsDeadline) :
    ∃ description first z v artifacts records, s.describe = .ok description ∧
      first.account = w.account ∧
      Relation.ReflTransGen (Poll.Retries (fresh attempt) Failure.isOwn d) ⟨first, 0, none⟩ z ∧
      z.world.exchange.expired (some d) = true ∧
      v = z.world.reporting
        (.failed description (z.world.standing d) z.world.now z.count z.last) ∧
      Artifact.keep v.files directory (label.getD ("element_" ++ description)) v.wall.stamp
        v.notes.page = (u.files, records, artifacts) ∧
      g = (z.missed description d (Poll.missedText description)).withNotes v.notes.attempts
        artifacts ∧
      u.exchange = v.exchange := by
  cases hd : s.describe with
  | error f =>
      rw [search_undescribed hd] at h
      cases h
      obtain ⟨fault, rfl⟩ := Selector.describe_error hd
      cases hg
  | ok description =>
      obtain ⟨z, hz, r, v, hpoll, hend⟩ := Poll.forResult_ends rounds (fresh attempt)
        Failure.isOwn d description (announced w description d)
      obtain ⟨f, artifacts, records, hr, hf, hkeep, hnoted, hu⟩ :=
        search_deadline_inv hd hpoll h hg
      refine ⟨description, _, z, v, artifacts, records, rfl, ?_, hz, ?_⟩
      · exact World.account_eq (World.exchange_reporting _) (World.notes_reporting _)
      obtain ⟨hunfinished, _⟩ | ⟨hlate⟩ | ⟨a, _, _, _⟩ | ⟨f', _, _, ⟨_, hlisted⟩⟩ := hend
      · rw [hunfinished] at hr
        cases hr
      · have hf := World.of_counted_eq hf hr
        cases hf
        exact ⟨hlate, rfl, hkeep, hnoted, hu⟩
      · cases World.of_counted_eq hf hr
      -- A missed deadline is the library's own failure, so no attempt ends the polling with it.
      · cases hr
        have hown := hlisted f rfl
        rw [hf.isOwn] at hown
        cases hown

/-! ## Diagnoses -/

/-- The records are those of the last round, one for each of its requests in order, and there are none
if there was no round. -/
def LastRecords (c : Client σ) (s : Selector) (queries : List Query)
    (round : Poll.Standing σ → Poll.Standing σ → Prop) (start z : Poll.Standing σ)
    (records : List LocatorAttempt) : Prop :=
  (z = start ∧ records = []) ∨ ∃ a rs, Relation.ReflTransGen round start a ∧ round a z ∧
    z.world.exchange = a.world.exchange.afterAll c rs ∧
    List.Forall₂ (Account.Missed c s queries) (asked c a.world.exchange rs) records

/-- What a search tells that has missed its deadline: the failure of its last round, the number of
rounds, the records of the last round, and what was made of the last page of all its rounds. -/
inductive Diagnosed (c : Client σ) (s : Selector) (queries : List Query) (attempt : Work σ Element)
    (d : Deadline) (directory label : Option String) (w u : World σ) : Failure → Prop
  | missed (description : String) (first v : World σ) (z : Poll.Standing σ)
      (requests : List Request) (records : List LocatorAttempt)
      (artifacts : List (String × String)) (log : Log)
      (described : s.describe = .ok description)
      (begins : first.account = ⟨w.exchange.begun, {}⟩)
      (rounds : Relation.ReflTransGen (Poll.Retries (fresh attempt) Failure.isOwn d)
        ⟨first, 0, none⟩ z)
      (late : z.world.exchange.expired (some d) = true)
      (recorded : LastRecords c s queries (Poll.Retries (fresh attempt) Failure.isOwn d)
        ⟨first, 0, none⟩ z records)
      (sent : u.exchange = first.exchange.afterAll c requests)
      (reported : v = z.world.reporting
        (.failed description (z.world.standing d) z.world.now z.count z.last))
      (kept : Artifact.keep v.files directory (label.getD ("element_" ++ description)) v.wall.stamp
        (first.exchange.lastPage? c requests) = (u.files, log, artifacts))
      (unseen : first.exchange.lastPage? c requests = none → artifacts = [] ∧ u.files = v.files) :
      Diagnosed c s queries attempt d directory label w u
        (.deadline (Poll.missedText description (z.world.standing d) z.last) z.last
          (some description) (some (.real d.timeout)) (some z.count)
          (some (.real (d.elapsed z.world.now))) records artifacts)

theorem keep_none (files : FileTree) (directory : Option String) (label stamp : String) :
    Artifact.keep files directory label stamp none = (files, [], []) := by
  rw [Artifact.keep]
  cases directory.filter (!·.isEmpty) <;> rfl

theorem search_diagnosed {rounds : Nat} {directory label : Option String}
    (hattempt : NotesMisses c s queries attempt)
    (h : search rounds s d attempt (.keep directory label) w.begun = (.error (.failed g), u))
    (hg : g.IsDeadline) : Diagnosed c s queries attempt d directory label w u g := by
  obtain ⟨description, first, z, v, artifacts, log, hdescribed, hfirst, hrounds, hlate, hv, hkeep,
    rfl, hu⟩ := search_missed h hg
  have hnotes : first.notes = {} := congrArg Account.notes hfirst
  have hexchange : v.exchange = z.world.exchange := hv ▸ World.exchange_reporting _
  have hrecords : v.notes = z.world.notes := hv ▸ World.notes_reporting _
  obtain ⟨requests, hsent, hpage⟩ := rounds_page hattempt hrounds
  rw [hnotes, Option.or_none] at hpage
  rw [hrecords, hpage] at hkeep
  refine .missed description first v z requests _ artifacts log hdescribed hfirst hrounds hlate ?_
    (hu.trans (hexchange.trans hsent)) hv hkeep fun hnone => ?_
  -- Only the last round has left records, since each round begins without any.
  · rw [hrecords]
    obtain rfl | ⟨a, ha, hround⟩ := hrounds.cases_tail
    · exact Or.inl ⟨rfl, by rw [hnotes]⟩
    · obtain ⟨_, f, t, hrun, hf, rfl⟩ := id hround
      obtain ⟨rs, hlast, hmissed, _⟩ := fresh_missed hattempt hrun hf
      exact Or.inr ⟨a, rs, ha, hround, hlast, hmissed⟩
  · rw [hnone, keep_none, Prod.mk.injEq, Prod.mk.injEq] at hkeep
    exact ⟨hkeep.2.2.symm, hkeep.1.symm⟩

/-! ## Ways to call -/

theorem notesMisses_standard (hc : c.FailsByQuery) (limit : Option Deadline) :
    NotesMisses c s s.criteria.standardQueries (Attempt.standard c s limit) :=
  fun _ _ _ h hf => Attempt.standard_missed hc h hf

/-- The queries of an attempt before a tap. -/
def queriesBeforeTap (s : Selector) : List Query :=
  if isTapText s then Attempt.tapQueries s else s.criteria.standardQueries

theorem notesMisses_tapAttempt {finder : Finder σ} (hc : finder.client.FailsByQuery)
    (d : Deadline) :
    NotesMisses finder.client s (queriesBeforeTap s) (finder.tapAttempt s d) := by
  intro t u f h hf
  rw [tapAttempt] at h
  split at h
  · exact .single (Attempt.byRelation_missed hc h hf)
  · rw [queriesBeforeTap]
    split at h
    · next htext =>
      rw [if_pos htext]
      exact Attempt.tap_missed hc h hf
    · next htext =>
      rw [if_neg htext]
      exact Attempt.standard_missed hc h hf

/-- A call that misses its deadline has a deadline, and its search tells what its rounds were
about. -/
theorem diagnosed_of_run {rounds : Nat} {directory label : Option String}
    {deadline : Except Failure Deadline} {attempts : Deadline → Work σ Element}
    (hattempt : ∀ d, NotesMisses c s queries (attempts d)) (hdate : Undated deadline)
    (h : (match deadline with
      | .ok d => search rounds s d (attempts d) (.keep directory label) w.begun
      | .error e => (.error (.failed e), w.begun)) = (.error (.failed g), u))
    (hg : g.IsDeadline) :
    ∃ d, deadline = .ok d ∧ Diagnosed c s queries (attempts d) d directory label w u g := by
  cases deadline with
  | ok d => exact ⟨d, rfl, search_diagnosed (hattempt d) h hg⟩
  | error e =>
      cases h
      exact absurd hg (hdate _ rfl)

end Finder

open Finder

/-- With a client that fails by query failures only, each call for an element that misses its deadline
tells exactly what its rounds were about. -/
theorem missed_deadline_is_diagnosed (finder : Finder σ) (configured : Timeouts) (rounds : Nat)
    (w u : World σ) (g : Failure) (hclient : finder.client.FailsByQuery) (hg : g.IsDeadline) :
    (∀ s limit, finder.find configured rounds s limit w = (.error (.failed g), u) →
      ∃ d, finder.deadlineAt configured w.now limit = .ok d ∧
        Diagnosed finder.client s s.criteria.standardQueries
          (Attempt.standard finder.client s (some d)) d finder.artifactsDirectory none w u g) ∧
    (∀ s limit, finder.findForTap configured rounds s limit w = (.error (.failed g), u) →
      ∃ d, finder.deadlineAt configured w.now limit = .ok d ∧
        Diagnosed finder.client s (queriesBeforeTap s) (finder.tapAttempt s d) d
          finder.artifactsDirectory none w u g) ∧
    ∀ m name bindings limit,
      finder.findNamed configured rounds m name bindings limit w = (.error (.failed g), u) →
      ∃ s label d, m.selector name bindings = .ok s ∧ name.writeOrFail = .ok label ∧
        finder.deadlineAt configured w.now (finder.namedLimit m.settings limit) = .ok d ∧
        Diagnosed finder.client s s.criteria.standardQueries
          (Attempt.standard finder.client s (some d)) d
          ((finder.artifactsDirectory.filter (!·.isEmpty)).orElse fun _ =>
            m.settings.artifactsDirectory)
          (some ("element_" ++ label)) w u g := by
  have hdate : ∀ limit, Undated (finder.deadlineAt configured w.now limit) :=
    fun limit => finder.deadlineAt_undated configured w.now limit
  refine ⟨fun s limit h => ?_, fun s limit h => ?_, fun m name bindings limit h => ?_⟩
  · rw [find_run] at h
    exact diagnosed_of_run (fun d => notesMisses_standard hclient (some d)) (hdate limit) h hg
  · rw [findForTap_run] at h
    exact diagnosed_of_run (notesMisses_tapAttempt hclient) (hdate limit) h hg
  · cases hs : m.selector name bindings with
    | error e =>
        rw [findNamed, startCall_bind, Call.ofWork_bind_run (Work.ofExcept_run _), hs] at h
        cases h
        exact absurd hg (m.selector_undated name bindings _ hs)
    | ok s =>
        rw [findNamed_run hs] at h
        cases hlabel : name.writeOrFail with
        | error e =>
            rw [hlabel] at h
            split at h
            · cases h
              exact absurd hg (name.writeOrFail_undated _ hlabel)
            · next he =>
              cases h
              exact absurd hg (hdate _ _ he)
        | ok label =>
            rw [hlabel] at h
            obtain ⟨d, hd, hdiagnosed⟩ := diagnosed_of_run
              (fun d => notesMisses_standard hclient (some d)) (hdate _) h hg
            exact ⟨s, label, d, rfl, rfl, hd, hdiagnosed⟩

/-- The run ends at its deadline. -/
def endsAtDeadline : Except Stop α → Bool
  | .error (.failed (.deadline ..)) => true
  | _ => false

theorem exists_deadline {p : Except Stop α × World σ} (h : endsAtDeadline p.1 = true) :
    ∃ g u, p = (.error (.failed g), u) ∧ g.IsDeadline := by
  obtain ⟨(f | _) | a, u⟩ := p
  · cases f with
    | deadline text wrapped about timeout count elapsed attempts artifacts =>
        exact ⟨_, u, rfl, trivial⟩
    | _ => cases h
  · cases h
  · cases h

theorem missed_deadline_is_diagnosed_save :
    let finder : Finder Unit := { client := emptyClient }
    let s : Selector := { criteria := { id := some "save" } }
    let limit := Limit.untilDeadline ⟨5.0, 0.0, false⟩
    let w : World Unit := { client := (), wall := ⟨"", ""⟩ }
    finder.client.FailsByQuery ∧ ∃ g u, g.IsDeadline ∧
      finder.find .usual 9 s limit w = (.error (.failed g), u) ∧
      ∃ d, finder.deadlineAt .usual w.now limit = .ok d ∧
        Diagnosed finder.client s s.criteria.standardQueries
          (Attempt.standard finder.client s (some d)) d finder.artifactsDirectory none w u g := by
  intro finder s limit w
  obtain ⟨g, u, h, hg⟩ := exists_deadline (p := finder.find .usual 9 s limit w) (by decide +kernel)
  exact ⟨emptyClient_failsByQuery, g, u, hg, h,
    (missed_deadline_is_diagnosed finder .usual 9 w u g emptyClient_failsByQuery hg).1 s limit h⟩

end ElementFinder
