import ElementFinder.Proofs.Reports
import ElementFinder.Proofs.Requests
import ElementFinder.Proofs.TypedFailure
import Mathlib.Data.List.Forall2

/-!
# What an attempt notes

An attempt that does not find its element, in the library's own way, has noted each of its requests,
with the reason why it was of no use. A page that it was given is remembered as the last one, whether
it can be read or not. This holds for clients that fail by query failures only.
-/

namespace ElementFinder

open Run Exchange

variable {σ α : Type} {c : Client σ} {s : Selector} {q : Query} {queries : List Query}
  {limit : Option Deadline} {t u : World σ} {f : Failure}

/-! ## Accounts -/

/-- What an attempt leaves behind: the exchange, and the notes on the call. -/
structure Account (σ : Type) where
  exchange : Exchange σ
  notes : Notes

def World.account (s : World σ) : Account σ := ⟨s.exchange, s.notes⟩

namespace Account

variable {a b : Account σ}

def noting (a : Account σ) (record : LocatorAttempt) : Account σ :=
  { a with notes := { a.notes with attempts := a.notes.attempts ++ [record] } }

/-- One more request is answered; a page that it gets is the last one now. -/
def asking (c : Client σ) (a : Account σ) (r : Request) : Account σ :=
  ⟨a.exchange.after c r, { a.notes with page := (page? c (a.exchange, r)).or a.notes.page }⟩

/-- A request that is of no use, with its record: a query that is not answered, a page that cannot be
read, one without a node that fits, or one on which the surroundings do not lead to a node. -/
inductive Missed (c : Client σ) (s : Selector) (queries : List Query) :
    Exchange σ × Request → LocatorAttempt → Prop
  | query (x : Exchange σ) (q : Query) (f : Failure) (known : q ∈ queries)
      (failed : x.answer c q.request = .error f) :
      Missed c s queries (x, q.request) ⟨q.name, q.describe, some f.message⟩
  | unread (x : Exchange σ) (f : Failure)
      (failed : x.answer c .source >>= Snapshot.ofSource = .error f) :
      Missed c s queries (x, .source) ⟨Attempt.onPage, "source", some f.message⟩
  | unmatched (x : Exchange σ) (page : Snapshot) (description : String)
      (read : x.answer c .source >>= Snapshot.ofSource = .ok page)
      (described : s.describe = .ok description) (nothing : s.pickIn page = .ok none) :
      Missed c s queries (x, .source)
        ⟨Attempt.onPage, description, some (Failure.noMatch description none).message⟩
  | unrelated (x : Exchange σ) (page : Snapshot) (description : String) (f : Failure)
      (read : x.answer c .source >>= Snapshot.ofSource = .ok page)
      (described : s.describe = .ok description) (failed : s.resolveIn page = .error f) :
      Missed c s queries (x, .source) ⟨Attempt.bySurroundings, description, some f.message⟩

/-- One request of no use is made and noted. -/
def Misses (c : Client σ) (s : Selector) (queries : List Query) (a b : Account σ) : Prop :=
  ∃ r record, Missed c s queries (a.exchange, r) record ∧ b = (a.asking c r).noting record

/-- Requests of no use are made, each of which is noted. -/
abbrev MissesAll (c : Client σ) (s : Selector) (queries : List Query) :
    Account σ → Account σ → Prop :=
  Relation.ReflTransGen (Misses c s queries)

/-- The records that requests of no use leave are theirs in order, and the page that is remembered is
the last one that they got. -/
theorem MissesAll.rows (h : MissesAll c s queries a b) :
    ∃ rs records, b.exchange = a.exchange.afterAll c rs ∧
      b.notes.attempts = a.notes.attempts ++ records ∧
      List.Forall₂ (Missed c s queries) (asked c a.exchange rs) records ∧
      b.notes.page = (a.exchange.lastPage? c rs).or a.notes.page := by
  -- Records are added at the end, so the row grows at its end as well.
  induction h with
  | refl => exact ⟨[], [], rfl, by simp, .nil, rfl⟩
  | @tail b _ _ hstep ih =>
      obtain ⟨rs, records, hexchange, hattempts, hmissed, hpage⟩ := ih
      obtain ⟨r, record, hrecord, rfl⟩ := hstep
      refine ⟨rs ++ [r], records ++ [record], ?_, ?_, ?_, ?_⟩
      · rw [afterAll_append, ← hexchange]
        rfl
      · simp [noting, asking, hattempts]
      · rw [asked_append, ← hexchange]
        exact List.rel_append hmissed (.cons hrecord .nil)
      · rw [lastPage?_append, ← hexchange, Option.or_assoc, ← hpage]
        cases hp : page? c (b.exchange, r) <;> simp [noting, asking, lastPage?, asked, hp]

end Account

/-! ## Steps -/

theorem World.account_eq {s t : World σ} (he : s.exchange = t.exchange) (hn : s.notes = t.notes) :
    s.account = t.account := by
  rw [account, account, he, hn]

def World.recorded (s : World σ) (level : LogLevel) (message : String) : World σ :=
  { s with log := s.log.add ⟨.search, level, message⟩ }

def World.noting (s : World σ) (record : LocatorAttempt) : World σ :=
  { s with notes := { s.notes with attempts := s.notes.attempts ++ [record] } }

@[simp] theorem World.account_recorded (s : World σ) (level : LogLevel) (message : String) :
    (s.recorded level message).account = s.account := rfl

@[simp] theorem World.account_noting (s : World σ) (record : LocatorAttempt) :
    (s.noting record).account = s.account.noting record := rfl

namespace Work

theorem record_bind {level : LogLevel} {message : String} {k : Unit → Work σ α} :
    (record level message >>= k) t = k () (t.recorded level message) := rfl

theorem note_bind {record : LocatorAttempt} {k : Unit → Work σ α} :
    (note record >>= k) t = k () (t.noting record) := rfl

end Work

theorem TimingEvent.isOwn_of_queried_error {description query : String} {started now : Float}
    {missed : Bool} (h : queried description query started now missed = .error f) :
    f.isOwn = false := by
  obtain h | ⟨_, _, h⟩ := except_bind_error.mp h
  · rw [milliseconds, wholePart] at h
    split at h
    · cases h
    · split at h <;> (cases h; rfl)
  · cases h

namespace Attempt

open Work

/-- A report of the time changes neither the exchange nor the notes, and it never fails in the
library's own way. -/
theorem reportTime_keeps (q : Query) (started : Float) (missed : Bool) (a : Account σ) :
    Keeps (fun s => s.account = a) (fun f => f.isOwn = false) (reportTime q started missed) :=
  keeps_iff.mpr fun s hs => by
  rw [reportTime_run]
  split
  · have hnow : Keeps (fun s : World σ => s.account = a) (fun f => f.isOwn = false) Work.now :=
      keeps_of_ok (fun _ => rfl) fun _ hs => hs
    have hemit : ∀ e, Keeps (fun s : World σ => s.account = a) (fun f => f.isOwn = false)
        (Work.emit e) := fun e => keeps_iff.mpr fun s hs => by
      refine ⟨?_, fun g hg => ?_⟩
      · rw [← hs]
        exact World.account_eq (World.exchange_reporting e) (World.notes_reporting e)
      · obtain ⟨fault, rfl⟩ := emit_error (Prod.ext hg rfl)
        rfl
    exact keeps_iff.mp (hnow.bind fun now => (ofExcept_respects fun g hg =>
      TimingEvent.isOwn_of_queried_error hg).bind hemit) s hs
  · exact ⟨hs, by simp⟩

/-- The answer to a request that may miss, from a client that fails by query failures only. -/
theorem mayMiss_run (hc : c.FailsByQuery) (r : Request) :
    mayMiss c r t = (.ok (t.exchange.answer c r), (Work.send c r t).2) := by
  have hsend : ∀ k : Except Failure r.Answer → Work σ (Except Failure r.Answer),
      ((Work.send c r).attempt >>= k) t = k (t.exchange.answer c r) (Work.send c r t).2 :=
    fun _ => rfl
  rw [mayMiss, hsend]
  cases ha : t.exchange.answer c r with
  | ok a => rfl
  | error g =>
      have hquery : g.isQuery = true := hc r t.client t.now g ha
      simp only [hquery, ↓reduceIte]
      rfl

theorem account_send (r : Request) :
    (Work.send c r t).2.account = ⟨t.exchange.after c r, t.notes⟩ := rfl

/-- A query that misses is noted. It never fails in the library's own way. -/
theorem tryQuery_missed (hc : c.FailsByQuery) (hq : q ∈ queries) {o : Except Failure (Option String)}
    (h : tryQuery c q t = (o, u)) :
    (o = .ok none → Account.Misses c s queries t.account u.account) ∧
      ∀ g, o = .error g → g.isOwn = false := by
  have hstart : ∀ k : Float → Work σ (Option String), (Work.now >>= k) t = k t.now t := fun _ => rfl
  rw [tryQuery, hstart, bind_ok (mayMiss_run hc (.find q.method q.value))] at h
  cases ha : t.exchange.answer c (.find q.method q.value) with
  | ok handle =>
      rw [ha] at h
      obtain ⟨g, hreport, rfl⟩ | ⟨_, v, hreport, h⟩ := bind_inv h
      · refine ⟨by simp, fun g' hg => ?_⟩
        cases hg
        exact (keeps_iff.mp (reportTime_keeps q _ _ _) _ rfl).2 g (by rw [hreport])
      · cases h
        exact ⟨by simp, by simp⟩
  | error f =>
      rw [ha] at h
      dsimp only at h
      rw [record_bind] at h
      obtain ⟨hsame, hfail⟩ := keeps_iff.mp (reportTime_keeps q t.now true _) _ rfl
      obtain ⟨g, hreport, rfl⟩ | ⟨_, v, hreport, h⟩ := bind_inv h
      · refine ⟨by simp, fun g' hg => ?_⟩
        cases hg
        exact hfail g (by rw [hreport])
      · rw [hreport, World.account_recorded, account_send] at hsame
        rw [note_bind] at h
        cases h
        refine ⟨fun _ => ⟨q.request, _, .query _ q f hq ha, ?_⟩, by simp⟩
        rw [World.account_noting, hsame]
        rfl

/-- Reading the properties of an element fails only as its selector has no description. -/
theorem ofHandle_error (hc : c.FailsByQuery) {handle : String}
    (h : ofHandle c s q handle t = (.error f, u)) : f.isOwn = false := by
  have hread : ∀ (r : Request) (usual : r.Answer) (word : String),
      Keeps (fun _ : World σ => True) (fun f => f.isOwn = false)
        (property c r usual word handle) := by
    refine fun r usual word => keeps_iff.mpr fun s _ => ⟨trivial, fun g hg => ?_⟩
    rw [property, bind_ok (mayMiss_run hc r)] at hg
    cases ha : s.exchange.answer c r <;> (rw [ha] at hg; cases hg)
  have hall : Keeps (fun _ : World σ => True) (fun f => f.isOwn = false)
      (ofHandle c s q handle) :=
    (hread _ _ _).bind fun _ => (hread _ _ _).bind fun _ => (hread _ _ _).bind fun _ =>
      (ofExcept_respects fun g hg => Selector.isOwn_of_describe_error hg).bind fun _ => .pure _
  exact (keeps_iff.mp hall t trivial).2 f (by rw [h])

theorem byQueries_missed (hc : c.FailsByQuery) {own : List Query} (hown : own ⊆ queries)
    (h : byQueries c s limit own t = (.error f, u)) (hf : f.isOwn = true) :
    Account.MissesAll c s queries t.account u.account := by
  have hnone : ∀ {t : World σ}, byQueries.noneFound s t = (.error f, u) →
      Account.MissesAll c s queries t.account u.account := by
    intro t h
    rw [(noneFound_inv h).1]
  induction own generalizing t with
  | nil => exact hnone h
  | cons q rest ih =>
      rw [byQueries, expired_bind] at h
      split at h
      · exact hnone h
      · have hq : q ∈ queries := hown List.mem_cons_self
        obtain ⟨g, hquery, he⟩ | ⟨found, v, hquery, h⟩ := bind_inv h
        · cases he
          simp [(tryQuery_missed (s := s) hc hq hquery).2 f rfl] at hf
        · cases found with
          | none =>
              have hv := (tryQuery_missed (s := s) hc hq hquery).1 rfl
              exact .head hv (ih (fun q hq => hown (List.mem_cons_of_mem _ hq)) h)
          | some handle =>
              dsimp only at h
              rw [record_bind] at h
              simp [ofHandle_error hc h] at hf

/-! ## Pages -/

/-- A page is asked for. If it is not shown or cannot be read, that is noted. -/
theorem loadPage_account (hc : c.FailsByQuery) {o : Except Failure Snapshot} :
    loadPage c t = (o, u) → (t.exchange.answer c .source >>= Snapshot.ofSource = o) ∧
      u.account = match o with
        | .ok _ => t.account.asking c .source
        | .error f => (t.account.asking c .source).noting ⟨onPage, "source", some f.message⟩ := by
  intro h
  obtain ⟨p, v, hload, h⟩ := bind_attempt_inv h
  -- The page is remembered as soon as it is given, before it is known whether it can be read.
  have hloaded : p = t.exchange.answer c .source >>= Snapshot.ofSource ∧
      v.account = t.account.asking c .source := by
    cases ha : t.exchange.answer c .source with
    | error g =>
        have hsend : Work.send c .source t = (.error g, (Work.send c .source t).2) :=
          Prod.ext ha rfl
        rw [bind_error hsend] at hload
        cases hload
        refine ⟨rfl, ?_⟩
        rw [account_send, Account.asking]
        simp [World.account, page?, ha, Except.toOption]
    | ok source =>
        have hsend : Work.send c .source t = (.ok source, (Work.send c .source t).2) :=
          Prod.ext ha rfl
        rw [bind_ok hsend] at hload
        obtain ⟨hp, hv⟩ := ofExcept_inv hload
        refine ⟨hp, ?_⟩
        rw [hv, Account.asking]
        simp only [World.account, page?, ha, Except.toOption, Option.some_or, Account.mk.injEq,
          Notes.mk.injEq, and_true]
        exact ⟨rfl, rfl⟩
  obtain ⟨hp, hv⟩ := hloaded
  cases p with
  | ok page =>
      cases h
      exact ⟨hp.symm, hv⟩
  | error g =>
      have hnoted : (g.isQuery || g.isParse) = true := by
        obtain ha | ⟨source, _, hsource⟩ := except_bind_error.mp hp.symm
        · simp [hc .source t.client t.now g ha]
        · simp [isParse_of_ofSource_error hsource]
      simp only [hnoted, ↓reduceIte] at h
      rw [note_bind] at h
      cases h
      exact ⟨hp.symm, by rw [World.account_noting, hv]⟩

/-- An attempt on a page is one request. If it is of no use, that is noted. -/
theorem byPage_missed (hc : c.FailsByQuery) (h : byPage c s t = (.error f, u))
    (hf : f.isOwn = true) : Account.Misses c s queries t.account u.account := by
  obtain ⟨g, hd, he⟩ | ⟨description, v, hd, hload⟩ := bind_inv h
  · cases he
    simp [Selector.isOwn_of_describe_error (ofExcept_inv hd).1.symm] at hf
  obtain ⟨hdescribed, rfl⟩ := ofExcept_inv hd
  obtain ⟨g, hpage, he⟩ | ⟨page, w, hpage, hpicked⟩ := bind_inv hload
  · cases he
    obtain ⟨hread, hu⟩ := loadPage_account hc hpage
    exact ⟨.source, _, .unread _ f hread, hu⟩
  obtain ⟨hread, hw⟩ := loadPage_account hc hpage
  obtain ⟨g, hpick, he⟩ | ⟨found, x, hpick, hnote⟩ := bind_inv hpicked
  · cases he
    simp [Selector.isOwn_of_pickIn_error (ofExcept_inv hpick).1.symm] at hf
  obtain ⟨hnothing, rfl⟩ := ofExcept_inv hpick
  cases found with
  | some n => cases hnote
  | none =>
      dsimp only at hnote
      rw [note_bind] at hnote
      cases hnote
      refine ⟨.source, _, .unmatched _ page description hread hdescribed.symm hnothing.symm, ?_⟩
      rw [World.account_noting, hw]

theorem byRelation_missed (hc : c.FailsByQuery) (h : byRelation c s t = (.error f, u))
    (hf : f.isOwn = true) : Account.Misses c s queries t.account u.account := by
  obtain ⟨g, hpage, he⟩ | ⟨page, v, hpage, hdescribe⟩ := bind_inv h
  · cases he
    obtain ⟨hread, hu⟩ := loadPage_account hc hpage
    exact ⟨.source, _, .unread _ f hread, hu⟩
  obtain ⟨hread, hv⟩ := loadPage_account hc hpage
  obtain ⟨g, hd, he⟩ | ⟨description, w, hd, hresolve⟩ := bind_inv hdescribe
  · cases he
    simp [Selector.isOwn_of_describe_error (ofExcept_inv hd).1.symm] at hf
  obtain ⟨hdescribed, rfl⟩ := ofExcept_inv hd
  cases hn : s.resolveIn page with
  | ok n =>
      rw [hn] at hresolve
      cases hresolve
  | error g =>
      simp only [hn] at hresolve
      split at hresolve
      · rw [note_bind] at hresolve
        cases hresolve
        refine ⟨.source, _, .unrelated _ page description f hread hdescribed.symm hn, ?_⟩
        rw [World.account_noting, hv]
      · next hg =>
        cases hresolve
        simp [hf] at hg

/-! ## Whole attempts -/

theorem exactOrContains_missed (hc : c.FailsByQuery)
    (hexact : s.criteria.exactQuery ∈ queries) (hpart : s.criteria.containsQuery ∈ queries)
    {o : Except Failure (Except Failure (Query × String))}
    (h : exactOrContains c s t = (o, u)) :
    (∀ missed, o = .ok (.error missed) → Account.MissesAll c s queries t.account u.account) ∧
      ∀ g, o = .error g → g.isOwn = false := by
  obtain ⟨g, hquery, rfl⟩ | ⟨found, v, hquery, h⟩ := bind_inv h
  · exact ⟨by simp, fun _ hg => (tryQuery_missed (s := s) hc hexact hquery).2 _ (by simpa using hg)⟩
  cases found with
  | some handle =>
      cases h
      exact ⟨by simp, by simp⟩
  | none =>
      have hv := (tryQuery_missed (s := s) hc hexact hquery).1 rfl
      dsimp only at h
      rw [bind_ok (mayMiss_run hc (.find _ _))] at h
      cases ha : v.exchange.answer c (.find s.criteria.containsQuery.method
          s.criteria.containsQuery.value) with
      | ok handle =>
          simp only [ha] at h
          rw [note_bind] at h
          cases h
          exact ⟨by simp, by simp⟩
      | error g =>
          simp only [ha] at h
          rw [note_bind] at h
          cases h
          refine ⟨fun _ _ => .tail (.single hv) ⟨_, _, .query _ _ g hpart ha, ?_⟩, by simp⟩
          rw [World.account_noting, account_send]
          rfl

theorem fallback_missed (hc : c.FailsByQuery)
    (hexact : s.criteria.exactQuery ∈ queries) (hpart : s.criteria.containsQuery ∈ queries)
    (h : fallback c s t = (.error f, u)) (hf : f.isOwn = true) :
    Account.MissesAll c s queries t.account u.account := by
  obtain ⟨g, hqueries, he⟩ | ⟨queried, v, p, x, hqueries, hpage, hend⟩ := fallback_inv h
  · cases he
    simp [(exactOrContains_missed hc hexact hpart hqueries).2 f rfl] at hf
  obtain ⟨rfl, _, hother⟩ | ⟨g, missed, rfl, hg, rfl, _, rfl⟩ | ⟨_, q, handle, y, _, _, _, _, hend⟩ :=
    hend
  · simp [hother f rfl] at hf
  · exact ((exactOrContains_missed hc hexact hpart hqueries).1 missed rfl).tail
      (byPage_missed hc hpage hg)
  · simp [ofHandle_error hc hend] at hf

theorem queriesOr_missed (hc : c.FailsByQuery) {own : List Query} (hown : own ⊆ queries)
    {next : Work σ Element}
    (hnext : ∀ v, next v = (.error f, u) → Account.MissesAll c s queries v.account u.account)
    (h : queriesOr c s limit own next t = (.error f, u)) (hf : f.isOwn = true) :
    Account.MissesAll c s queries t.account u.account := by
  obtain ⟨hq, _⟩ | ⟨g, v, hq, hg, _, hrun⟩ := queriesOr_inv h
  · exact byQueries_missed hc hown hq hf
  · exact (byQueries_missed hc hown hq (isOwn_of_isQuery hg)).trans (hnext v hrun)

/-- An ordinary attempt that fails in the library's own way has noted each of its requests. -/
theorem standard_missed (hc : c.FailsByQuery) (h : standard c s limit t = (.error f, u))
    (hf : f.isOwn = true) :
    Account.MissesAll c s s.criteria.standardQueries t.account u.account := by
  rw [standard] at h
  split at h
  · exact .single (byRelation_missed hc h hf)
  · split at h
    · exact .single (byPage_missed hc h hf)
    · exact queriesOr_missed hc (List.Subset.refl _)
        (fun v hrun => .single (byPage_missed hc hrun hf)) h hf

/-- The queries of an attempt before a tap. -/
def tapQueries (s : Selector) : List Query :=
  s.criteria.interactiveQueries ++ [s.criteria.exactQuery, s.criteria.containsQuery]

theorem tap_missed (hc : c.FailsByQuery) (h : tap c s limit t = (.error f, u))
    (hf : f.isOwn = true) : Account.MissesAll c s (tapQueries s) t.account u.account :=
  queriesOr_missed hc (List.subset_append_left _ _)
    (fun v hrun => fallback_missed hc (by simp [tapQueries]) (by simp [tapQueries]) hrun hf)
    (tap_eq ▸ h) hf

end Attempt

end ElementFinder
