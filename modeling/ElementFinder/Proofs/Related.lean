import ElementFinder.Proofs.Attempt

/-!
# Related states

Work respects a relation between states if related states give one result and lead to related states
again. An attempt respects whatever relation its steps respect: its requests, its reports and its
notes. Which failures it can end with is followed on the same way.
-/

namespace ElementFinder

variable {ε σ α β : Type} {R : World σ → World σ → Prop}

/-! ## Sequences -/

namespace Run

variable {P : ε → Prop} {x : ExceptT ε (StateM (World σ)) α}
  {f : α → ExceptT ε (StateM (World σ)) β}

/-- From related states the run gives one result and leads to related states, and the failures that
it ends with are among the given ones. -/
def Respects (R : World σ → World σ → Prop) (P : ε → Prop) (x : ExceptT ε (StateM (World σ)) α) :
    Prop :=
  ∀ s t, R s t → (x s).1 = (x t).1 ∧ R (x s).2 (x t).2 ∧ ∀ e, (x s).1 = .error e → P e

namespace Respects

theorem pure (a : α) : Respects R P (Pure.pure a) := by
  intro s t h
  refine ⟨rfl, h, fun e he => ?_⟩
  cases he

theorem throw {e : ε} (he : P e) :
    Respects R P (MonadExcept.throw e : ExceptT ε (StateM (World σ)) α) := by
  intro s t h
  refine ⟨rfl, h, fun e' he' => ?_⟩
  cases he'
  exact he

theorem bind (hx : Respects R P x) (hf : ∀ a, Respects R P (f a)) : Respects R P (x >>= f) := by
  intro s t h
  obtain ⟨hsame, hafter, hfail⟩ := hx s t h
  rcases hs : x s with ⟨e | a, u⟩ <;> rcases ht : x t with ⟨e' | a', v⟩ <;>
    rw [hs, ht] at hsame hafter <;> cases hsame
  · rw [bind_error hs, bind_error ht]
    refine ⟨rfl, hafter, fun e' he' => ?_⟩
    cases he'
    exact hfail e (by rw [hs])
  · rw [bind_ok hs, bind_ok ht]
    exact hf a u v hafter

/-- Work that only reads, and reads the same in related states. -/
theorem read {g : World σ → α} (hg : ∀ s t, R s t → g s = g t)
    (hx : ∀ s, x s = (.ok (g s), s)) : Respects R P x := by
  intro s t h
  rw [hx, hx, hg s t h]
  refine ⟨rfl, h, fun e he => ?_⟩
  cases he

end Respects

/-- The run keeps a property of states, and the failures that it ends with are among the given
ones. -/
abbrev Keeps (I : World σ → Prop) (P : ε → Prop) (x : ExceptT ε (StateM (World σ)) α) : Prop :=
  Respects (fun s t => s = t ∧ I s) P x

theorem keeps_iff {I : World σ → Prop} :
    Keeps I P x ↔ ∀ s, I s → I (x s).2 ∧ ∀ e, (x s).1 = .error e → P e := by
  constructor
  · intro h s hs
    obtain ⟨_, ⟨_, hafter⟩, hfail⟩ := h s s ⟨rfl, hs⟩
    exact ⟨hafter, hfail⟩
  · rintro h s _ ⟨rfl, hs⟩
    obtain ⟨hafter, hfail⟩ := h s hs
    exact ⟨rfl, ⟨rfl, hafter⟩, hfail⟩

/-- Work that never fails. -/
theorem keeps_of_ok {I : World σ → Prop} {value : World σ → α} {next : World σ → World σ}
    (hx : ∀ s, x s = (.ok (value s), next s)) (hI : ∀ s, I s → I (next s)) : Keeps I P x := by
  refine keeps_iff.mpr fun s hs => ?_
  rw [hx]
  refine ⟨hI s hs, fun e he => ?_⟩
  cases he

end Run

open Run

/-! ## Work -/

namespace Work

variable {P P' : Failure → Prop} {x : Work σ α} {k : Except Failure α → Work σ β}

theorem ofExcept_respects {o : Except Failure α} (ho : ∀ f, o = .error f → P f) :
    Respects R P (ofExcept o : Work σ α) := by
  intro s t h
  rw [ofExcept_run, ofExcept_run]
  exact ⟨rfl, h, ho⟩

/-- What comes after work that is run for its result. -/
theorem attempt_bind_respects (hx : Respects R P x) (hok : ∀ a, Respects R P' (k (.ok a)))
    (herror : ∀ f, P f → Respects R P' (k (.error f))) : Respects R P' (x.attempt >>= k) := by
  intro s t h
  have hrun : ∀ s, (x.attempt >>= k) s = k (x s).1 (x s).2 := fun _ => rfl
  obtain ⟨hsame, hafter, hfail⟩ := hx s t h
  rw [hrun, hrun, ← hsame]
  cases hs : (x s).1 with
  | ok a => exact hok a _ _ hafter
  | error f => exact herror f (hfail f hs) _ _ hafter

end Work

/-! ## Attempts -/

namespace Attempt

open Work

variable {c : Client σ} {s : Selector} {P : Failure → Prop}

/-- The parts of a query, and what is done with a page, respect a relation; their failures are among the
given ones. -/
structure Parts (c : Client σ) (R : World σ → World σ → Prop) (P : Failure → Prop) : Prop where
  exchange : ∀ s t, R s t → s.exchange = t.exchange
  send : ∀ r, Respects R P (Work.send c r)
  record : ∀ level message, Respects R P (Work.record level message)
  note : ∀ a, Respects R P (Work.note a)
  shown : ∀ source, Respects R P
    (modify fun s => { s with notes := { s.notes with page := some source } } : Work σ Unit)

/-- The steps of attempts respect a relation, and their failures are among the given ones. -/
structure Steps (c : Client σ) (R : World σ → World σ → Prop) (P : Failure → Prop) : Prop extends
    Parts c R P where
  tryQuery : ∀ q, Respects R P (tryQuery c q)

/-- The failures of the library itself, and those of looking for a selector, are among the given
ones. -/
structure Admits (s : Selector) (P : Failure → Prop) : Prop where
  own : ∀ f, f.isOwn = true → P f
  source : ∀ source f, Snapshot.ofSource source = .error f → P f
  describe : ∀ f, s.describe = .error f → P f
  pick : ∀ page f, s.pickIn page = .error f → P f
  resolve : ∀ page f, s.resolveIn page = .error f → P f

theorem admits_all (s : Selector) : Admits s fun _ => True :=
  ⟨fun _ _ => trivial, fun _ _ _ => trivial, fun _ _ => trivial, fun _ _ _ => trivial,
    fun _ _ _ => trivial⟩

theorem isOwn_of_isQuery {f : Failure} (hf : f.isQuery = true) : f.isOwn = true := by
  cases f <;> first | rfl | cases hf

namespace Parts

variable (h : Parts c R P)
include h

theorem now : Respects R P (Work.now : Work σ Float) :=
  .read (fun s t hst => congrArg Exchange.now (h.exchange s t hst)) fun _ => rfl

theorem expired (limit : Option Deadline) : Respects R P (Work.expired limit : Work σ Bool) :=
  .read (fun s t hst => congrArg (Exchange.expired · limit) (h.exchange s t hst))
    fun _ => expired_run limit

/-- What comes after a request that may miss: after its answer, or after a query failure. -/
theorem mayMiss_bind {r : Request} {k : Except Failure r.Answer → Work σ β}
    (hok : ∀ a, Respects R P (k (.ok a)))
    (herror : ∀ f, f.isQuery = true → Respects R P (k (.error f))) :
    Respects R P (mayMiss c r >>= k) := by
  rw [mayMiss, bind_assoc]
  refine attempt_bind_respects (h.send r) hok fun f hf => ?_
  dsimp only
  split
  · next hquery => exact herror f hquery
  · exact .throw hf

theorem mayMiss (r : Request) : Respects R P (mayMiss c r) := by
  have hbind := h.mayMiss_bind (r := r) (k := Pure.pure) (fun _ => .pure _) fun _ _ => .pure _
  rwa [bind_pure] at hbind

/-- Attempts respect a relation if their parts and the reports of their times do. -/
theorem steps (hreport : ∀ q started missed, Respects R P (reportTime q started missed)) :
    Steps c R P where
  toParts := h
  tryQuery q := by
    refine h.now.bind fun started => h.mayMiss_bind (fun handle => ?_) fun f _ => ?_
    · exact (hreport q started false).bind fun _ => (h.note _).bind fun _ => .pure _
    · exact (h.record _ _).bind fun _ => (hreport q started true).bind fun _ =>
        (h.note _).bind fun _ => .pure _

end Parts

namespace Steps

variable (h : Steps c R P)
include h

/-! ### Queries -/

theorem property (r : Request) (usual : r.Answer) (word handle : String) :
    Respects R P (property c r usual word handle) :=
  h.mayMiss_bind (fun _ => .pure _) fun _ _ => (h.record _ _).bind fun _ => .pure _

theorem ofHandle (hs : Admits s P) (q : Query) (handle : String) :
    Respects R P (ofHandle c s q handle) :=
  (h.property _ _ _ _).bind fun _ => (h.property _ _ _ _).bind fun _ =>
    (h.property _ _ _ _).bind fun _ => (ofExcept_respects hs.describe).bind fun _ => .pure _

omit h in
theorem noneFound (hs : Admits s P) : Respects R P (byQueries.noneFound s : Work σ Element) :=
  (ofExcept_respects hs.describe).bind fun _ => .throw (hs.own _ rfl)

theorem byQueries (hs : Admits s P) (limit : Option Deadline) (queries : List Query) :
    Respects R P (byQueries c s limit queries) := by
  induction queries with
  | nil => exact noneFound hs
  | cons q rest ih =>
      rw [Attempt.byQueries]
      refine (h.expired limit).bind fun past => ?_
      split
      · exact noneFound hs
      · refine (h.tryQuery q).bind fun found => ?_
        cases found with
        | none => exact ih
        | some handle => exact (h.record _ _).bind fun _ => h.ofHandle hs q handle

/-- What comes after the two queries for all elements. -/
theorem exactOrContains_bind {k : Except Failure (Query × String) → Work σ β}
    (hok : ∀ found, Respects R P (k (.ok found)))
    (herror : ∀ f, f.isQuery = true → Respects R P (k (.error f))) :
    Respects R P (exactOrContains c s >>= k) := by
  rw [exactOrContains, bind_assoc]
  refine (h.tryQuery _).bind fun found => ?_
  cases found with
  | some handle => exact hok _
  | none =>
      dsimp only
      rw [bind_assoc]
      refine h.mayMiss_bind (fun handle => ?_) fun f hf => ?_
      · exact (h.note _).bind fun _ => hok _
      · exact (h.note _).bind fun _ => herror f hf

/-! ### Pages -/

theorem loadPage (hs : Admits s P) : Respects R P (loadPage c) := by
  refine attempt_bind_respects (P := P) ?_ (fun _ => .pure _) fun f hf => ?_
  · exact (h.send .source).bind fun source =>
      (h.shown source).bind fun _ =>
        ofExcept_respects (hs.source source)
  · dsimp only
    split
    · exact (h.note _).bind fun _ => .throw hf
    · exact .throw hf

theorem byPage (hs : Admits s P) : Respects R P (byPage c s) := by
  refine (ofExcept_respects hs.describe).bind fun description => (h.loadPage hs).bind fun page =>
    (ofExcept_respects (hs.pick page)).bind fun n => ?_
  cases n with
  | none => exact (h.note _).bind fun _ => .throw (hs.own _ rfl)
  | some n => exact (h.note _).bind fun _ => .pure _

theorem byRelation (hs : Admits s P) : Respects R P (byRelation c s) := by
  refine (h.loadPage hs).bind fun page => (ofExcept_respects hs.describe).bind fun description => ?_
  cases hn : s.resolveIn page with
  | ok n => exact (h.note _).bind fun _ => .pure _
  | error f =>
      dsimp only
      split
      · exact (h.note _).bind fun _ => .throw (hs.resolve page f hn)
      · exact .throw (hs.resolve page f hn)

/-! ### Whole attempts -/

theorem queriesOr (hs : Admits s P) (limit : Option Deadline) (queries : List Query)
    {next : Work σ Element} (hnext : Respects R P next) :
    Respects R P (queriesOr c s limit queries next) := by
  refine attempt_bind_respects (h.byQueries hs limit queries) (fun _ => .pure _) fun f hf =>
    (h.expired limit).bind fun past => ?_
  split
  · exact hnext
  · exact .throw hf

/-- An ordinary attempt respects what its steps respect. -/
theorem standard (hs : Admits s P) (limit : Option Deadline) :
    Respects R P (standard c s limit) := by
  rw [Attempt.standard]
  split
  · exact h.byRelation hs
  · split
    · exact h.byPage hs
    · exact h.queriesOr hs limit _ (h.byPage hs)

/-- An attempt before a tap respects what its steps respect. -/
theorem tap (hs : Admits s P) (limit : Option Deadline) : Respects R P (tap c s limit) := by
  -- The page is looked at in any case, and what its failure leads to hangs on the queries.
  refine h.queriesOr hs limit _ (h.exactOrContains_bind (fun found => ?_) fun missed hmissed => ?_)
  · refine attempt_bind_respects (h.byPage hs) (fun _ => .pure _) fun f hf => ?_
    dsimp only
    split
    · exact .throw hf
    · exact (h.record _ _).bind fun _ => h.ofHandle hs found.1 found.2
  · refine attempt_bind_respects (h.byPage hs) (fun _ => .pure _) fun f hf => ?_
    dsimp only
    split
    · exact .throw hf
    · exact .throw (hs.own missed (isOwn_of_isQuery hmissed))

end Steps

end Attempt

end ElementFinder
