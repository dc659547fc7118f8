import ElementFinder.Proofs.TypedFailure

/-!
# Runs side by side

Two runs go side by side if they end alike from related states and leave related states behind. A search
goes side by side with another one if their attempts do, as long as neither records nor reports make a
difference to the relation.
-/

namespace ElementFinder

variable {ε δ σ α β γ κ : Type} {R R' : World σ → World σ → Prop}

/-! ## Sequences -/

namespace Run

/-- Two results are values that are related, or failures that are related. -/
inductive Alike (V : α → β → Prop) (E : ε → δ → Prop) : Except ε α → Except δ β → Prop
  | ok {a : α} {b : β} : V a b → Alike V E (.ok a) (.ok b)
  | error {e : ε} {f : δ} : E e f → Alike V E (.error e) (.error f)

theorem Alike.eq {x y : Except ε α} (h : Alike Eq Eq x y) : x = y := by
  cases h with
  | ok h => rw [h]
  | error h => rw [h]

theorem Alike.of_eq {V : α → α → Prop} {E : ε → ε → Prop} (hV : ∀ a, V a a) (hE : ∀ e, E e e)
    {x y : Except ε α} (h : x = y) : Alike V E x y := by
  subst h
  cases x with
  | ok a => exact .ok (hV a)
  | error e => exact .error (hE e)

theorem Alike.refl (x : Except ε α) : Alike Eq Eq x x := .of_eq (fun _ => rfl) (fun _ => rfl) rfl

theorem Alike.imp {V V' : α → β → Prop} {E E' : ε → δ → Prop} {x : Except ε α} {y : Except δ β}
    (h : Alike V E x y) (hV : ∀ a b, V a b → V' a b) (hE : ∀ e f, E e f → E' e f) : Alike V' E' x y := by
  cases h with
  | ok h => exact .ok (hV _ _ h)
  | error h => exact .error (hE _ _ h)

theorem Alike.mono {V : α → β → Prop} {E E' : ε → δ → Prop} {x : Except ε α} {y : Except δ β}
    (h : Alike V E x y) (hE : ∀ e f, E e f → E' e f) : Alike V E' x y :=
  h.imp (fun _ _ h => h) hE

/-- From related states two runs end alike, in states of another relation. -/
def PairsTo (R R' : World σ → World σ → Prop) (V : α → β → Prop) (E : ε → δ → Prop)
    (x : ExceptT ε (StateM (World σ)) α) (y : ExceptT δ (StateM (World σ)) β) : Prop :=
  ∀ s t, R s t → Alike V E (x s).1 (y t).1 ∧ R' (x s).2 (y t).2

/-- From related states two runs end alike, in related states. -/
abbrev Pairs (R : World σ → World σ → Prop) (V : α → β → Prop) (E : ε → δ → Prop)
    (x : ExceptT ε (StateM (World σ)) α) (y : ExceptT δ (StateM (World σ)) β) : Prop :=
  PairsTo R R V E x y

theorem Respects.pairs {P : ε → Prop} {E : ε → ε → Prop} {x : ExceptT ε (StateM (World σ)) α}
    (hx : Respects R P x) (hE : ∀ e, P e → E e e) : Pairs R Eq E x x := by
  intro s t h
  obtain ⟨hsame, hafter, hfail⟩ := hx s t h
  rw [← hsame]
  refine ⟨?_, hafter⟩
  cases hs : (x s).1 with
  | ok a => exact .ok rfl
  | error e => exact .error (hE e (hfail e hs))

theorem Pairs.respects {x : ExceptT ε (StateM (World σ)) α} (hx : Pairs R Eq Eq x x) :
    Respects R (fun _ => True) x := by
  intro s t h
  obtain ⟨halike, hafter⟩ := hx s t h
  exact ⟨halike.eq, hafter, fun _ _ => trivial⟩

section

variable {Q : World σ → World σ → Prop} {V : α → β → Prop} {W : γ → κ → Prop} {E : ε → δ → Prop}
  {x : ExceptT ε (StateM (World σ)) α} {y : ExceptT δ (StateM (World σ)) β}
  {f : α → ExceptT ε (StateM (World σ)) γ} {g : β → ExceptT δ (StateM (World σ)) κ}

namespace PairsTo

/-- Where a run fails, what would come next leaves the states as they are. -/
theorem bind (hx : PairsTo R Q V E x y) (hQ : ∀ s t, Q s t → R' s t)
    (hf : ∀ a b, V a b → PairsTo Q R' W E (f a) (g b)) : PairsTo R R' W E (x >>= f) (y >>= g) := by
  intro s t hst
  obtain ⟨halike, hafter⟩ := hx s t hst
  rcases hs : x s with ⟨r, u⟩
  rcases ht : y t with ⟨r', v⟩
  rw [hs, ht] at halike hafter
  cases halike with
  | ok h =>
      rw [bind_ok hs, bind_ok ht]
      exact hf _ _ h u v hafter
  | error h =>
      rw [bind_error hs, bind_error ht]
      exact ⟨.error h, hQ _ _ hafter⟩

theorem weaken (hx : PairsTo R Q V E x y) (hQ : ∀ s t, Q s t → R' s t) : PairsTo R R' V E x y := by
  intro s t hst
  obtain ⟨halike, hafter⟩ := hx s t hst
  exact ⟨halike, hQ _ _ hafter⟩

theorem mono {E' : ε → δ → Prop} (hx : PairsTo R R' V E x y) (hE : ∀ e f, E e f → E' e f) :
    PairsTo R R' V E' x y := by
  intro s t hst
  obtain ⟨halike, hafter⟩ := hx s t hst
  exact ⟨halike.mono hE, hafter⟩

end PairsTo

namespace Pairs

theorem pure {a : α} {b : β} (h : V a b) :
    Pairs R V E (Pure.pure a : ExceptT ε (StateM (World σ)) α) (Pure.pure b) :=
  fun _ _ hst => ⟨.ok h, hst⟩

theorem throw {e : ε} {e' : δ} (h : E e e') :
    Pairs R V E (MonadExcept.throw e : ExceptT ε (StateM (World σ)) α) (MonadExcept.throw e') :=
  fun _ _ hst => ⟨.error h, hst⟩

theorem bind (hx : Pairs R V E x y) (hf : ∀ a b, V a b → Pairs R W E (f a) (g b)) :
    Pairs R W E (x >>= f) (y >>= g) :=
  PairsTo.bind hx (fun _ _ h => h) hf

/-- Runs that change nothing, with results that are alike in related states. -/
theorem read {o : World σ → Except ε α} {p : World σ → Except δ β} (hx : ∀ s, x s = (o s, s))
    (hy : ∀ t, y t = (p t, t)) (h : ∀ s t, R s t → Alike V E (o s) (p t)) : Pairs R V E x y := by
  intro s t hst
  rw [hx, hy]
  exact ⟨h s t hst, hst⟩

end Pairs

end

end Run

open Run

/-- Results that fail on the same condition are alike. -/
theorem FailsWhen.alike {kind : ε → Prop} {E : ε → ε → Prop} {p : Prop} {x : Except ε α} {y : Except ε β}
    (hx : FailsWhen kind p x) (hy : FailsWhen kind p y) (hE : ∀ e f, kind e → kind f → E e f) :
    Alike (fun _ _ => True) E x y := by
  cases hx with
  | ok hp =>
      cases hy with
      | ok _ => exact .ok trivial
      | error _ h => exact absurd h hp
  | error he hp =>
      cases hy with
      | ok h => exact absurd hp h
      | error hf _ => exact .error (hE _ _ he hf)

/-! ## Work and calls -/

/-- Two ends of calls: both used up their rounds, or both failed, in related ways. -/
inductive StopAlike (E : Failure → Failure → Prop) : Stop → Stop → Prop
  | unfinished : StopAlike E .unfinished .unfinished
  | failed {f g : Failure} : E f g → StopAlike E (.failed f) (.failed g)

variable {E F : Failure → Failure → Prop} {V : α → β → Prop} {W : γ → κ → Prop}

theorem StopAlike.mono {a b : Stop} (h : StopAlike E a b) (hEF : ∀ f g, E f g → F f g) :
    StopAlike F a b := by
  cases h with
  | unfinished => exact .unfinished
  | failed h => exact .failed (hEF _ _ h)

namespace Work

variable {x : Work σ α} {y : Work σ β} {k : Except Failure α → Work σ γ}
  {l : Except Failure β → Work σ κ}

theorem ofExcept_pairs {o : Except Failure α} {p : Except Failure β} (h : Alike V E o p) :
    Pairs R V E (ofExcept o : Work σ α) (ofExcept p) :=
  .read (fun _ => ofExcept_run o) (fun _ => ofExcept_run p) fun _ _ _ => h

/-- What comes after a look at the clock. -/
theorem now_bind_pairs (hexchange : ∀ s t, R s t → s.exchange = t.exchange) {f : Float → Work σ α}
    {g : Float → Work σ β} (h : ∀ m, PairsTo (fun s t => R s t ∧ s.now = m) R' V E (f m) (g m)) :
    PairsTo R R' V E (now >>= f) (now >>= g) := by
  intro s t hst
  have hnow : t.now = s.now := (congrArg Exchange.now (hexchange s t hst)).symm
  show Alike V E (f s.now s).1 (g t.now t).1 ∧ R' (f s.now s).2 (g t.now t).2
  rw [hnow]
  exact h s.now s t ⟨hst, rfl⟩

/-- What comes after work that is run for its result. -/
theorem attempt_bind_pairs (hx : Pairs R V E x y)
    (hok : ∀ a b, V a b → Pairs R W F (k (.ok a)) (l (.ok b)))
    (herror : ∀ f g, E f g → Pairs R W F (k (.error f)) (l (.error g))) :
    Pairs R W F (x.attempt >>= k) (y.attempt >>= l) := by
  intro s t hst
  obtain ⟨halike, hafter⟩ := hx s t hst
  show Alike W F (k (x s).1 (x s).2).1 (l (y t).1 (y t).2).1 ∧
    R (k (x s).1 (x s).2).2 (l (y t).1 (y t).2).2
  generalize (x s).1 = r at halike
  generalize (y t).1 = r' at halike
  cases halike with
  | ok h => exact hok _ _ h _ _ hafter
  | error h => exact herror _ _ h _ _ hafter

end Work

namespace Call

theorem ofWork_pairsTo {x : Work σ α} {y : Work σ β} (hx : PairsTo R R' V E x y) :
    PairsTo R R' V (StopAlike E) (ofWork x) (ofWork y) := by
  intro s t hst
  obtain ⟨halike, hafter⟩ := hx s t hst
  rcases hs : x s with ⟨r, u⟩
  rcases ht : y t with ⟨r', v⟩
  rw [hs, ht] at halike hafter
  rw [ofWork, ofWork, hs, ht]
  cases halike with
  | ok h => exact ⟨.ok h, hafter⟩
  | error h => exact ⟨.error (.failed h), hafter⟩

theorem ofWork_pairs {x : Work σ α} {y : Work σ β} (hx : Pairs R V E x y) :
    Pairs R V (StopAlike E) (ofWork x) (ofWork y) := ofWork_pairsTo hx

theorem ofWork_attempt_bind_pairs {x : Work σ α} {y : Work σ β} {k : Except Failure α → Call σ γ}
    {l : Except Failure β → Call σ κ} (hx : Pairs R V E x y)
    (hok : ∀ a b, V a b → Pairs R W (StopAlike F) (k (.ok a)) (l (.ok b)))
    (herror : ∀ f g, E f g → Pairs R W (StopAlike F) (k (.error f)) (l (.error g))) :
    Pairs R W (StopAlike F) (ofWork x.attempt >>= k) (ofWork y.attempt >>= l) := by
  intro s t hst
  obtain ⟨halike, hafter⟩ := hx s t hst
  rw [attempt_bind, attempt_bind]
  generalize (x s).1 = r at halike
  generalize (y t).1 = r' at halike
  cases halike with
  | ok h => exact hok _ _ h _ _ hafter
  | error h => exact herror _ _ h _ _ hafter

/-- What comes after a part of a call that is run for its result. -/
theorem attempt_bind_pairs {x : Call σ α} {y : Call σ β} {k : Except Failure α → Call σ γ}
    {l : Except Failure β → Call σ κ} (hx : Pairs R V (StopAlike E) x y) (hR : ∀ s t, R s t → R' s t)
    (hok : ∀ a b, V a b → PairsTo R R' W (StopAlike F) (k (.ok a)) (l (.ok b)))
    (herror : ∀ f g, E f g → PairsTo R R' W (StopAlike F) (k (.error f)) (l (.error g))) :
    PairsTo R R' W (StopAlike F) (x.attempt >>= k) (y.attempt >>= l) := by
  have htry : Pairs R (Alike V E) (StopAlike F) x.attempt y.attempt := by
    intro s t hst
    obtain ⟨halike, hafter⟩ := hx s t hst
    rcases hs : x s with ⟨r, u⟩
    rcases ht : y t with ⟨r', v⟩
    rw [hs, ht] at halike hafter
    rw [attempt, attempt, hs, ht]
    obtain h | (_ | h) := halike
    · exact ⟨.ok (.ok h), hafter⟩
    · exact ⟨.error .unfinished, hafter⟩
    · exact ⟨.ok (.error h), hafter⟩
  refine PairsTo.bind htry hR fun r r' h => ?_
  cases h with
  | ok h => exact hok _ _ h
  | error h => exact herror _ _ h

end Call

/-! ## Polling -/

/-- Records and reports keep the relation, also if they are different ones. Of reports, these are the
ones that can be written unless a number of attempts up to a limit cannot. -/
structure KeptByReports (R : World σ → World σ → Prop) (E : Failure → Failure → Prop) (limit : Nat) :
    Prop where
  exchange : ∀ s t, R s t → s.exchange = t.exchange
  forget : ∀ s t, R s t → R { s with notes := { s.notes with attempts := [] } }
    { t with notes := { t.notes with attempts := [] } }
  record : ∀ level message message', Pairs R (fun _ _ => True) E (Work.record level message)
    (Work.record level message')
  emit : ∀ (e e' : TimingEvent) (n : Nat), n ≤ limit →
    (∀ time, (e.line time).map (fun _ => ()) = TimingEvent.countWritten n) →
    (∀ time, (e'.line time).map (fun _ => ()) = TimingEvent.countWritten n) →
    Pairs R (fun _ _ => True) E (Work.emit e) (Work.emit e')

namespace Poll

/-- Two ends of polling, after the same number of attempts. -/
inductive PolledAlike (V : α → β → Prop) (E : Failure → Failure → Prop) (limit : Nat) :
    Polled α → Polled β → Prop
  | found {a : α} {b : β} {count : Nat} : V a b → count ≤ limit →
      PolledAlike V E limit (.found a count) (.found b count)
  | missed {count : Nat} {last last' : Option Failure} : Option.Rel E last last' → count ≤ limit →
      PolledAlike V E limit (.missed count last) (.missed count last')

variable {limit : Nat} {d : Deadline} {description description' : String}

theorem eq_of_rel {last last' : Option Failure} (h : Option.Rel Eq last last') : last = last' := by
  cases h with
  | none => rfl
  | some h => rw [h]

/-- Loops go side by side if their attempts do and they go on after the same failures. -/
theorem untilResult_pairs (hexchange : ∀ s t, R s t → s.exchange = t.exchange) {x : Work σ α}
    {y : Work σ β} {listed : Failure → Bool} (hx : Pairs R V E x y)
    (hlisted : ∀ f g, E f g → listed f = listed g) {rounds count : Nat} {last last' : Option Failure}
    (hlast : Option.Rel E last last') (hcount : count + rounds ≤ limit) :
    Pairs R (PolledAlike V E limit) (StopAlike E) (untilResult x listed d rounds count last)
      (untilResult y listed d rounds count last') := by
  -- What the rounds that are left come to hangs on the failure of the last attempt.
  induction rounds generalizing count last last' with
  | zero => exact .throw .unfinished
  | succ rounds ih =>
      rw [untilResult, untilResult]
      have hexpired : Pairs R Eq (StopAlike E) (Call.ofWork (Work.expired (some d)) : Call σ Bool)
          (Call.ofWork (Work.expired (some d))) :=
        .read (fun _ => rfl) (fun _ => rfl) fun s t hst =>
          .ok (congrArg (Exchange.expired · (some d)) (hexchange s t hst))
      refine hexpired.bind ?_
      rintro past _ rfl
      split
      · exact .pure (.missed hlast (by omega))
      · refine Call.ofWork_attempt_bind_pairs hx (fun a b h => ?_) fun f g h => ?_
        · exact .pure (.found h (by omega))
        · dsimp only
          rw [hlisted f g h]
          split
          · exact ih (.some h) (by omega)
          · exact .throw (.failed h)

/-- Waits for a no go side by side if their questions do. -/
theorem untilNo_pairs (hexchange : ∀ s t, R s t → s.exchange = t.exchange) {x y : Work σ Bool}
    (hx : Pairs R Eq E x y) {rounds count : Nat} (hcount : count + rounds ≤ limit) :
    Pairs R (PolledAlike Eq E limit) (StopAlike E) (untilNo x d rounds count)
      (untilNo y d rounds count) := by
  induction rounds generalizing count with
  | zero => exact .throw .unfinished
  | succ rounds ih =>
      rw [untilNo, untilNo]
      have hexpired : Pairs R Eq (StopAlike E) (Call.ofWork (Work.expired (some d)) : Call σ Bool)
          (Call.ofWork (Work.expired (some d))) :=
        .read (fun _ => rfl) (fun _ => rfl) fun s t hst =>
          .ok (congrArg (Exchange.expired · (some d)) (hexchange s t hst))
      refine hexpired.bind ?_
      rintro past _ rfl
      split
      · exact .pure (.missed .none (by omega))
      · refine (Call.ofWork_pairs hx).bind ?_
        rintro answer _ rfl
        split
        · exact ih (by omega)
        · exact .pure (.found rfl (by omega))

/-- Reports around loops that go side by side make no difference. -/
theorem reported_pairs (h : KeptByReports R E limit) {loop : Call σ (Polled α)}
    {loop' : Call σ (Polled β)} {text text' : Deadline → Option Failure → String}
    (hloop : Pairs R (PolledAlike V E limit) (StopAlike E) loop loop')
    (hmissed : ∀ d now count last last', Option.Rel E last last' →
      E (missed (text d last) description d now count last)
        (missed (text' d last') description' d now count last')) :
    Pairs R V (StopAlike E) (reported description d loop text)
      (reported description' d loop' text') := by
  have hnow : Pairs R Eq (StopAlike E) (Call.ofWork Work.now : Call σ Float) (Call.ofWork Work.now) :=
    .read (fun _ => rfl) (fun _ => rfl) fun s t hst =>
      .ok (congrArg Exchange.now (h.exchange s t hst))
  have hstanding : Pairs R Eq (StopAlike E) (Call.ofWork (Work.standing d) : Call σ Deadline)
      (Call.ofWork (Work.standing d)) :=
    .read (fun _ => rfl) (fun _ => rfl) fun s t hst =>
      .ok (congrArg (fun x : Exchange σ => if x.cancelled then d.cancel else d) (h.exchange s t hst))
  have hstarted := h.emit (.started description d) (.started description' d) 0 (Nat.zero_le _)
    (fun time => (TimingEvent.line_started time).trans TimingEvent.countWritten_zero.symm)
    fun time => (TimingEvent.line_started time).trans TimingEvent.countWritten_zero.symm
  refine (Call.ofWork_pairs hstarted).bind fun _ _ _ => hloop.bind fun polled polled' hpolled => ?_
  cases hpolled with
  | @found a b count hab hcount =>
      have hsucceeded : Pairs R (fun _ _ => True) (StopAlike E)
          (Call.ofWork do Work.emit (.succeeded description d (← Work.now) count) : Call σ Unit)
          (Call.ofWork do Work.emit (.succeeded description' d (← Work.now) count)) := by
        have hnow : Pairs R Eq E (Work.now : Work σ Float) Work.now :=
          .read (fun _ => rfl) (fun _ => rfl) fun s t hst =>
            .ok (congrArg Exchange.now (h.exchange s t hst))
        refine Call.ofWork_pairs (hnow.bind ?_)
        rintro now _ rfl
        exact h.emit _ _ count hcount (TimingEvent.line_succeeded · now count)
          (TimingEvent.line_succeeded · now count)
      exact hsucceeded.bind fun _ _ _ => .pure hab
  | @missed count last last' hlast hcount =>
      refine hnow.bind ?_
      rintro now _ rfl
      refine hstanding.bind ?_
      rintro d' _ rfl
      have hfailed := h.emit (.failed description d' now count last)
        (.failed description' d' now count last') count hcount
        (TimingEvent.line_failed · now count last) (TimingEvent.line_failed · now count last')
      exact (Call.ofWork_pairs hfailed).bind fun _ _ _ =>
        .throw (.failed (hmissed d' now count last last' hlast))

theorem forResult_pairs (h : KeptByReports R E limit) {rounds : Nat} (hrounds : rounds ≤ limit)
    {x : Work σ α} {y : Work σ β} {listed : Failure → Bool} (hx : Pairs R V E x y)
    (hlisted : ∀ f g, E f g → listed f = listed g)
    (hmissed : ∀ d now count last last', Option.Rel E last last' →
      E (missed (missedText description d last) description d now count last)
        (missed (missedText description' d last') description' d now count last')) :
    Pairs R V (StopAlike E) (forResult rounds x d description listed)
      (forResult rounds y d description' listed) :=
  reported_pairs h (untilResult_pairs h.exchange hx hlisted .none (by omega)) hmissed

theorem forNo_pairs (h : KeptByReports R E limit) {rounds : Nat} (hrounds : rounds ≤ limit)
    {x y : Work σ Bool} (hx : Pairs R Eq E x y)
    (hmissed : ∀ text d now count last last', Option.Rel E last last' →
      E (missed text description d now count last) (missed text description d now count last')) :
    Pairs R Eq (StopAlike E) (forNo rounds x d description) (forNo rounds y d description) :=
  reported_pairs h (untilNo_pairs h.exchange hx (by omega)) fun _ _ _ _ _ => hmissed _ _ _ _ _ _

end Poll

/-- A missed deadline with its details. -/
theorem Failure.IsDeadline.exists_eq {f : Failure} (h : f.IsDeadline) :
    ∃ text wrapped description timeout count elapsed attempts artifacts,
      f = .deadline text wrapped description timeout count elapsed attempts artifacts := by
  cases f <;> first | exact ⟨_, _, _, _, _, _, _, _, rfl⟩ | cases h

/-! ## Searches -/

namespace Finder

variable {limit rounds : Nat} {d : Deadline} {D : String → String → Prop}
  {U : Element → Element → Prop} {s s' : Selector} {attempt attempt' : Work σ Element}
  {keeping keeping' : Keeping}

/-- Failures that are related are of one kind, and so are the missed deadlines that they lead to. -/
structure KeepsKind (D : String → String → Prop) (E : Failure → Failure → Prop) : Prop where
  isOwn : ∀ f g, E f g → f.isOwn = g.isOwn
  isDeadline : ∀ f g, E f g → (f.IsDeadline ↔ g.IsDeadline)
  missed : ∀ a b, D a b → ∀ d now count last last', Option.Rel E last last' →
    E (Poll.missed (Poll.missedText a d last) a d now count last)
      (Poll.missed (Poll.missedText b d last') b d now count last')

/-- Searches go side by side if their attempts do, and if what they keep of the last page goes with the
failures that it is noted in. What is kept may lead to states of a weaker relation. -/
theorem search_pairs (h : KeptByReports R E limit) (hkind : KeepsKind D E) (hrounds : rounds ≤ limit)
    (hEF : ∀ f g, E f g → F f g) (hR : ∀ u v, R u v → R' u v)
    (hrecord : ∀ level message message', Pairs R' (fun _ _ => True) F
      (Work.record level message : Work σ Unit) (Work.record level message'))
    (hdescribe : Alike D E s.describe s'.describe) (hattempt : Pairs R U E attempt attempt')
    (hkeep : ∀ a b f g u v, D a b → E f g → R u v →
      PairsTo R R' (fun p q => F (f.withNotes u.notes.attempts p) (g.withNotes v.notes.attempts q)) F
        (keeping.run a : Work σ (List (String × String))) (keeping'.run b)) :
    PairsTo R R' U (StopAlike F) (search rounds s d attempt keeping)
      (search rounds s' d attempt' keeping') := by
  have hweaker : ∀ {α β : Type} {V : α → β → Prop} {x : Work σ α} {y : Work σ β},
      Pairs R V E x y → Pairs R V (StopAlike F) (Call.ofWork x) (Call.ofWork y) :=
    fun hx => (Call.ofWork_pairs hx).mono fun _ _ h => h.mono hEF
  have hfresh : Pairs R U E (fresh attempt) (fresh attempt') := by
    intro u v huv
    exact hattempt _ _ (h.forget u v huv)
  refine PairsTo.bind (hweaker (Work.ofExcept_pairs hdescribe)) hR fun a b hab => ?_
  refine PairsTo.bind (hweaker (h.record _ _ _)) hR fun _ _ _ => ?_
  have hpolling : Pairs R U (StopAlike E) (Poll.forResult rounds (fresh attempt) d a Failure.isOwn)
      (Poll.forResult rounds (fresh attempt') d b Failure.isOwn) :=
    Poll.forResult_pairs h hrounds hfresh hkind.isOwn (hkind.missed a b hab)
  refine Call.attempt_bind_pairs hpolling hR (fun e e' he => ?_) fun f g hfg => ?_
  · exact PairsTo.bind (hweaker (h.record _ _ _)) hR fun _ _ _ => PairsTo.weaken (Pairs.pure he) hR
  · have hdeadline := hkind.isDeadline f g hfg
    by_cases hf : f.IsDeadline
    · obtain ⟨_, _, _, _, _, _, _, _, rfl⟩ := hf.exists_eq
      obtain ⟨_, _, _, _, _, _, _, _, rfl⟩ := (hdeadline.mp hf).exists_eq
      have hget : Pairs R R (StopAlike F) (get : Call σ (World σ)) get :=
        .read (fun _ => rfl) (fun _ => rfl) fun _ _ huv => .ok huv
      refine PairsTo.bind hget hR fun u v huv => ?_
      refine (Call.ofWork_pairsTo (hkeep a b _ _ u v hab hfg huv)).bind (fun _ _ h => h) fun p q hpq => ?_
      exact (Call.ofWork_pairs (hrecord _ _ _)).bind fun _ _ _ => .throw (.failed hpq)
    · have hg := mt hdeadline.mpr hf
      refine PairsTo.weaken ?_ hR
      cases f <;> first | exact absurd trivial hf | cases g <;>
        first | exact absurd trivial hg | exact Pairs.throw (.failed (hEF _ _ hfg))

end Finder

end ElementFinder
