import ElementFinder.Proofs.Calls
import ElementFinder.Proofs.Related

/-!
# Rounds and single attempts

A deadline that has not expired at the end of an attempt has changed nothing in it, and one that has
only makes an attempt fail. So each attempt after which a search goes on, and the one that finds its
element, is what a single attempt without a deadline would have been.
-/

namespace ElementFinder

open Run Exchange

variable {σ α : Type} {c : Client σ} {s : Selector} {d : Deadline} {o : Except Failure Element}

/-! ## Attempts without a deadline -/

namespace Attempt

open Work

variable {t u : World σ}

/-- Queries that find an element, or miss in time, do so without a deadline too. -/
theorem byQueries_unlimited {queries : List Query}
    (h : byQueries c s (some d) queries t = (o, u))
    (hin : ∀ f, o = .error f → u.exchange.expired (some d) = false) :
    byQueries c s none queries t = (o, u) := by
  induction queries generalizing t with
  | nil => exact h
  | cons q rest ih =>
      rw [byQueries, expired_bind] at h ⊢
      split at h
      · next hpast =>
        obtain ⟨rfl, f, rfl⟩ := noneFound_inv h
        simp [hin f rfl] at hpast
      · show (tryQuery c q >>= _) t = _
        obtain ⟨f, hq, rfl⟩ | ⟨found, v, hq, hrest⟩ := bind_inv h
        · rw [bind_error hq]
        · rw [bind_ok hq]
          cases found with
          | none => exact ih hrest
          | some handle => exact hrest

/-- An ordinary attempt that finds an element, or fails in time, does so without a deadline too. -/
theorem standard_unlimited (h : standard c s (some d) t = (o, u))
    (hin : ∀ f, o = .error f → u.exchange.expired (some d) = false) :
    standard c s none t = (o, u) := by
  rw [standard] at h ⊢
  split at h
  · next hrelative => rwa [if_pos hrelative]
  next hrelative =>
  rw [if_neg hrelative]
  split at h
  · next hsize => rwa [if_pos hsize]
  next hsize =>
  rw [if_neg hsize]
  obtain ⟨hq, hend⟩ | ⟨f, v, hq, hquery, hv, hpage⟩ := queriesOr_inv h
  · rw [queriesOr_run (byQueries_unlimited hq hin)]
    cases o with
    | ok e => rfl
    | error f =>
        -- A query failure would have been at the deadline, or else the page had been asked for.
        have hmissed : f.isQuery = false := by
          by_contra hquery
          have := hend f rfl (by simpa using hquery)
          simp [hin f rfl] at this
        simp [hmissed]
  · rw [queriesOr_run (byQueries_unlimited hq fun _ _ => hv)]
    simpa [hquery, Exchange.expired] using hpage

/-! ## Attempts and notes -/

end Attempt

/-- The state without the notes on the call in progress. -/
def World.bare (s : World σ) : World σ := { s with notes := {} }

theorem World.exchange_eq_of_bare {s t : World σ} (h : s.bare = t.bare) :
    s.exchange = t.exchange := by
  show s.bare.exchange = t.bare.exchange
  rw [h]

namespace Attempt

open Work

/-- Work that does the same without the notes before it respects equality up to notes. -/
theorem respects_bare {x : Work σ α}
    (h : ∀ s, (x s.bare).1 = (x s).1 ∧ (x s.bare).2.bare = (x s).2.bare) :
    Respects (fun s t : World σ => s.bare = t.bare) (fun _ => True) x := by
  intro s t hst
  obtain ⟨hs, hs'⟩ := h s
  obtain ⟨ht, ht'⟩ := h t
  rw [hst] at hs hs'
  exact ⟨hs.symm.trans ht, hs'.symm.trans ht', fun _ _ => trivial⟩

theorem emit_respects_bare (e : TimingEvent) :
    Respects (fun s t : World σ => s.bare = t.bare) (fun _ => True) (emit e) := by
  refine respects_bare fun s => ?_
  rw [emit_run, emit_run]
  dsimp only [World.bare]
  rcases s.timing.emit s.wall.time e s.files with f | ⟨files, records⟩ <;> exact ⟨rfl, rfl⟩

theorem reportTime_respects_bare (q : Query) (started : Float) (missed : Bool) :
    Respects (fun s t : World σ => s.bare = t.bare) (fun _ => True)
      (reportTime q started missed) := by
  intro s t h
  have henabled : s.timing.enabled = t.timing.enabled := by
    show s.bare.timing.enabled = t.bare.timing.enabled
    rw [h]
  rw [reportTime_run, reportTime_run, ← henabled]
  split
  · have hnow : Respects (fun s t : World σ => s.bare = t.bare) (fun _ => True) Work.now :=
      respects_bare fun _ => ⟨rfl, rfl⟩
    exact (hnow.bind fun _ => (ofExcept_respects fun _ _ => trivial).bind emit_respects_bare) s t h
  · exact ⟨rfl, h, by simp⟩

/-- No step of an attempt looks at the notes. -/
theorem steps_bare (c : Client σ) :
    Steps c (fun s t => s.bare = t.bare) (fun _ => True) := by
  refine Parts.steps ⟨fun _ _ => World.exchange_eq_of_bare, ?_, ?_, ?_, ?_⟩ reportTime_respects_bare
  · exact fun _ => respects_bare fun _ => ⟨rfl, rfl⟩
  · exact fun _ _ => respects_bare fun _ => ⟨rfl, rfl⟩
  · exact fun _ => respects_bare fun _ => ⟨rfl, rfl⟩
  · exact fun _ => respects_bare fun _ => ⟨rfl, rfl⟩

end Attempt

/-! ## Rounds of a search -/

namespace Finder

variable {f : Finder σ} {a b : World σ}

/-- A round of a search: an attempt that begins in time. -/
def Round (f : Finder σ) (s : Selector) (d : Deadline) (a : World σ) (o : Except Failure Element)
    (b : World σ) : Prop :=
  a.exchange.expired (some d) = false ∧
    fresh (Attempt.standard f.client s (some d)) a = (o, b)

/-- The single attempt from a state ends with a result, and has sent what leads to the exchange of
another state. -/
def EndsOnce (f : Finder σ) (s : Selector) (a : World σ) (o : Except Failure Element)
    (b : World σ) : Prop :=
  ∃ v, f.findOnce s a = (o, v) ∧ v.exchange = b.exchange

/-- A round that finds its element, or fails in time, is like the single attempt. -/
theorem Round.endsOnce (h : Round f s d a o b)
    (hin : ∀ g, o = .error g → b.exchange.expired (some d) = false) : EndsOnce f s a o b := by
  obtain ⟨hstart, hrun⟩ := h
  let noted : World σ := { a with notes := { a.notes with attempts := [] } }
  let begun : World σ := { a with cancelled := false, notes := {} }
  have hnoted : Attempt.standard f.client s none noted = (o, b) :=
    Attempt.standard_unlimited hrun hin
  -- A search that goes on is not cancelled, so the single attempt begins with the same exchange.
  have hbare : noted.bare = begun.bare := by
    have hcancelled : a.cancelled = false := cancelled_eq_false hstart
    show a.bare = { a.bare with cancelled := false }
    rw [← hcancelled]
    rfl
  obtain ⟨hsame, hafter, _⟩ :=
    (Attempt.steps_bare f.client).standard (Attempt.admits_all s) none noted begun hbare
  rw [hnoted] at hsame hafter
  refine ⟨(Attempt.standard f.client s none begun).2, ?_, (World.exchange_eq_of_bare hafter).symm⟩
  exact Prod.ext hsame.symm rfl

/-- A round that fails in the library's own way, like the single attempt from its state. -/
def MissedLikeOnce (f : Finder σ) (s : Selector) (d : Deadline) (a b : World σ) : Prop :=
  ∃ g, g.isOwn = true ∧ Round f s d a (.error g) b ∧ EndsOnce f s a (.error g) b

/-- Each round that a search goes on after is like the single attempt from its state. -/
theorem retries_missedLikeOnce {y z : Poll.Standing σ}
    (h : Relation.ReflTransGen
      (Poll.Retries (fresh (Attempt.standard f.client s (some d))) Failure.isOwn d) y z)
    (hz : z.world.exchange.expired (some d) = false) :
    y.world.exchange.expired (some d) = false ∧
      Relation.ReflTransGen (MissedLikeOnce f s d) y.world z.world := by
  -- Where the next round begins, the deadline has not expired.
  induction h using Relation.ReflTransGen.head_induction_on with
  | refl => exact ⟨hz, .refl⟩
  | head hround _ ih =>
      obtain ⟨hin, hrest⟩ := ih
      obtain ⟨hstart, g, t, hrun, hg, rfl⟩ := hround
      have hround : Round f s d _ (.error g) t := ⟨hstart, hrun⟩
      exact ⟨hstart, .head ⟨g, hg, hround, hround.endsOnce fun _ _ => hin⟩ hrest⟩

end Finder

open Finder

/-- A search that finds its element goes through rounds that miss it, one from the end of the other,
to a round that finds it. Each of them sends the requests of the single attempt from its own state, and
has the same result. -/
theorem found_in_single_attempts (f : Finder σ) (configured : Timeouts) (rounds : Nat)
    (s : Selector) (limit : Limit) {w u : World σ} {e : Element}
    (h : f.find configured rounds s limit w = (.ok e, u)) :
    ∃ d first last v, f.deadlineAt configured w.now limit = .ok d ∧
      first.exchange = w.exchange.begun ∧
      Relation.ReflTransGen (MissedLikeOnce f s d) first last ∧
      Round f s d last (.ok e) v ∧ EndsOnce f s last (.ok e) v ∧
      u.exchange = v.exchange := by
  obtain ⟨_, stop, hr⟩ | ⟨d, t, v, keeping, hd, ht, hsearch, hu⟩ := find_searches h
  · cases hr
  obtain ⟨first, z, hfirst, hz, ⟨_, stop, hr⟩ | ⟨hin, o, x, hrun, hx, hr⟩⟩ := search_inv hsearch
  · cases hr
  cases hr e rfl
  have hround : Round f s d z.world (.ok e) x := ⟨hin, hrun⟩
  obtain ⟨_, hmissed⟩ := retries_missedLikeOnce hz hin
  exact ⟨d, first, z.world, x, hd, hfirst.trans ht, hmissed, hround,
    hround.endsOnce (by simp), hu.trans hx⟩

/-- A client that answers after a number of requests. -/
def lateClient (number : Nat) : Client Nat where
  ask r n t :=
    if n < number then { outcome := .error (.query "" none), client := n + 1, now := t }
    else match r with
      | .find _ _ => { outcome := .ok "handle", client := n + 1, now := t }
      | .text _ => { outcome := .ok "", client := n + 1, now := t }
      | .rect _ => { outcome := .ok {}, client := n + 1, now := t }
      | .displayed _ => { outcome := .ok true, client := n + 1, now := t }
      | .source => { outcome := .error (.query "" none), client := n + 1, now := t }

theorem found_in_single_attempts_save :
    let f : Finder Nat := { client := lateClient 4 }
    let s : Selector := { criteria := { id := some "save" } }
    let limit := Limit.untilDeadline ⟨10.0, 0.0, false⟩
    let w : World Nat := { client := 0, wall := ⟨"", ""⟩ }
    ∃ e u, f.find .usual 3 s limit w = (.ok e, u) ∧
      ∃ d first last v, f.deadlineAt .usual w.now limit = .ok d ∧
        first.exchange = w.exchange.begun ∧
        Relation.ReflTransGen (MissedLikeOnce f s d) first last ∧
        Round f s d last (.ok e) v ∧ EndsOnce f s last (.ok e) v ∧
        u.exchange = v.exchange := by
  intro f s limit w
  obtain ⟨e, u, h⟩ := exists_ok (p := f.find .usual 3 s limit w) (by decide +kernel)
  exact ⟨e, u, h, found_in_single_attempts f .usual 3 s limit h⟩

end ElementFinder
