import ElementFinder.Proofs.Work

/-!
# Rounds

Polling is a row of attempts, each begun in time and each but the last one failed. Looks at the
deadline and reports between them ask nothing.
-/

namespace ElementFinder

open Run Exchange

variable {σ α β : Type} {s t u w : World σ} {d : Deadline}

/-! ## Calls -/

namespace Call

theorem ofWork_inv {x : Work σ α} {r : Except Stop α} (h : ofWork x s = (r, u)) :
    (∃ a, x s = (.ok a, u) ∧ r = .ok a) ∨ ∃ f, x s = (.error f, u) ∧ r = .error (.failed f) := by
  rw [ofWork] at h
  rcases hx : x s with ⟨f | a, t⟩
  · rw [hx] at h
    cases h
    exact Or.inr ⟨f, rfl, rfl⟩
  · rw [hx] at h
    cases h
    exact Or.inl ⟨a, rfl, rfl⟩

theorem ofWork_toOption {x : Work σ α} {r : Except Stop α} (h : ofWork x s = (r, u)) :
    ∃ o, x s = (o, u) ∧ r.toOption = o.toOption := by
  obtain ⟨a, ha, rfl⟩ | ⟨f, hf, rfl⟩ := ofWork_inv h
  · exact ⟨_, ha, rfl⟩
  · exact ⟨_, hf, rfl⟩

theorem ofWork_quiet {x : Work σ α} (hx : Quiet x) : Quiet (ofWork x) := by
  intro s
  rcases h : ofWork x s with ⟨r, u⟩
  obtain ⟨a, ha, _⟩ | ⟨f, hf, _⟩ := ofWork_inv h
  · exact hx.exchange_eq ha
  · exact hx.exchange_eq hf

/-- What comes after work of a known result that changes nothing. -/
theorem ofWork_bind_run {x : Work σ α} {o : Except Failure α} {f : α → Call σ β} :
    x s = (o, s) → (ofWork x >>= f) s =
      match o with
      | .ok a => f a s
      | .error e => (.error (.failed e), s) := by
  intro hx
  cases o with
  | ok a => exact bind_ok (by rw [ofWork, hx])
  | error e => exact bind_error (by rw [ofWork, hx])

theorem expired_bind {f : Bool → Call σ β} :
    (ofWork (Work.expired (some d)) >>= f) s = f (s.exchange.expired (some d)) s :=
  bind_ok rfl

theorem attempt_bind {x : Work σ α} {f : Except Failure α → Call σ β} :
    (ofWork x.attempt >>= f) s = f (x s).1 (x s).2 :=
  bind_ok rfl

/-- A call that is run for its result gives that result, but rounds that are used up stay so. -/
theorem attempt_inv {x : Call σ α} {r : Except Stop (Except Failure α)}
    (h : x.attempt s = (r, u)) :
    (∃ a, x s = (.ok a, u) ∧ r = .ok (.ok a)) ∨
      (∃ f, x s = (.error (.failed f), u) ∧ r = .ok (.error f)) ∨
      x s = (.error .unfinished, u) ∧ r = .error .unfinished := by
  rw [attempt] at h
  rcases hx : x s with ⟨(f | _) | a, t⟩
  · rw [hx] at h
    cases h
    exact Or.inr (Or.inl ⟨f, rfl, rfl⟩)
  · rw [hx] at h
    cases h
    exact Or.inr (Or.inr ⟨rfl, rfl⟩)
  · rw [hx] at h
    cases h
    exact Or.inl ⟨a, rfl, rfl⟩

theorem exists_of_attempt {x : Call σ α} {r : Except Stop (Except Failure α)}
    (h : x.attempt s = (r, u)) : ∃ o, x s = (o, u) := by
  obtain ⟨_, hx, _⟩ | ⟨_, hx, _⟩ | ⟨hx, _⟩ := attempt_inv h
  · exact ⟨_, hx⟩
  · exact ⟨_, hx⟩
  · exact ⟨_, hx⟩

end Call

/-! ## Rounds -/

namespace Poll

/-- Where a loop stands when it looks at the deadline: the state, how many attempts there were, and
the failure of the last one. -/
structure Standing (σ : Type) where
  world : World σ
  count : Nat
  last : Option Failure

/-- An attempt that is begun in time fails in a listed way. -/
def Retries (attempt : Work σ α) (listed : Failure → Bool) (d : Deadline) (a b : Standing σ) :
    Prop :=
  a.world.exchange.expired (some d) = false ∧
    ∃ f t, attempt a.world = (.error f, t) ∧ listed f = true ∧ b = ⟨t, a.count + 1, some f⟩

/-- A question that is asked in time is answered with yes. -/
def AsksAgain (ask : Work σ Bool) (d : Deadline) (a b : Standing σ) : Prop :=
  a.world.exchange.expired (some d) = false ∧
    ∃ t, ask a.world = (.ok true, t) ∧ b = ⟨t, a.count + 1, none⟩

variable {attempt : Work σ α} {listed : Failure → Bool} {ask : Work σ Bool}

/-- The loop goes through failed attempts to its last look at the deadline. There its rounds are used
up, the deadline has expired, or one more attempt ends it. -/
theorem untilResult_inv {rounds count : Nat} {last : Option Failure} {r : Except Stop (Polled α)}
    (h : untilResult attempt listed d rounds count last s = (r, u)) :
    ∃ z, Relation.ReflTransGen (Retries attempt listed d) ⟨s, count, last⟩ z ∧
      ((r = .error .unfinished ∧ u = z.world ∧ z.count = count + rounds) ∨
        (z.world.exchange.expired (some d) = true ∧ r = .ok (.missed z.count z.last) ∧
          u = z.world) ∨
        z.world.exchange.expired (some d) = false ∧
          ((∃ a, attempt z.world = (.ok a, u) ∧ r = .ok (.found a (z.count + 1))) ∨
            ∃ f, attempt z.world = (.error f, u) ∧ listed f = false ∧ r = .error (.failed f))) := by
  -- Each round ends the loop, or it is one retry in front of those of the rounds that are left.
  induction rounds generalizing s count last with
  | zero =>
      cases h
      exact ⟨_, .refl, Or.inl ⟨rfl, rfl, rfl⟩⟩
  | succ rounds ih =>
      rw [← Nat.succ_add_eq_add_succ count rounds]
      rw [untilResult, Call.expired_bind] at h
      cases hs : s.exchange.expired (some d) with
      | true =>
          rw [hs] at h
          cases h
          exact ⟨_, .refl, Or.inr (Or.inl ⟨hs, rfl, rfl⟩)⟩
      | false =>
          simp only [hs, Bool.false_eq_true, ↓reduceIte, Call.attempt_bind] at h
          rcases ha : attempt s with ⟨f | a, t⟩
          · simp only [ha] at h
            cases hl : listed f with
            | true =>
                simp only [hl, ↓reduceIte] at h
                obtain ⟨z, hz, hend⟩ := ih h
                exact ⟨z, .head ⟨hs, f, t, ha, hl, rfl⟩ hz, hend⟩
            | false =>
                simp only [hl] at h
                cases h
                exact ⟨_, .refl, Or.inr (Or.inr ⟨hs, Or.inr ⟨f, ha, hl, rfl⟩⟩)⟩
          · rw [ha] at h
            cases h
            exact ⟨_, .refl, Or.inr (Or.inr ⟨hs, Or.inl ⟨a, ha, rfl⟩⟩)⟩

theorem untilNo_inv {rounds count : Nat} {r : Except Stop (Polled Unit)}
    (h : untilNo ask d rounds count s = (r, u)) :
    ∃ z, Relation.ReflTransGen (AsksAgain ask d) ⟨s, count, none⟩ z ∧
      ((r = .error .unfinished ∧ u = z.world ∧ z.count = count + rounds) ∨
        (z.world.exchange.expired (some d) = true ∧ r = .ok (.missed z.count none) ∧
          u = z.world) ∨
        z.world.exchange.expired (some d) = false ∧
          ((ask z.world = (.ok false, u) ∧ r = .ok (.found () (z.count + 1))) ∨
            ∃ f, ask z.world = (.error f, u) ∧ r = .error (.failed f))) := by
  induction rounds generalizing s count with
  | zero =>
      cases h
      exact ⟨_, .refl, Or.inl ⟨rfl, rfl, rfl⟩⟩
  | succ rounds ih =>
      rw [← Nat.succ_add_eq_add_succ count rounds]
      rw [untilNo, Call.expired_bind] at h
      cases hs : s.exchange.expired (some d) with
      | true =>
          rw [hs] at h
          cases h
          exact ⟨_, .refl, Or.inr (Or.inl ⟨hs, rfl, rfl⟩)⟩
      | false =>
          simp only [hs, Bool.false_eq_true, ↓reduceIte] at h
          obtain ⟨_, hrun, rfl⟩ | ⟨b, t, hrun, h⟩ := bind_inv h
          · obtain ⟨_, _, hr⟩ | ⟨f, ha, hr⟩ := Call.ofWork_inv hrun
            · cases hr
            · cases hr
              exact ⟨_, .refl, Or.inr (Or.inr ⟨hs, Or.inr ⟨f, ha, rfl⟩⟩)⟩
          obtain ⟨b, ha, hr⟩ | ⟨_, _, hr⟩ := Call.ofWork_inv hrun
          · cases hr
            cases b with
            | true =>
                obtain ⟨z, hz, hend⟩ := ih h
                exact ⟨z, .head ⟨hs, t, ha, rfl⟩ hz, hend⟩
            | false =>
                cases h
                exact ⟨_, .refl, Or.inr (Or.inr ⟨hs, Or.inl ⟨ha, rfl⟩⟩)⟩
          · cases hr

/-- Rounds lead from one exchange to another if each of them does, wherever it begins. -/
theorem rounds_leads {c : Client σ} {allowed : Exchange σ → Request → Prop} {x : Exchange σ}
    {round : Standing σ → Standing σ → Prop} {a b : Standing σ}
    (hround : ∀ a b, Leads c allowed x a.world.exchange → round a b →
      Leads c allowed a.world.exchange b.world.exchange)
    (ha : Leads c allowed x a.world.exchange) (h : Relation.ReflTransGen round a b) :
    Leads c allowed x b.world.exchange := by
  induction h with
  | refl => exact ha
  | tail _ hb ih => exact ih.trans (hround _ _ ih hb)

end Poll

end ElementFinder
