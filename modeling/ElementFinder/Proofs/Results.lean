import ElementFinder.Value.Written

/-!
# Results that may be failures

A sequence succeeds with what its parts give, and fails with the first failure among them, also where its
parts change a state. Values are written without a failure, but for numbers that are too long.
-/

namespace ElementFinder

variable {ε α β : Type} {f : Failure}

theorem except_bind_ok {x : Except ε α} {f : α → Except ε β} {b : β} :
    x >>= f = .ok b ↔ ∃ a, x = .ok a ∧ f a = .ok b := by
  cases x with
  | error e =>
      constructor
      · intro h
        cases h
      · rintro ⟨_, h, _⟩
        cases h
  | ok a =>
      constructor
      · intro h
        exact ⟨a, rfl, h⟩
      · rintro ⟨_, h, hf⟩
        cases h
        exact hf

theorem except_bind_error {x : Except ε α} {f : α → Except ε β}
    {e : ε} : x >>= f = .error e ↔ x = .error e ∨ ∃ a, x = .ok a ∧ f a = .error e := by
  cases x with
  | error e' =>
      constructor
      · rintro ⟨⟩
        exact Or.inl rfl
      · rintro (⟨⟨⟩⟩ | ⟨_, h, _⟩)
        · rfl
        · cases h
  | ok a =>
      constructor
      · intro h
        exact Or.inr ⟨a, rfl, h⟩
      · rintro (h | ⟨_, h, hf⟩)
        · cases h
        · cases h
          exact hf

theorem except_map_ok {x : Except ε α} {f : α → β} {b : β} :
    x.map f = .ok b ↔ ∃ a, x = .ok a ∧ f a = b := by
  cases x <;> simp [Except.map]

theorem except_map_error {x : Except ε α} {f : α → β} {e : ε} :
    x.map f = .error e ↔ x = .error e := by
  cases x <;> simp [Except.map]

theorem toOption_eq_some_iff {x : Except ε α} {a : α} : x.toOption = some a ↔ x = .ok a := by
  cases x <;> simp [Except.toOption]

theorem toOption_map_eq_some_iff {x : Except ε α} {f : α → β} {b : β} :
    x.toOption.map f = some b ↔ ∃ a, x = .ok a ∧ f a = b := by
  cases x <;> simp [Except.toOption]

/-! ## Failing on a condition -/

/-- The result is a failure exactly on a condition, and then one of a certain kind. -/
inductive FailsWhen (kind : ε → Prop) (p : Prop) : Except ε α → Prop
  | ok {a : α} : ¬p → FailsWhen kind p (.ok a)
  | error {e : ε} : kind e → p → FailsWhen kind p (.error e)

namespace FailsWhen

variable {γ ε' : Type} {kind : ε → Prop} {p q : Prop} {x : Except ε α} {y : Except ε β}

theorem exists_ok_iff (h : FailsWhen kind p x) : (∃ a, x = .ok a) ↔ ¬p := by
  cases h with
  | ok hp => exact iff_of_true ⟨_, rfl⟩ hp
  | error _ hp => exact iff_of_false nofun (not_not_intro hp)

theorem congr (h : FailsWhen kind p x) (hpq : p ↔ q) : FailsWhen kind q x :=
  propext hpq ▸ h

theorem map (h : FailsWhen kind p x) (f : α → β) : FailsWhen kind p (x.map f) := by
  cases h with
  | ok hp => exact .ok hp
  | error he hp => exact .error he hp

theorem mapError {kind' : ε' → Prop} {g : ε → ε'} (h : FailsWhen kind p x)
    (hg : ∀ e, kind e → kind' (g e)) : FailsWhen kind' p (x.mapError g) := by
  cases h with
  | ok hp => exact .ok hp
  | error he hp => exact .error (hg _ he) hp

theorem bind {k : α → Except ε β} (hx : FailsWhen kind p x)
    (hk : ∀ a, FailsWhen kind q (k a)) : FailsWhen kind (p ∨ q) (x >>= k) := by
  cases hx with
  | ok hp => exact (hk _).congr (or_iff_right hp).symm
  | error he hp => exact .error he (Or.inl hp)

/-- What is put together from two results fails with either. -/
theorem both (hx : FailsWhen kind p x) (hy : FailsWhen kind q y) (f : α → β → γ) :
    FailsWhen kind (p ∨ q) (x >>= fun a => y >>= fun b => pure (f a b)) :=
  hx.bind fun a => hy.map (f a)

theorem mapM {r : α → Prop} {g : α → Except ε β} (h : ∀ a, FailsWhen kind (r a) (g a)) (l : List α) :
    FailsWhen kind (∃ a ∈ l, r a) (l.mapM g) := by
  induction l with
  | nil => exact .ok nofun
  | cons a l ih =>
      rw [List.mapM_cons]
      exact ((h a).both ih List.cons).congr (by simp)

end FailsWhen

theorem except_mapM_exists_ok {g : α → Except ε β} {l : List α} :
    (∃ bs, l.mapM g = .ok bs) ↔ ∀ a ∈ l, ∃ b, g a = .ok b := by
  have heach : ∀ a, FailsWhen (fun _ => True) (¬∃ b, g a = .ok b) (g a) := by
    intro a
    cases h : g a with
    | ok b => exact .ok fun hno => hno ⟨b, rfl⟩
    | error e => exact .error trivial nofun
  rw [(FailsWhen.mapM heach l).exists_ok_iff]
  simp

theorem except_mapM_of_forall {g : α → Except ε β} {f : α → β} {l : List α}
    (h : ∀ a ∈ l, g a = .ok (f a)) : l.mapM g = .ok (l.map f) := by
  induction l with
  | nil => rfl
  | cons a l ih =>
      obtain ⟨hfirst, hrest⟩ := List.forall_mem_cons.mp h
      rw [List.mapM_cons, hfirst, ih hrest]
      rfl

theorem except_mapM_forall {g : α → Except ε β} {l : List α} {bs : List β} (h : l.mapM g = .ok bs)
    {p : β → Prop} : (∀ b ∈ bs, p b) ↔ ∀ a ∈ l, ∀ b, g a = .ok b → p b := by
  induction l generalizing bs with
  | nil =>
      cases h
      simp
  | cons a l ih =>
      rw [List.mapM_cons] at h
      obtain ⟨b, hb, h⟩ := except_bind_ok.mp h
      obtain ⟨rest, hrest, h⟩ := except_bind_ok.mp h
      cases h
      rw [List.forall_mem_cons, List.forall_mem_cons, ih hrest, hb]
      simp

/-- Where all results are given they stand in the places of what they come from. -/
theorem except_mapM_getElem? {g : α → Except ε β} {l : List α} {bs : List β} (h : l.mapM g = .ok bs) :
    bs.length = l.length ∧ ∀ i : Nat, Option.Rel (fun a b => g a = .ok b) l[i]? bs[i]? := by
  induction l generalizing bs with
  | nil =>
      cases h
      exact ⟨rfl, fun i => by simp only [List.getElem?_nil]; exact .none⟩
  | cons a l ih =>
      rw [List.mapM_cons] at h
      obtain ⟨b, hb, h⟩ := except_bind_ok.mp h
      obtain ⟨rest, hrest, h⟩ := except_bind_ok.mp h
      cases h
      obtain ⟨hlength, hplaces⟩ := ih hrest
      refine ⟨congrArg (· + 1) hlength, fun i => ?_⟩
      cases i with
      | zero => exact .some hb
      | succ i => exact hplaces i

theorem optionRel_bind {γ δ : Type} {r : α → β → Prop} {q : γ → δ → Prop} {x : Option α} {y : Option β}
    {f : α → Option γ} {g : β → Option δ} (h : Option.Rel r x y)
    (hfg : ∀ a b, r a b → Option.Rel q (f a) (g b)) : Option.Rel q (x.bind f) (y.bind g) := by
  cases h with
  | none => exact .none
  | some hab => exact hfg _ _ hab

/-- A value that cannot be written holds a number that is too long. -/
theorem Value.writeOrFail_error {v : Value} (h : v.writeOrFail = .error f) :
    ∃ fault, f = .numeral fault := by
  rw [writeOrFail] at h
  cases hw : v.write with
  | ok text =>
      rw [hw] at h
      cases h
  | error fault =>
      rw [hw] at h
      cases h
      exact ⟨fault, rfl⟩

/-! ## Runs on a state -/

namespace Run

variable {S : Type} {x : ExceptT ε (StateM S) α} {f : α → ExceptT ε (StateM S) β}
  {s t u : S}

theorem bind_ok {a : α} (h : x s = (.ok a, t)) : (x >>= f) s = f a t := by
  show ExceptT.bindCont f (x s).1 (x s).2 = _
  rw [h]
  rfl

theorem bind_error {e : ε} (h : x s = (.error e, t)) : (x >>= f) s = (.error e, t) := by
  show ExceptT.bindCont f (x s).1 (x s).2 = _
  rw [h]
  rfl

/-- A sequence ends in its first part, which failed, or its second part goes on from the first. -/
theorem bind_inv {r : Except ε β} (h : (x >>= f) s = (r, u)) :
    (∃ e, x s = (.error e, u) ∧ r = .error e) ∨ ∃ a t, x s = (.ok a, t) ∧ f a t = (r, u) := by
  rcases hx : x s with ⟨e | a, t⟩
  · rw [bind_error hx] at h
    cases h
    exact Or.inl ⟨e, rfl, rfl⟩
  · rw [bind_ok hx] at h
    exact Or.inr ⟨a, t, rfl, h⟩

theorem bind_inv_ok {b : β} (h : (x >>= f) s = (.ok b, u)) :
    ∃ a t, x s = (.ok a, t) ∧ f a t = (.ok b, u) := by
  rcases bind_inv h with ⟨_, _, he⟩ | h
  · cases he
  · exact h

theorem map_run {g : α → β} : (g <$> x) s = ((x s).1.map g, (x s).2) := by
  show (ExceptT.map g x : ExceptT ε (StateM S) β) s = _
  rcases h : x s with ⟨e | a, t⟩ <;> simp [ExceptT.map, ExceptT.mk, bind, StateT.bind, h] <;> rfl

theorem exists_ok {p : Except ε α × S} (h : p.1.toOption.isSome = true) :
    ∃ a u, p = (.ok a, u) := by
  obtain ⟨_ | a, u⟩ := p
  · cases h
  · exact ⟨a, u, rfl⟩

theorem exists_error {p : Except ε α × S} (h : p.1.toOption = none) :
    ∃ e u, p = (.error e, u) := by
  obtain ⟨e | _, u⟩ := p
  · exact ⟨e, u, rfl⟩
  · cases h

/-- A run that has ended, from wherever it is looked at. -/
def ended (p : Except ε α × S) : ExceptT ε (StateM S) α := fun _ => p

theorem tryFinally_run {r : Except ε α} {finish : ExceptT ε (StateM S) Unit} (hx : x s = (r, t))
    (hfinish : finish t = (.ok (), u)) : (tryFinally x finish) s = (r, u) := by
  have hfirst : (tryFinally x finish) s = (tryFinally (ended (x s)) finish) s := rfl
  have hthen : (tryFinally (ended (r, t)) finish) s = (tryFinally (ended (r, t)) (ended (finish t))) s := by
    cases r <;> rfl
  rw [hfirst, hx, hthen, hfinish]
  cases r <;> rfl

theorem tryCatch_ok {a : α} {handler : ε → ExceptT ε (StateM S) α} (hx : x s = (.ok a, t)) :
    (tryCatch x handler) s = (.ok a, t) := by
  have hfirst : (tryCatch x handler) s = (tryCatch (ended (x s)) handler) s := rfl
  rw [hfirst, hx]
  rfl

theorem tryCatch_error {e : ε} {handler : ε → ExceptT ε (StateM S) α} (hx : x s = (.error e, t)) :
    (tryCatch x handler) s = handler e t := by
  have hfirst : (tryCatch x handler) s = (tryCatch (ended (x s)) handler) s := rfl
  rw [hfirst, hx]
  rfl

end Run

end ElementFinder
