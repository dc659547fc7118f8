import ElementFinder.Waiting.Poll

/-!
# Roots of failures

A missed deadline wraps the failure of its last attempt, which may be a missed deadline again. The root of a
failure is the end of this chain. It is found in as many rounds as the chain has failures.
-/

namespace ElementFinder

/-! ## Chains -/

section Chains

variable {E : Type} {original? : E → Option E} {e current : E} {chain rest : List E}

/-- The chain behind a failure: what it wraps, what that wraps, and so on to one that wraps nothing. -/
def Chained (original? : E → Option E) (e : E) : List E → Prop
  | [] => original? e = none
  | next :: rest => original? e = some next ∧ Chained original? next rest

/-- What the search for a root returns within a number of rounds. Each round looks at what the current failure
wraps: the next one goes on from there, or the current failure is returned if there is nothing. -/
def rootWithin (original? : E → Option E) : Nat → E → Option E
  | 0, _ => none
  | rounds + 1, current =>
    match original? current with
    | some nested => rootWithin original? rounds nested
    | none => some current

/-- A search takes a round for each failure from where it starts to the end of the chain. -/
theorem rootWithin_of_chained (h : Chained original? current rest) (rounds : Nat) :
    rootWithin original? rounds current =
      if rest.length < rounds then (current :: rest).getLast? else none := by
  induction rest generalizing current rounds with
  | nil =>
      cases rounds with
      | zero => rfl
      | succ rounds =>
          rw [Chained] at h
          simp [rootWithin, h]
  | cons next rest ih =>
      obtain ⟨hnext, hrest⟩ := h
      cases rounds with
      | zero => rfl
      | succ rounds =>
          rw [rootWithin, hnext, List.getLast?_cons_cons]
          dsimp only
          rw [ih hrest]
          simp

/-- The search behind a failure returns the end of its chain, after one round for each failure of the chain. -/
theorem bind_rootWithin_of_chained (h : Chained original? e chain) (rounds : Nat) :
    (original? e).bind (rootWithin original? rounds) =
      if chain.length ≤ rounds then chain.getLast? else none := by
  cases chain with
  | nil =>
      rw [Chained] at h
      rw [h, Option.bind_none, List.getLast?_nil, ite_self]
  | cons next rest =>
      obtain ⟨hnext, hrest⟩ := h
      rw [hnext, Option.bind_some, rootWithin_of_chained hrest]
      rfl

end Chains

/-! ## Chains of failures -/

namespace Failure

variable {f g : Failure} {chain : List Failure}

/-- Every failure has a chain behind it, which ends. -/
theorem exists_chained : ∀ f : Failure, ∃ chain, Chained wrapped? f chain
  | .deadline _ (some g) .. =>
    let ⟨chain, hchain⟩ := exists_chained g
    ⟨g :: chain, rfl, hchain⟩
  | .deadline _ none .. | .general _ | .config _ | .parse _ | .query _ _ | .anchorNotFound _ _ | .noMatch _ _
  | .value _ | .runtime _ | .key _ | .other _ _ => ⟨[], rfl⟩

theorem innermost_of_wrapped (h : f.wrapped? = some g) : f.innermost = g.innermost := by
  cases f with
  | deadline _ wrapped =>
      cases h
      rfl
  | _ => cases h

theorem innermost_of_wraps_nothing (h : f.wrapped? = none) : f.innermost = f := by
  cases f with
  | deadline _ wrapped =>
      cases h
      rfl
  | _ => rfl

theorem innermost_of_chained (h : Chained wrapped? f chain) : some f.innermost = (f :: chain).getLast? := by
  induction chain generalizing f with
  | nil => rw [innermost_of_wraps_nothing h, List.getLast?_singleton]
  | cons next rest ih =>
      obtain ⟨hnext, hrest⟩ := h
      rw [innermost_of_wrapped hnext, ih hrest, List.getLast?_cons_cons]

theorem rootCause?_of_chained (h : Chained wrapped? f chain) : f.rootCause? = chain.getLast? := by
  cases chain with
  | nil =>
      rw [Chained] at h
      rw [rootCause?, h]
      rfl
  | cons next rest =>
      obtain ⟨hnext, hrest⟩ := h
      rw [rootCause?, hnext, Option.map_some, innermost_of_chained hrest]

theorem wrapped?_innermost (f : Failure) : f.innermost.wrapped? = none := by
  fun_induction innermost f with
  | case1 _ f _ _ _ _ _ _ ih => exact ih
  | case2 f hnot =>
      cases f with
      | deadline _ wrapped =>
          cases wrapped with
          | none => rfl
          | some g => exact absurd rfl (hnot _ _ _ _ _ _ _ _)
      | _ => rfl

/-- The root of a failure, or the failure itself if it has none. -/
theorem rootCause?_getD (f : Failure) : f.rootCause?.getD f = f.innermost := by
  rw [rootCause?]
  cases hwrapped : f.wrapped? with
  | none => rw [innermost_of_wraps_nothing hwrapped, Option.map_none, Option.getD_none]
  | some g => rw [innermost_of_wrapped hwrapped, Option.map_some, Option.getD_some]

/-- What wraps a failure has the root of this failure, or the failure itself if that has none. -/
theorem rootCause?_of_wrapped (h : f.wrapped? = some g) : f.rootCause? = some (g.rootCause?.getD g) := by
  rw [rootCause?, h, Option.map_some, rootCause?_getD]

end Failure

/-! ## Main result -/

/-- Behind every failure is a chain that ends, and its root is the last failure of this chain, which wraps nothing;
there is none exactly if the failure wraps nothing. A search from failure to failure returns the end of a chain
after exactly as many rounds as the chain is long, whatever kinds of failures are linked. What wraps a failure has
the same root, also where polling wraps the failure of its last attempt. -/
theorem root_cause_ends_chain (f : Failure) :
    (∃ chain, Chained Failure.wrapped? f chain) ∧
    (∀ chain, Chained Failure.wrapped? f chain → f.rootCause? = chain.getLast? ∧
      ∀ rounds, f.wrapped?.bind (rootWithin Failure.wrapped? rounds) =
        if chain.length ≤ rounds then f.rootCause? else none) ∧
    (∀ root, f.rootCause? = some root → root.wrapped? = none) ∧
    (f.rootCause? = none ↔ f.wrapped? = none) ∧
    (∀ wrapper : Failure, wrapper.wrapped? = some f →
      wrapper.rootCause? = some (f.rootCause?.getD f)) ∧
    (∀ text description d now count, (Poll.missed text description d now count (some f)).rootCause? =
      some (f.rootCause?.getD f)) ∧
    ∀ (E : Type) (original? : E → Option E) (e : E) (chain : List E), Chained original? e chain →
      ∀ rounds, (original? e).bind (rootWithin original? rounds) =
        if chain.length ≤ rounds then chain.getLast? else none := by
  refine ⟨f.exists_chained, fun chain hchain => ?_, ?_, ?_, fun _ => Failure.rootCause?_of_wrapped,
    fun _ _ _ _ _ => Failure.rootCause?_of_wrapped rfl, fun _ _ _ _ => bind_rootWithin_of_chained⟩
  · have hroot := Failure.rootCause?_of_chained hchain
    refine ⟨hroot, fun rounds => ?_⟩
    rw [bind_rootWithin_of_chained hchain, hroot]
  · intro root hroot
    obtain ⟨g, -, rfl⟩ := Option.map_eq_some_iff.mp hroot
    exact g.wrapped?_innermost
  · rw [Failure.rootCause?, Option.map_eq_none_iff]

end ElementFinder
