import ElementFinder.Waiting.Deadline
import Mathlib.Data.Prod.Lex

/-!
# The order of moments

Moments are binary numbers with an order of their own, in which what is not a number stands nowhere.
Each other number has a place in a linear order, so a deadline that has expired stays expired.
-/

namespace ElementFinder

open Float.Model

/-! ## Places -/

/-- The place of a number among all numbers: its kind, from negative to positive infinity, then the
exponent and the mantissa. -/
def place? : UnpackedFloat → Option (Int ×ₗ Int ×ₗ Int)
  | .notANumber => none
  | .infinity .negative => some (toLex (-2, toLex (0, 0)))
  | .finite .negative m e _ => some (toLex (-1, toLex (-e, -m)))
  | .zero _ => some (toLex (0, toLex (0, 0)))
  | .finite .positive m e _ => some (toLex (1, toLex (e, m)))
  | .infinity .positive => some (toLex (2, toLex (0, 0)))

theorem isLE_compare_then {e f : Int} {m n : Nat} :
    ((compare e f).then (compare m n)).isLE = true ↔ e < f ∨ e = f ∧ m ≤ n := by
  rw [Ordering.isLE_then_iff_or, Nat.isLE_compare, Int.compare_eq_lt, Int.compare_eq_eq]

theorem isGE_compare_then {e f : Int} {m n : Nat} :
    ((compare e f).then (compare m n)).isGE = true ↔ f < e ∨ e = f ∧ n ≤ m := by
  rw [← Ordering.isLE_swap, Ordering.swap_then, Int.compare_swap, Nat.compare_swap,
    isLE_compare_then, eq_comm (a := f)]

theorem unpacked_le_iff {a b : UnpackedFloat} :
    a.le b = true ↔ ∃ p q, place? a = some p ∧ place? b = some q ∧ p ≤ q := by
  rcases a with (_ | _) | _ | _ | ⟨_ | _, m, e, _⟩ <;>
    rcases b with (_ | _) | _ | _ | ⟨_ | _, n, f, _⟩
  all_goals
    dsimp only [place?, UnpackedFloat.le, UnpackedFloat.compare]
    simp [Prod.Lex.toLex_le_toLex, isLE_compare_then, isGE_compare_then]
  all_goals decide

/-! ## Moments -/

namespace Moment

variable {a b c : Float}

theorem le_iff : a ≤ b ↔
    ∃ p q, place? a.toModel.unpack = some p ∧ place? b.toModel.unpack = some q ∧ p ≤ q := by
  refine Iff.trans ?_ unpacked_le_iff
  show (decide (a.toModel ≤ b.toModel) = true) ↔ _
  rw [decide_eq_true_iff]
  rfl

theorem le_trans (hab : a ≤ b) (hbc : b ≤ c) : a ≤ c := by
  obtain ⟨p, q, hp, hq, hpq⟩ := le_iff.mp hab
  obtain ⟨q', r, hq', hr, hqr⟩ := le_iff.mp hbc
  rw [hq] at hq'
  cases hq'
  exact le_iff.mpr ⟨p, r, hp, hr, hpq.trans hqr⟩

/-- A moment that another one comes before is a number. -/
theorem le_self_of_le (h : a ≤ b) : b ≤ b := by
  obtain ⟨_, q, _, hq, _⟩ := le_iff.mp h
  exact le_iff.mpr ⟨q, q, hq, hq, le_refl q⟩

end Moment

/-! ## Deadlines -/

namespace Deadline

theorem expired_iff {d : Deadline} {now : Float} :
    d.expired now = true ↔ d.cancelled = true ∨ d.finish ≤ now := by
  simp [expired]

@[simp] theorem finish_cancel (d : Deadline) : d.cancel.finish = d.finish := rfl

@[simp] theorem cancelled_cancel (d : Deadline) : d.cancel.cancelled = true := rfl

end Deadline

end ElementFinder
