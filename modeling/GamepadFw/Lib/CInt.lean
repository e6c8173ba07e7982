import Mathlib.Algebra.Ring.Int.Defs

/-!
# Signed arithmetic of C

An operation on signed integers of `w` bits is undefined where its exact result does not fit in
them. `mul` and `div` are the operations with that check, and division truncates:
`lt_mul_tdiv` and `mul_tdiv_lt` say how much it loses.
-/

namespace CInt

/-- The integer is one of `w` bits. -/
def Fits (w : Nat) (x : Int) : Prop := -2 ^ (w - 1) ≤ x ∧ x < 2 ^ (w - 1)

instance (w : Nat) (x : Int) : Decidable (Fits w x) := inferInstanceAs (Decidable (_ ∧ _))

/-- The result of an operation, if it fits. -/
def checked (w : Nat) (x : Int) : Option Int := if Fits w x then some x else none

/-- `x * y`. -/
def mul (w : Nat) (x y : Int) : Option Int := checked w (x * y)

/-- `x / y`, undefined by 0. -/
def div (w : Nat) (x y : Int) : Option Int := if y = 0 then none else checked w (x.tdiv y)

variable {w : Nat} {x y : Int}

theorem mul_eq_some (h : Fits w (x * y)) : mul w x y = some (x * y) := if_pos h

/-- By a positive number every division is defined. -/
theorem div_eq_some (h : Fits w x) (hy : 0 < y) : div w x y = some (x.tdiv y) := by
  have hn := Int.natAbs_tdiv_le_natAbs x y
  have hf : Fits w (x.tdiv y) := by
    unfold Fits at h ⊢
    generalize (2 : Int) ^ (w - 1) = m at h ⊢
    rcases Int.le_total 0 x with hx | hx
    · have hq := Int.tdiv_nonneg hx (Int.le_of_lt hy)
      omega
    · have hq := Int.tdiv_nonneg (Int.neg_nonneg_of_nonpos hx) (Int.le_of_lt hy)
      rw [Int.neg_tdiv] at hq
      omega
  rw [div, if_neg (Int.ne_of_gt hy)]
  exact if_pos hf

/-- Truncation loses less than the divisor, whatever the sign. -/
theorem lt_mul_tdiv (hy : 0 < y) : x - y < y * x.tdiv y := by
  have hm := Int.tmod_lt_of_pos x hy
  have hd := Int.mul_tdiv_add_tmod x y
  omega

theorem mul_tdiv_lt (hy : 0 < y) : y * x.tdiv y < x + y := by
  have hm := Int.lt_tmod_of_pos x hy
  have hd := Int.mul_tdiv_add_tmod x y
  omega

end CInt
