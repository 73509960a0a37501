import Mathlib.Algebra.Order.Group.MinMax
import Mathlib.Algebra.Order.Ring.Int
import Mathlib.Logic.Function.Iterate

set_option autoImplicit false

namespace Droidlogic.Lib

-- The line from lower to upper over a width, at a distance from its left end, to the nearest integer.
def blend (lower upper distance width : Int) : Int :=
  (lower * (width - distance) + upper * distance + width / 2) / width

theorem blend_between (lower upper distance width : Int) (positive : 0 < width) (right : 0 ≤ distance)
    (left : distance ≤ width) :
    min lower upper ≤ blend lower upper distance width ∧ blend lower upper distance width ≤ max lower upper := by
  have near : 0 ≤ width - distance := Int.sub_nonneg_of_le left
  have lowest : min lower upper * width ≤ lower * (width - distance) + upper * distance := by
    have first := Int.mul_le_mul_of_nonneg_right (Int.min_le_left lower upper) near
    have second := Int.mul_le_mul_of_nonneg_right (Int.min_le_right lower upper) right
    have whole : min lower upper * width = min lower upper * (width - distance) + min lower upper * distance := by
      rw [← Int.mul_add, Int.sub_add_cancel]
    omega
  have highest : lower * (width - distance) + upper * distance ≤ max lower upper * width := by
    have first := Int.mul_le_mul_of_nonneg_right (Int.le_max_left lower upper) near
    have second := Int.mul_le_mul_of_nonneg_right (Int.le_max_right lower upper) right
    have whole : max lower upper * width = max lower upper * (width - distance) + max lower upper * distance := by
      rw [← Int.mul_add, Int.sub_add_cancel]
    omega
  constructor
  · rw [blend, Int.le_ediv_iff_mul_le positive]
    omega
  · refine Int.lt_add_one_iff.mp ?_
    rw [blend, Int.ediv_lt_iff_lt_mul positive, Int.add_mul, Int.one_mul]
    omega

-- One step of at most limit towards a goal.
def slew (limit goal value : Int) : Int := value + max (-limit) (min limit (goal - value))

theorem slew_step (limit goal value : Int) (nonneg : 0 ≤ limit) :
    -limit ≤ slew limit goal value - value ∧ slew limit goal value - value ≤ limit := by
  rw [slew]
  omega

theorem slew_between (limit goal value low high : Int) (nonneg : 0 ≤ limit) (value_in : low ≤ value ∧ value ≤ high)
    (goal_in : low ≤ goal ∧ goal ≤ high) : low ≤ slew limit goal value ∧ slew limit goal value ≤ high := by
  rw [slew]
  omega

-- The distance shrinks by the limit with each step until it is nothing.
theorem slew_settles (limit goal value : Int) (n : Nat) (nonneg : 0 ≤ limit) (above : goal - value ≤ limit * n)
    (below : value - goal ≤ limit * n) : (slew limit goal)^[n] value = goal := by
  induction n generalizing value with
  | zero =>
      rw [Int.ofNat_zero, Int.mul_zero] at above below
      exact Int.le_antisymm (by simpa using below) (by simpa using above)
  | succ n ih =>
      have longer : limit * ((n + 1 : Nat) : Int) = limit * (n : Int) + limit := by
        rw [Int.natCast_add, Int.mul_add, Int.natCast_one, Int.mul_one]
      have reach : 0 ≤ limit * (n : Int) := Int.mul_nonneg nonneg (Int.natCast_nonneg n)
      rw [longer] at above below
      rw [Function.iterate_succ_apply]
      apply ih
      · rw [slew]
        omega
      · rw [slew]
        omega

end Droidlogic.Lib
