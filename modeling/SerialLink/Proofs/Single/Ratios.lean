import Mathlib.Algebra.Order.Floor.Semifield
import Mathlib.Data.Rat.Floor
import Mathlib.Tactic.Linarith
import Mathlib.Tactic.Positivity
import SerialLink.Single.Shortest

/-!
# Ratios as rational numbers

A ratio of natural numbers stands for a rational (`Ratio.rat`). What is computed with ratios is what
their rationals come to, where no denominator is zero.
-/

namespace SerialLink

namespace Ratio

/-- The number that a ratio is. -/
def rat (a : Ratio) : ℚ :=
  a.num / a.den

variable {a b : Ratio}

theorem den_scaled_pos {base : ℕ} (positive : 0 < base) (n : ℕ) (e : ℤ) :
    0 < (scaled n base e).den :=
  Nat.pow_pos positive

theorem rat_scaled {base : ℕ} (positive : 0 < base) (n : ℕ) (e : ℤ) :
    (scaled n base e).rat = n * (base : ℚ) ^ e := by
  have some : (base : ℚ) ≠ 0 := Nat.cast_ne_zero.2 positive.ne'
  have parts : (base : ℚ) ^ e = (base : ℚ) ^ e.toNat / (base : ℚ) ^ (-e).toNat := by
    rw [← zpow_natCast, ← zpow_natCast, ← zpow_sub₀ some]
    congr 1
    omega
  rw [parts, ← mul_div_assoc]
  simp [rat, scaled]

theorem rat_mul (a b : Ratio) : (a.mul b).rat = a.rat * b.rat := by
  rw [rat, rat, rat, mul, div_mul_div_comm]
  push_cast
  rfl

theorem le_iff (proper : 0 < a.den) (proper' : 0 < b.den) : a.le b = true ↔ a.rat ≤ b.rat := by
  have first : (0 : ℚ) < a.den := Nat.cast_pos.2 proper
  have second : (0 : ℚ) < b.den := Nat.cast_pos.2 proper'
  rw [le, decide_eq_true_eq, rat, rat, div_le_div_iff₀ first second]
  exact_mod_cast Iff.rfl

theorem lt_iff (proper : 0 < a.den) (proper' : 0 < b.den) : a.lt b = true ↔ a.rat < b.rat := by
  have first : (0 : ℚ) < a.den := Nat.cast_pos.2 proper
  have second : (0 : ℚ) < b.den := Nat.cast_pos.2 proper'
  rw [lt, decide_eq_true_eq, rat, rat, div_lt_div_iff₀ first second]
  exact_mod_cast Iff.rfl

theorem floor_eq (a : Ratio) : a.floor = ⌊a.rat⌋₊ := by
  rw [floor, rat, Nat.floor_div_eq_div]

end Ratio

end SerialLink
