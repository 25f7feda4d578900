import Mathlib.Data.EReal.Operations
import SerialLink.Proofs.Single.Ratios

/-!
# The order of singles is that of their numbers

A single that is no NaN stands for an extended real, `Single.number`. Its magnitude bits, taken as a
natural number, grow with the size of that real (`strictMono_units`), from zero over the subnormal
and the normal numbers to infinity; so keys compare as the numbers do (`le_iff`), and the two zeros
are equal.
-/

namespace SerialLink.Single

/-- The extended real that a single stands for; it means nothing for a NaN. -/
noncomputable def number (x : Single) : EReal :=
  let size : EReal := if x.isFinite then ((x.value.num / x.value.den : ℝ) : EReal) else ⊤
  if x.isNegative then -size else size

/-! ## Sizes -/

/-- A finite size in steps of the least positive single, by its magnitude bits. -/
def units (magnitude : ℕ) : ℕ :=
  if magnitude / leadingBit = 0 then magnitude % leadingBit
  else (magnitude % leadingBit + leadingBit) * 2 ^ (magnitude / leadingBit - 1)

theorem strictMono_units : StrictMono units := by
  refine strictMono_nat_of_lt_succ fun m => ?_
  unfold units leadingBit
  rcases Nat.lt_or_ge (m % 0x800000 + 1) 0x800000 with within | carry
  · -- The next single has the same exponent.
    have field : (m + 1) / 0x800000 = m / 0x800000 := by omega
    have fraction : (m + 1) % 0x800000 = m % 0x800000 + 1 := by omega
    rw [field, fraction]
    split
    · exact Nat.lt_succ_self _
    · exact Nat.mul_lt_mul_of_pos_right (by omega) (Nat.two_pow_pos _)
  · -- The fraction is used up, and the exponent goes up by one.
    have field : (m + 1) / 0x800000 = m / 0x800000 + 1 := by omega
    have fraction : (m + 1) % 0x800000 = 0 := by omega
    rw [field, fraction, if_neg (Nat.add_one_ne_zero _), Nat.zero_add, Nat.add_sub_cancel]
    split
    · next first =>
      rw [first, Nat.pow_zero]
      omega
    · next later =>
      obtain ⟨steps, more⟩ := Nat.exists_eq_succ_of_ne_zero later
      rw [more, Nat.succ_sub_one, Nat.pow_succ', ← Nat.mul_assoc]
      exact Nat.mul_lt_mul_of_pos_right (by omega) (Nat.two_pow_pos _)

/-- A scaled ratio is the number that it is written for. -/
theorem div_scaled (n : ℕ) (e : ℤ) :
    ((Ratio.scaled n 2 e).num / (Ratio.scaled n 2 e).den : ℝ) = n * (2 : ℝ) ^ e := by
  have same := congrArg (Rat.cast : ℚ → ℝ) (Ratio.rat_scaled two_pos n e)
  rw [Ratio.rat] at same
  push_cast at same
  exact same

/-- The value of a finite single is its size in steps of `2 ^ (-149)`. -/
theorem div_value (x : Single) :
    (x.value.num / x.value.den : ℝ) = units x.magnitude * (2 : ℝ) ^ (-149 : ℤ) := by
  rw [value, div_scaled]
  simp only [significand, exponent, units]
  split
  · rfl
  · next later =>
    obtain ⟨steps, more⟩ := Nat.exists_eq_succ_of_ne_zero later
    have place : Int.ofNat (steps + 1) - 150 = (steps : ℤ) + (-149) := by
      rw [Int.ofNat_eq_natCast]
      omega
    rw [more, Nat.succ_eq_add_one, place, Nat.add_sub_cancel, zpow_add₀ two_ne_zero, zpow_natCast]
    push_cast
    rw [mul_assoc]

/-- The size of a number by its magnitude bits. -/
noncomputable def size (magnitude : ℕ) : EReal :=
  if magnitude < infinityMagnitude then ((units magnitude * (2 : ℝ) ^ (-149 : ℤ) : ℝ) : EReal) else ⊤

theorem size_zero : size 0 = 0 := by
  have least : units 0 = 0 := rfl
  simp [size, infinityMagnitude, least]

theorem size_lt {m n : ℕ} (less : m < n) (small : n ≤ infinityMagnitude) : size m < size n := by
  rw [size, if_pos (less.trans_le small), size]
  split
  · have step : (0 : ℝ) < (2 : ℝ) ^ (-149 : ℤ) := by positivity
    have grows : (units m : ℝ) < units n := by exact_mod_cast strictMono_units less
    exact EReal.coe_lt_coe_iff.2 (mul_lt_mul_of_pos_right grows step)
  · exact EReal.coe_lt_top _

theorem size_nonneg {m : ℕ} (small : m ≤ infinityMagnitude) : 0 ≤ size m := by
  rcases Nat.eq_zero_or_pos m with rfl | some
  · exact size_zero.ge
  · exact size_zero ▸ (size_lt some small).le

/-! ## Keys -/

/-- The number at a place in the order of values. -/
noncomputable def numberAt (key : ℤ) : EReal :=
  if key < 0 then -size key.natAbs else size key.natAbs

theorem number_eq (x : Single) : x.number = numberAt x.key := by
  have sized : (if x.isFinite then ((x.value.num / x.value.den : ℝ) : EReal) else ⊤) =
      size x.magnitude := by
    simp only [size, isFinite, div_value, decide_eq_true_eq]
  rw [number, sized, key, numberAt]
  split
  · by_cases zero : x.magnitude = 0
    · simp [zero, size_zero]
    · rw [if_pos (by omega), Int.natAbs_neg, Int.natAbs_natCast]
  · rw [if_neg (by omega), Int.natAbs_natCast]

/-- The number grows with the key from that of minus infinity to that of infinity. -/
theorem numberAt_lt {k l : ℤ} (bottom : -infinityMagnitude ≤ k) (less : k < l)
    (top : l ≤ infinityMagnitude) : numberAt k < numberAt l := by
  unfold numberAt
  rcases Int.lt_or_le k 0 with negative | natural
  · rw [if_pos negative]
    split
    · exact EReal.neg_lt_neg_iff.2 (size_lt (by omega) (by omega))
    · have below : 0 < size k.natAbs := size_zero ▸ size_lt (by omega) (by omega)
      have above : 0 ≤ size l.natAbs := size_nonneg (by omega)
      exact (EReal.neg_lt_zero.2 below).trans_le above
  · rw [if_neg (by omega), if_neg (by omega)]
    exact size_lt (by omega) (by omega)

/-- The key of a number lies between those of the infinities. -/
theorem key_bounds {x : Single} (proper : x.isNaN = false) :
    -infinityMagnitude ≤ x.key ∧ x.key ≤ infinityMagnitude := by
  have bound : x.magnitude ≤ infinityMagnitude := by simpa [isNaN] using proper
  rw [key]
  split <;> omega

/-- Singles compare as the numbers that they stand for, and a NaN with nothing. -/
theorem le_iff {x y : Single} :
    x.le y = true ↔ x.isNaN = false ∧ y.isNaN = false ∧ x.number ≤ y.number := by
  simp only [le, Bool.and_eq_true, Bool.not_eq_true', decide_eq_true_eq, and_assoc]
  refine and_congr_right fun proper => and_congr_right fun proper' => ?_
  obtain ⟨bottom, top⟩ := key_bounds proper
  obtain ⟨bottom', top'⟩ := key_bounds proper'
  rw [number_eq, number_eq]
  constructor
  · intro before
    rcases Int.lt_or_eq_of_le before with less | same
    · exact (numberAt_lt bottom less top').le
    · rw [same]
  · intro before
    by_contra behind
    exact (numberAt_lt bottom' (Int.not_le.1 behind) top).not_ge before

end SerialLink.Single
