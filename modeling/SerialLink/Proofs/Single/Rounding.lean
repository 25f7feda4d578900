import Mathlib.Tactic.FieldSimp
import SerialLink.Proofs.Single.Ratios
import SerialLink.Single.Reader

/-!
# Rounding to singles

The reals that round to a single form an interval around it (`Single.Within`), and reading gives the
single for every ratio in its interval (`magnitudeOf_eq`). The place of the last bit is told by the
powers of two that a ratio lies between (`lastPlace_eq`); at that place the nearest whole number is
the significand, or twice as much where the ratio lies below a power of two.
-/

namespace SerialLink

namespace Single

variable {x : Single} {a : Ratio}

/-! ## Parts of a single -/

theorem significand_lt (x : Single) : x.significand < 2 * leadingBit := by
  have less : x.magnitude % leadingBit < leadingBit := Nat.mod_lt _ (by decide)
  rw [significand]
  split <;> omega

theorem significand_add_one_le (x : Single) : (x.significand : ℚ) + 1 ≤ 2 ^ 24 := by
  have := x.significand_lt
  exact_mod_cast this

theorem exponent_ge (x : Single) : -149 ≤ x.exponent := by
  rw [exponent]
  split
  · exact le_rfl
  · next later =>
    have positive : 0 < x.magnitude / leadingBit := Nat.pos_of_ne_zero later
    rw [Int.ofNat_eq_natCast]
    omega

/-- Only singles of the least exponent have a shorter significand. -/
theorem leadingBit_le (larger : x.exponent ≠ -149) : leadingBit ≤ x.significand := by
  rw [exponent] at larger
  rw [significand]
  split
  · next least => exact absurd (if_pos least) larger
  · exact Nat.le_add_left _ _

/-- The magnitude bits are the significand, in steps of its last place. -/
theorem magnitude_eq (x : Single) :
    (x.exponent + 149).toNat * leadingBit + x.significand = x.magnitude := by
  have parts := Nat.div_add_mod x.magnitude leadingBit
  rw [exponent, significand]
  split
  · next least =>
    rw [least, Nat.mul_zero, Nat.zero_add] at parts
    rw [parts]
    exact Nat.zero_add _
  · next later =>
    obtain ⟨steps, more⟩ := Nat.exists_eq_succ_of_ne_zero later
    have place : (Int.ofNat (steps + 1) - 150 + 149).toNat = steps := by
      rw [Int.ofNat_eq_natCast]
      omega
    rw [more, Nat.succ_eq_add_one] at parts ⊢
    rw [place, ← Nat.add_assoc, Nat.add_right_comm, ← Nat.succ_mul, Nat.mul_comm]
    exact parts

/-! ## The interval of a single -/

/-- The interval of the reals that round to a single; its ends belong to it if its significand is
even. -/
def Within (x : Single) (q : ℚ) : Prop :=
  if x.significand % 2 = 0 then x.lowerEnd.rat ≤ q ∧ q ≤ x.upperEnd.rat
  else x.lowerEnd.rat < q ∧ q < x.upperEnd.rat

theorem rat_value (x : Single) : x.value.rat = x.significand * (2 : ℚ) ^ x.exponent :=
  Ratio.rat_scaled two_pos _ _

theorem den_lowerEnd_pos (x : Single) : 0 < x.lowerEnd.den := by
  rw [lowerEnd]
  split <;> exact Ratio.den_scaled_pos two_pos _ _

theorem den_upperEnd_pos (x : Single) : 0 < x.upperEnd.den :=
  Ratio.den_scaled_pos two_pos _ _

theorem readsBack_iff (proper : 0 < a.den) : x.readsBack a = true ↔ x.Within a.rat := by
  rw [readsBack, Within]
  split
  · rw [Bool.and_eq_true, Ratio.le_iff x.den_lowerEnd_pos proper,
      Ratio.le_iff proper x.den_upperEnd_pos]
  · rw [Bool.and_eq_true, Ratio.lt_iff x.den_lowerEnd_pos proper,
      Ratio.lt_iff proper x.den_upperEnd_pos]

theorem rat_upperEnd (x : Single) :
    x.upperEnd.rat = (x.significand + 1 / 2) * (2 : ℚ) ^ x.exponent := by
  rw [upperEnd, Ratio.rat_scaled two_pos]
  push_cast
  rw [zpow_sub_one₀ two_ne_zero]
  ring

/-- How far below a single its interval begins, in steps of its last place: half a step, or a quarter
at a power of two. -/
def room (x : Single) : ℚ :=
  if x.significand = leadingBit ∧ x.exponent ≠ -149 then 1 / 4 else 1 / 2

theorem room_le (x : Single) : x.room ≤ 1 / 2 := by
  rw [room]
  split <;> norm_num

theorem rat_lowerEnd (some : 0 < x.significand) :
    x.lowerEnd.rat = (x.significand - x.room) * (2 : ℚ) ^ x.exponent := by
  rw [lowerEnd, room]
  split
  · rw [Ratio.rat_scaled two_pos, Nat.cast_sub (by omega)]
    push_cast
    rw [zpow_sub₀ two_ne_zero]
    ring
  · rw [Ratio.rat_scaled two_pos, Nat.cast_sub (by omega)]
    push_cast
    rw [zpow_sub_one₀ two_ne_zero]
    ring

/-! ## Rounding -/

/-- A ratio rounds to the whole number that it is no further from than a half, if that is even where
it is a half. -/
theorem nearestQuotient_eq (proper : 0 < a.den) {n : ℕ} (low : (n : ℚ) - 1 / 2 ≤ a.rat)
    (high : a.rat ≤ n + 1 / 2) (strict : n % 2 = 1 → (n : ℚ) - 1 / 2 < a.rat ∧ a.rat < n + 1 / 2) :
    nearestQuotient a.num a.den = n := by
  have positive : (0 : ℚ) < a.den := Nat.cast_pos.2 proper
  have whole : (a.num : ℚ) = a.rat * a.den := (div_mul_cancel₀ _ positive.ne').symm
  -- Both bounds as natural numbers, over twice the denominator.
  have low' : a.den * (2 * n) ≤ 2 * a.num + a.den := by
    have bound := mul_le_mul_of_nonneg_right low positive.le
    have : (a.den : ℚ) * (2 * n) ≤ 2 * a.num + a.den := by linarith
    exact_mod_cast this
  have high' : 2 * a.num ≤ a.den * (2 * n) + a.den := by
    have bound := mul_le_mul_of_nonneg_right high positive.le
    have : (2 : ℚ) * a.num ≤ a.den * (2 * n) + a.den := by linarith
    exact_mod_cast this
  have strict' (odd : n % 2 = 1) :
      a.den * (2 * n) < 2 * a.num + a.den ∧ 2 * a.num < a.den * (2 * n) + a.den := by
    have bound := mul_lt_mul_of_pos_right (strict odd).1 positive
    have bound' := mul_lt_mul_of_pos_right (strict odd).2 positive
    have : (a.den : ℚ) * (2 * n) < 2 * a.num + a.den := by linarith
    have : (2 : ℚ) * a.num < a.den * (2 * n) + a.den := by linarith
    constructor <;> assumption_mod_cast
  have parts := Nat.div_add_mod a.num a.den
  have less := Nat.mod_lt a.num proper
  rw [nearestQuotient]
  generalize a.num / a.den = q at *
  generalize a.num % a.den = r at *
  have near : n = q ∨ n = q + 1 := by
    have below : a.den * (2 * n) < a.den * (2 * q + 3) := by
      rw [Nat.mul_add a.den (2 * q), Nat.mul_left_comm a.den 2 q]
      omega
    have above : a.den * (2 * q) < a.den * (2 * n + 2) := by
      rw [Nat.mul_add a.den (2 * n), Nat.mul_left_comm a.den 2 q]
      omega
    have := Nat.lt_of_mul_lt_mul_left below
    have := Nat.lt_of_mul_lt_mul_left above
    omega
  rw [Nat.mul_left_comm] at low' high'
  simp only [Nat.mul_left_comm a.den 2 n] at strict'
  rcases near with rfl | rfl
  · split
    · rfl
    · split
      · omega
      · split
        · rfl
        · have := strict' (by omega)
          omega
  · rw [Nat.mul_add a.den q, Nat.mul_one] at low' high' strict'
    split
    · omega
    · split
      · rfl
      · split
        · have := strict' (by omega)
          omega
        · rfl

/-- A ratio lies between the powers of two that the lengths of its parts tell. -/
theorem rat_between (proper : 0 < a.den) (some : 0 < a.num) :
    (2 : ℚ) ^ ((Nat.log2 a.num : ℤ) - Nat.log2 a.den - 1) < a.rat ∧
      a.rat < (2 : ℚ) ^ ((Nat.log2 a.num : ℤ) - Nat.log2 a.den + 1) := by
  have positive : (0 : ℚ) < a.den := Nat.cast_pos.2 proper
  have numLow : (2 : ℚ) ^ (Nat.log2 a.num : ℤ) ≤ a.num := by
    rw [zpow_natCast]
    exact_mod_cast Nat.log2_self_le some.ne'
  have numHigh : (a.num : ℚ) < (2 : ℚ) ^ ((Nat.log2 a.num : ℤ) + 1) := by
    rw [← Nat.cast_succ, zpow_natCast]
    exact_mod_cast Nat.lt_log2_self
  have denLow : (2 : ℚ) ^ (Nat.log2 a.den : ℤ) ≤ a.den := by
    rw [zpow_natCast]
    exact_mod_cast Nat.log2_self_le proper.ne'
  have denHigh : (a.den : ℚ) < (2 : ℚ) ^ ((Nat.log2 a.den : ℤ) + 1) := by
    rw [← Nat.cast_succ, zpow_natCast]
    exact_mod_cast Nat.lt_log2_self
  constructor
  · rw [Ratio.rat, lt_div_iff₀ positive]
    calc (2 : ℚ) ^ ((Nat.log2 a.num : ℤ) - Nat.log2 a.den - 1) * a.den
        < (2 : ℚ) ^ ((Nat.log2 a.num : ℤ) - Nat.log2 a.den - 1) *
            (2 : ℚ) ^ ((Nat.log2 a.den : ℤ) + 1) :=
          mul_lt_mul_of_pos_left denHigh (zpow_pos two_pos _)
      _ = (2 : ℚ) ^ (Nat.log2 a.num : ℤ) := by
          rw [← zpow_add₀ two_ne_zero]
          congr 1
          omega
      _ ≤ a.num := numLow
  · rw [Ratio.rat, div_lt_iff₀ positive]
    calc (a.num : ℚ) < (2 : ℚ) ^ ((Nat.log2 a.num : ℤ) + 1) := numHigh
      _ = (2 : ℚ) ^ ((Nat.log2 a.num : ℤ) - Nat.log2 a.den + 1) *
            (2 : ℚ) ^ (Nat.log2 a.den : ℤ) := by
          rw [← zpow_add₀ two_ne_zero]
          congr 1
          omega
      _ ≤ (2 : ℚ) ^ ((Nat.log2 a.num : ℤ) - Nat.log2 a.den + 1) * a.den :=
          mul_le_mul_of_nonneg_left denLow (zpow_pos two_pos _).le

theorem rat_mul_place (a : Ratio) (place : ℤ) :
    (a.mul (.scaled 1 2 (-place))).rat = a.rat / (2 : ℚ) ^ place := by
  rw [Ratio.rat_mul, Ratio.rat_scaled two_pos, zpow_neg, div_eq_mul_inv]
  push_cast
  rw [one_mul]

/-- The place of the last bit is told by the powers of two that a ratio lies between; it is never
below the least one. -/
theorem lastPlace_eq (proper : 0 < a.den) (some : 0 < a.num) {place : ℤ} (least : -149 ≤ place)
    (below : a.rat < (2 : ℚ) ^ (place + 24))
    (above : place = -149 ∨ (2 : ℚ) ^ (place + 23) ≤ a.rat) :
    lastPlace a = place := by
  have order {i j : ℤ} : (2 : ℚ) ^ i < (2 : ℚ) ^ j ↔ i < j := zpow_lt_zpow_iff_right₀ one_lt_two
  obtain ⟨low, high⟩ := rat_between proper some
  have small (rough : ℤ) : (a.mul (.scaled 1 2 (-rough))).floor < 2 * leadingBit ↔
      a.rat < (2 : ℚ) ^ (rough + 24) := by
    have nonneg : (0 : ℚ) ≤ a.rat / (2 : ℚ) ^ rough :=
      div_nonneg ((zpow_pos two_pos _).trans low).le (zpow_pos two_pos _).le
    have limit : ((2 * leadingBit : ℕ) : ℚ) = (2 : ℚ) ^ (24 : ℤ) := by
      norm_num [leadingBit]
    rw [Ratio.floor_eq, rat_mul_place, Nat.floor_lt nonneg, limit, div_lt_iff₀ (zpow_pos two_pos _),
      ← zpow_add₀ two_ne_zero, add_comm]
  have decided {fine : ℤ} (bottom : (2 : ℚ) ^ (fine + 23) ≤ a.rat)
      (top : a.rat < (2 : ℚ) ^ (fine + 24)) :
      (if fine < -149 then -149 else fine) = place := by
    have atMost := order.1 (bottom.trans_lt below)
    rcases above with rfl | above
    · split <;> omega
    · have atLeast := order.1 (above.trans_lt top)
      rw [if_neg (by omega)]
      omega
  rw [lastPlace]
  split
  · next fits =>
    refine decided ?_ ((small _).1 fits)
    exact low.le.trans' (le_of_eq (by congr 1; omega))
  · next long =>
    refine decided ?_ ?_
    · exact (not_lt.1 (mt (small _).2 long)).trans' (le_of_eq (by congr 1; omega))
    · exact high.trans_le (le_of_eq (by congr 1; omega))

/-- A ratio is read as the whole number nearest to it in steps of its last place. -/
theorem magnitudeOf_of_near (proper : 0 < a.den) (some : 0 < a.num) {place : ℤ} {n : ℕ}
    (least : -149 ≤ place) (below : a.rat < (2 : ℚ) ^ (place + 24))
    (above : place = -149 ∨ (2 : ℚ) ^ (place + 23) ≤ a.rat)
    (low : (n : ℚ) - 1 / 2 ≤ a.rat / (2 : ℚ) ^ place) (high : a.rat / (2 : ℚ) ^ place ≤ n + 1 / 2)
    (strict : n % 2 = 1 →
      (n : ℚ) - 1 / 2 < a.rat / (2 : ℚ) ^ place ∧ a.rat / (2 : ℚ) ^ place < n + 1 / 2)
    (finite : (place + 149).toNat * leadingBit + n < infinityMagnitude) :
    magnitudeOf a = (place + 149).toNat * leadingBit + n := by
  have proper' : 0 < (a.mul (.scaled 1 2 (-place))).den :=
    Nat.mul_pos proper (Ratio.den_scaled_pos two_pos _ _)
  rw [← rat_mul_place] at low high strict
  rw [magnitudeOf, lastPlace_eq proper some least below above,
    nearestQuotient_eq proper' low high strict, if_pos finite]

/-- The interval in steps of the last place. -/
theorem within_iff (some : 0 < x.significand) {q : ℚ} :
    x.Within q ↔ if x.significand % 2 = 0 then
      x.significand - x.room ≤ q / (2 : ℚ) ^ x.exponent ∧
        q / (2 : ℚ) ^ x.exponent ≤ x.significand + 1 / 2
    else x.significand - x.room < q / (2 : ℚ) ^ x.exponent ∧
      q / (2 : ℚ) ^ x.exponent < x.significand + 1 / 2 := by
  have step : (0 : ℚ) < (2 : ℚ) ^ x.exponent := zpow_pos two_pos _
  rw [Within, rat_lowerEnd some, rat_upperEnd, le_div_iff₀ step, div_le_iff₀ step, lt_div_iff₀ step,
    div_lt_iff₀ step]

theorem Within.bounds (some : 0 < x.significand) {q : ℚ} (within : x.Within q) :
    x.significand - x.room ≤ q / (2 : ℚ) ^ x.exponent ∧
      q / (2 : ℚ) ^ x.exponent ≤ x.significand + 1 / 2 := by
  rw [within_iff some] at within
  split at within
  · exact within
  · exact ⟨within.1.le, within.2.le⟩

theorem lt_power_iff {q : ℚ} {e k : ℤ} : q < (2 : ℚ) ^ (e + k) ↔ q / (2 : ℚ) ^ e < (2 : ℚ) ^ k := by
  rw [div_lt_iff₀ (zpow_pos two_pos _), ← zpow_add₀ two_ne_zero, add_comm]

theorem power_le_iff {q : ℚ} {e k : ℤ} : (2 : ℚ) ^ (e + k) ≤ q ↔ (2 : ℚ) ^ k ≤ q / (2 : ℚ) ^ e := by
  rw [le_div_iff₀ (zpow_pos two_pos _), ← zpow_add₀ two_ne_zero, add_comm]

/-- All ratios in the interval of a finite single are read as it. -/
theorem magnitudeOf_eq (finite : x.isFinite = true) (some : 0 < x.significand) (proper : 0 < a.den)
    (within : x.Within a.rat) : magnitudeOf a = x.magnitude := by
  have room := x.room_le
  have one : (1 : ℚ) ≤ x.significand := Nat.one_le_cast.2 some
  have most := x.significand_add_one_le
  have small : x.magnitude < infinityMagnitude := by simpa [isFinite] using finite
  have least := x.exponent_ge
  obtain ⟨low, high⟩ := within.bounds some
  rw [within_iff some] at within
  have some' : 0 < a.num := by
    refine Nat.pos_of_ne_zero fun none => ?_
    rw [Ratio.rat, none, Nat.cast_zero, zero_div, zero_div] at low
    linarith
  by_cases here : x.exponent = -149 ∨ (2 : ℚ) ^ (x.exponent + 23) ≤ a.rat
  · -- The ratio has the place of the single.
    have below : a.rat < (2 : ℚ) ^ (x.exponent + 24) := by
      rw [lt_power_iff, zpow_ofNat]
      linarith
    rw [← x.magnitude_eq] at small ⊢
    refine magnitudeOf_of_near proper some' least below here (by linarith) high (fun odd => ?_) small
    rw [if_neg (by omega)] at within
    exact ⟨by linarith [within.1], within.2⟩
  · -- The ratio lies below a power of two, which is the single, and its places are half as long.
    obtain ⟨larger, short⟩ := not_or.1 here
    rw [not_le, lt_power_iff, zpow_ofNat] at short
    have leading : x.significand = leadingBit := by
      refine Nat.le_antisymm (Nat.le_of_lt_succ ?_) (leadingBit_le larger)
      by_contra longer
      have : (2 : ℚ) ^ 23 + 1 ≤ x.significand := by exact_mod_cast not_lt.1 longer
      linarith
    have quarter : x.room = 1 / 4 := if_pos ⟨leading, larger⟩
    have whole : (leadingBit : ℚ) = 2 ^ 23 := by norm_num [leadingBit]
    rw [leading, quarter, whole] at low
    have twice : a.rat / (2 : ℚ) ^ (x.exponent - 1) = 2 * (a.rat / (2 : ℚ) ^ x.exponent) := by
      rw [zpow_sub_one₀ two_ne_zero]
      field_simp
    have bits : (x.exponent - 1 + 149).toNat * leadingBit + 2 * leadingBit = x.magnitude := by
      have later : (x.exponent + 149).toNat = (x.exponent - 1 + 149).toNat + 1 := by omega
      rw [← x.magnitude_eq, leading, later]
      ring
    have below : a.rat < (2 : ℚ) ^ (x.exponent - 1 + 24) := by
      rw [lt_power_iff, twice, zpow_ofNat]
      linarith
    have above : (2 : ℚ) ^ (x.exponent - 1 + 23) ≤ a.rat := by
      rw [power_le_iff, twice, zpow_ofNat]
      linarith
    rw [← bits] at small ⊢
    refine magnitudeOf_of_near proper some' (by omega) below (.inr above) ?_ ?_ (fun odd => ?_) small
    · rw [twice]
      push_cast
      rw [whole]
      linarith
    · rw [twice]
      push_cast
      rw [whole]
      linarith
    · exact absurd odd (by decide)

end Single

end SerialLink
