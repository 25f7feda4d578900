import SerialLink.Proofs.Single.Rounding

/-!
# Digits that read back

The shortest digits of a finite single lie in its interval (`within_shortest`): a digit grid is only
left when it has a hit, and on the grid of nine digits the neighbour above the single is one, since
its step is less than half a step of the single (`exists_onGrid`). So every decimal of the same
value is read as the single (`magnitudeOfDecimal_of_shortest`).
-/

namespace SerialLink

namespace Decimal

/-- The number that a decimal is. -/
def rat (d : Decimal) : ℚ :=
  d.digits * (10 : ℚ) ^ d.exponent

theorem rat_ratio (d : Decimal) : (Ratio.scaled d.digits 10 d.exponent).rat = d.rat := by
  rw [Ratio.rat_scaled (by decide), rat]
  rfl

theorem length_pos (n : ℕ) : 0 < length n :=
  Nat.length_toDigits_pos

theorem lt_power_length (n : ℕ) : (n : ℚ) < (10 : ℚ) ^ (length n : ℤ) := by
  have fits : n < 10 ^ length n :=
    (Nat.length_toDigits_le_iff (by decide) (length_pos n)).1 le_rfl
  rw [zpow_natCast]
  exact_mod_cast fits

theorem power_length_le {n : ℕ} (some : 0 < n) : (10 : ℚ) ^ ((length n : ℤ) - 1) ≤ n := by
  have positive := length_pos n
  have whole : (length n : ℤ) - 1 = (length n - 1 : ℕ) := by omega
  rw [whole, zpow_natCast]
  rcases Nat.eq_zero_or_pos (length n - 1) with one | more
  · rw [one, pow_zero]
    exact_mod_cast some
  · have large : ¬n < 10 ^ (length n - 1) := by
      rw [← Nat.length_toDigits_le_iff (by decide) more]
      show ¬length n ≤ length n - 1
      omega
    exact_mod_cast not_lt.1 large

/-- Zeros that are left out at the end of the digits are made up for by the exponent. -/
theorem rat_stripped (fuel : ℕ) (d : Decimal) : (stripped fuel d).rat = d.rat := by
  induction fuel generalizing d with
  | zero => rfl
  | succ fuel ih =>
    rw [stripped]
    split
    · next zero =>
      have tens : d.digits = d.digits / 10 * 10 :=
        (Nat.div_mul_cancel (Nat.dvd_of_mod_eq_zero zero.2)).symm
      rw [ih, rat, rat, zpow_add_one₀ (by norm_num)]
      dsimp only
      conv_rhs => rw [tens]
      push_cast
      ring
    · rfl

end Decimal

namespace Single

variable {tie : Tie} {x : Single} {d : Decimal}

/-! ## Grids -/

/-- What is found on a grid lies in the interval. -/
theorem within_onGrid {k : ℤ} (found : onGrid tie x k = some d) : x.Within d.rat := by
  have hit {n : ℕ} (reads : x.readsBack (Ratio.scaled n 10 k) = true) :
      x.Within (Decimal.mk n k).rat := by
    rw [← Decimal.rat_ratio]
    exact (readsBack_iff (Ratio.den_scaled_pos (by decide) _ _)).1 reads
  simp only [onGrid] at found
  split at found
  · next low high =>
    split at found <;> cases found
    · exact hit low
    · exact hit high
  · next low _ =>
    cases found
    exact hit low
  · next high =>
    cases found
    exact hit high
  · cases found

theorem within_shortestFrom {fuel count : ℕ} (found : shortestFrom tie x fuel count = some d) :
    x.Within d.rat := by
  induction fuel generalizing count with
  | zero => cases found
  | succ fuel ih =>
    rw [shortestFrom, Option.or_eq_some_iff] at found
    rcases found with here | ⟨-, later⟩
    · exact within_onGrid here
    · exact ih later

/-- A single lies inside its interval, together with all that is less than half a step above. -/
theorem within_of_le (some : 0 < x.significand) {q : ℚ} (low : x.value.rat ≤ q)
    (high : q < x.value.rat + (2 : ℚ) ^ x.exponent / 2) : x.Within q := by
  have step : (0 : ℚ) < (2 : ℚ) ^ x.exponent := zpow_pos two_pos _
  have room : 0 < x.room := by
    rw [room]
    split <;> norm_num
  rw [rat_value] at low high
  have low' : (x.significand : ℚ) ≤ q / (2 : ℚ) ^ x.exponent := (le_div_iff₀ step).2 low
  have high' : q / (2 : ℚ) ^ x.exponent < x.significand + 1 / 2 := by
    rw [div_lt_iff₀ step]
    linarith
  rw [within_iff some]
  split
  · exact ⟨by linarith, high'.le⟩
  · exact ⟨by linarith, high'⟩

/-- There is a hit on a grid whose step is less than half a step of the single. -/
theorem exists_onGrid (tie : Tie) (some : 0 < x.significand) {k : ℤ}
    (fine : (10 : ℚ) ^ k < (2 : ℚ) ^ x.exponent / 2) : (onGrid tie x k).isSome = true := by
  have step : (0 : ℚ) < (10 : ℚ) ^ k := zpow_pos (by norm_num) _
  obtain ⟨below, floor⟩ : ∃ below, below = (x.value.mul (Ratio.scaled 1 10 (-k))).floor := ⟨_, rfl⟩
  have value : 0 ≤ x.value.rat := by
    rw [rat_value]
    exact mul_nonneg (Nat.cast_nonneg _) (zpow_pos two_pos _).le
  have scaled : (x.value.mul (Ratio.scaled 1 10 (-k))).rat = x.value.rat / (10 : ℚ) ^ k := by
    rw [Ratio.rat_mul, Ratio.rat_scaled (by decide), zpow_neg, div_eq_mul_inv]
    push_cast
    rw [one_mul]
  have bounds : (below : ℚ) ≤ x.value.rat / (10 : ℚ) ^ k ∧
      x.value.rat / (10 : ℚ) ^ k < below + 1 := by
    rw [floor, Ratio.floor_eq, scaled]
    exact ⟨Nat.floor_le (div_nonneg value step.le), Nat.lt_floor_add_one _⟩
  rw [le_div_iff₀ step, div_lt_iff₀ step] at bounds
  have high : x.readsBack (Ratio.scaled (below + 1) 10 k) = true := by
    rw [readsBack_iff (Ratio.den_scaled_pos (by decide) _ _), Ratio.rat_scaled (by decide)]
    push_cast
    exact within_of_le some bounds.2.le (by linarith [bounds.1])
  simp only [onGrid, ← floor, high]
  cases x.readsBack (Ratio.scaled below 10 k) with
  | true =>
    dsimp only
    split <;> rfl
  | false => rfl

/-! ## The first hit -/

/-- A ratio is no less than the power of ten that `leadingExponent` tells. -/
theorem power_leadingExponent_le {a : Ratio} (large : (10 : ℚ) ^ (-60 : ℤ) ≤ a.rat) :
    (10 : ℚ) ^ a.leadingExponent ≤ a.rat := by
  have shift : (0 : ℚ) < (10 : ℚ) ^ (60 : ℤ) := zpow_pos (by norm_num) _
  have whole : a.num * Nat.pow 10 60 / a.den = ⌊a.rat * (10 : ℚ) ^ (60 : ℤ)⌋₊ := by
    rw [← Nat.floor_div_eq_div (K := ℚ), Ratio.rat, div_mul_eq_mul_div]
    norm_num
  have one : 1 ≤ a.rat * (10 : ℚ) ^ (60 : ℤ) := by
    calc (1 : ℚ) = (10 : ℚ) ^ (-60 : ℤ) * (10 : ℚ) ^ (60 : ℤ) := by
          rw [← zpow_add₀ (by norm_num)]
          rfl
      _ ≤ a.rat * (10 : ℚ) ^ (60 : ℤ) := mul_le_mul_of_nonneg_right large shift.le
  have fits := Nat.floor_le (zero_le_one.trans one)
  have low := (Decimal.power_length_le (Nat.floor_pos.2 one)).trans fits
  rw [Ratio.leadingExponent, whole]
  calc (10 : ℚ) ^ ((Decimal.length ⌊a.rat * (10 : ℚ) ^ (60 : ℤ)⌋₊ : ℤ) - 61)
      = (10 : ℚ) ^ ((Decimal.length ⌊a.rat * (10 : ℚ) ^ (60 : ℤ)⌋₊ : ℤ) - 1) /
          (10 : ℚ) ^ (60 : ℤ) := by
        rw [← zpow_sub₀ (by norm_num)]
        congr 1
        omega
    _ ≤ a.rat := (div_le_iff₀ shift).2 low

/-- A single that is not zero is no less than the least step. -/
theorem power_le_value (some : 0 < x.significand) : (2 : ℚ) ^ (-149 : ℤ) ≤ x.value.rat := by
  have one : (1 : ℚ) ≤ x.significand := Nat.one_le_cast.2 some
  have step : (2 : ℚ) ^ (-149 : ℤ) ≤ (2 : ℚ) ^ x.exponent :=
    zpow_le_zpow_right₀ one_le_two x.exponent_ge
  rw [rat_value]
  exact step.trans (le_mul_of_one_le_left (zpow_pos two_pos _).le one)

/-- Nine digits are enough: the step of their grid is less than half a step of the single. -/
theorem exists_ninth (tie : Tie) (some : 0 < x.significand) :
    (onGrid tie x (x.value.leadingExponent - 9 + 1)).isSome = true := by
  have least : (10 : ℚ) ^ (-60 : ℤ) ≤ (2 : ℚ) ^ (-149 : ℤ) := by norm_num
  have leading := power_leadingExponent_le (least.trans (power_le_value some))
  have most := x.significand_add_one_le
  have step : (0 : ℚ) < (2 : ℚ) ^ x.exponent := zpow_pos two_pos _
  refine exists_onGrid tie some ?_
  rw [rat_value] at leading
  calc (10 : ℚ) ^ (x.value.leadingExponent - 9 + 1)
      = (10 : ℚ) ^ x.value.leadingExponent / 10 ^ 8 := by
        rw [sub_add, zpow_sub₀ (by norm_num)]
        rfl
    _ ≤ x.significand * (2 : ℚ) ^ x.exponent / 10 ^ 8 := by gcongr
    _ < (2 : ℚ) ^ x.exponent / 2 := by
        rw [div_lt_iff₀ (by norm_num), div_mul_eq_mul_div, lt_div_iff₀ two_pos]
        nlinarith

theorem isSome_shortestFrom {fuel count n : ℕ} (start : count ≤ n) (upto : n < count + fuel)
    (hit : (onGrid tie x (x.value.leadingExponent - n + 1)).isSome = true) :
    (shortestFrom tie x fuel count).isSome = true := by
  induction fuel generalizing count with
  | zero => omega
  | succ fuel ih =>
    rw [shortestFrom, Option.isSome_or, Bool.or_eq_true]
    rcases Nat.eq_or_lt_of_le start with rfl | later
    · exact .inl hit
    · exact .inr (ih later (by omega))

/-- The shortest digits of a single that is not zero lie in its interval. -/
theorem within_shortest (tie : Tie) (some : 0 < x.significand) : x.Within (x.shortest tie).rat := by
  obtain ⟨d, found⟩ := Option.isSome_iff_exists.1
    (@isSome_shortestFrom tie x 9 1 9 (by decide) (by decide) (exists_ninth tie some))
  rw [shortest, if_neg some.ne', found, Option.getD_some, Decimal.rat_stripped]
  exact within_shortestFrom found

/-! ## Reading them -/

/-- The interval of a single other than zero lies between the powers of two that none leaves. -/
theorem bounds_of_within (finite : x.isFinite = true) (some : 0 < x.significand) {q : ℚ}
    (within : x.Within q) : (2 : ℚ) ^ (-150 : ℤ) ≤ q ∧ q ≤ (2 : ℚ) ^ (128 : ℤ) := by
  have step : (0 : ℚ) < (2 : ℚ) ^ x.exponent := zpow_pos two_pos _
  have one : (1 : ℚ) ≤ x.significand := Nat.one_le_cast.2 some
  have most := x.significand_add_one_le
  have room := x.room_le
  have top : x.exponent ≤ 104 := by
    have small : x.magnitude < infinityMagnitude := by simpa [isFinite] using finite
    rw [exponent]
    split
    · decide
    · have : x.magnitude / leadingBit < 255 := Nat.div_lt_of_lt_mul small
      rw [Int.ofNat_eq_natCast]
      omega
  obtain ⟨low, high⟩ := within.bounds some
  rw [le_div_iff₀ step] at low
  rw [div_le_iff₀ step] at high
  constructor
  · calc (2 : ℚ) ^ (-150 : ℤ) = 1 / 2 * (2 : ℚ) ^ (-149 : ℤ) := by norm_num
      _ ≤ (x.significand - x.room) * (2 : ℚ) ^ x.exponent :=
        mul_le_mul (by linarith) (zpow_le_zpow_right₀ one_le_two x.exponent_ge)
          (zpow_pos two_pos _).le (by linarith)
      _ ≤ q := low
  · calc q ≤ (x.significand + 1 / 2) * (2 : ℚ) ^ x.exponent := high
      _ ≤ 2 ^ 24 * (2 : ℚ) ^ (104 : ℤ) :=
        mul_le_mul (by linarith) (zpow_le_zpow_right₀ one_le_two top) step.le (by norm_num)
      _ = (2 : ℚ) ^ (128 : ℤ) := by norm_num

/-- No zero lies in the interval of a single that is none. -/
theorem digits_ne_zero (some : 0 < x.significand) (within : x.Within d.rat) : d.digits ≠ 0 := by
  intro none
  have one : (1 : ℚ) ≤ x.significand := Nat.one_le_cast.2 some
  have low := (within.bounds some).1
  rw [Decimal.rat, none, Nat.cast_zero, zero_mul, zero_div] at low
  linarith [x.room_le]

/-- A decimal in the interval of a single that is not zero is read as it. -/
theorem magnitudeOfDecimal_of_within (finite : x.isFinite = true) (some : 0 < x.significand)
    (within : x.Within d.rat) : magnitudeOfDecimal d = x.magnitude := by
  have ten : (1 : ℚ) < 10 := by norm_num
  obtain ⟨low, high⟩ := bounds_of_within finite some within
  have given := digits_ne_zero some within
  have place : (0 : ℚ) < (10 : ℚ) ^ d.exponent := zpow_pos (by norm_num) _
  -- The leading digit stands within the places that are looked at.
  have least : ¬d.exponent + Decimal.length d.digits < -50 := by
    intro tiny
    have below : d.rat < (10 : ℚ) ^ (d.exponent + Decimal.length d.digits) := by
      rw [zpow_add₀ (by norm_num), mul_comm]
      exact mul_lt_mul_of_pos_right (Decimal.lt_power_length d.digits) place
    have bottom : (10 : ℚ) ^ (-50 : ℤ) < (2 : ℚ) ^ (-150 : ℤ) := by norm_num
    exact absurd (low.trans_lt (below.trans (zpow_lt_zpow_right₀ ten tiny))) bottom.not_gt
  have most : ¬50 < d.exponent + Decimal.length d.digits := by
    intro huge
    have above : (10 : ℚ) ^ (d.exponent + Decimal.length d.digits - 1) ≤ d.rat := by
      rw [add_sub_assoc, zpow_add₀ (by norm_num), mul_comm]
      exact mul_le_mul_of_nonneg_right (Decimal.power_length_le (Nat.pos_of_ne_zero given)) place.le
    have top : (2 : ℚ) ^ (128 : ℤ) < (10 : ℚ) ^ (50 : ℤ) := by norm_num
    have reached : (10 : ℚ) ^ (50 : ℤ) ≤ (10 : ℚ) ^ (d.exponent + Decimal.length d.digits - 1) :=
      zpow_le_zpow_right₀ ten.le (by omega)
    exact absurd (reached.trans (above.trans high)) top.not_ge
  rw [magnitudeOfDecimal, if_neg given, if_neg least, if_neg most]
  refine magnitudeOf_eq finite some (Ratio.den_scaled_pos (by decide) _ _) ?_
  rw [Decimal.rat_ratio]
  exact within

/-- A decimal that has the value of the shortest digits of a finite single is read as it. -/
theorem magnitudeOfDecimal_of_shortest (finite : x.isFinite = true)
    (same : d.rat = (x.shortest tie).rat) : magnitudeOfDecimal d = x.magnitude := by
  rcases Nat.eq_zero_or_pos x.significand with zero | some
  · have none : d.digits = 0 := by
      rw [shortest, if_pos zero, Decimal.rat, Decimal.rat, Nat.cast_zero, zero_mul] at same
      rcases mul_eq_zero.1 same with none | place
      · exact Nat.cast_eq_zero.1 none
      · exact absurd place (zpow_pos (by norm_num) _).ne'
    have least : x.exponent = -149 := by
      by_contra larger
      have := leadingBit_le larger
      rw [zero] at this
      exact absurd this (by decide)
    rw [magnitudeOfDecimal, if_pos none, ← x.magnitude_eq, zero, least]
    rfl
  · exact magnitudeOfDecimal_of_within finite some (same ▸ within_shortest tie some)

end Single

end SerialLink
