import SerialLink.Document.Number

/-!
# Numbers read back

The digits of a number stand at the start of a text as that number, where no character behind them
goes on with it, and a number below `UInt64.size` never overflows (`number?_digitsOf`).
-/

namespace SerialLink

namespace Text

/-- A run of digits ends where a text goes on with something else. -/
theorem run_of_digits {digits rest : List Char} (all : ∀ c ∈ digits, c.isDigit = true)
    (stops : ∀ c ∈ rest.head?, c.isDigit = false) :
    (digits ++ rest).takeWhile Char.isDigit = digits ∧ (digits ++ rest).dropWhile Char.isDigit = rest := by
  have none : rest.takeWhile Char.isDigit = [] ∧ rest.dropWhile Char.isDigit = rest := by
    cases rest with
    | nil => exact ⟨rfl, rfl⟩
    | cons c rest =>
      have stop := stops c rfl
      simp [stop]
  rw [List.takeWhile_append_of_pos all, List.dropWhile_append_of_pos all, none.1, none.2, List.append_nil]
  exact ⟨rfl, rfl⟩

theorem digitsValue_eq (digits : List Char) : digitsValue digits = Nat.ofDigitChars 10 digits 0 := by
  rw [digitsValue, Nat.ofDigitChars_eq_foldl]
  simp only [Nat.mul_comm]

theorem digitsValue_digitsOf (n : Nat) : digitsValue (digitsOf n) = n := by
  rw [digitsValue_eq, digitsOf, Nat.ofDigitChars_ten_toDigits]

theorem isDigit_of_mem_digitsOf {n : Nat} {c : Char} (digit : c ∈ digitsOf n) : c.isDigit = true :=
  Nat.isDigit_of_mem_toDigits (by decide) (by decide) digit

theorem digitsOf_ne_nil (n : Nat) : digitsOf n ≠ [] :=
  Nat.toDigits_ne_nil

/-- Only zero is written with a zero in front. -/
theorem eq_zero_of_head? {n : Nat} (zero : (digitsOf n).head? = some '0') : n = 0 := by
  induction n using Nat.base_induction 10 (by decide) with
  | single m small =>
    rw [digitsOf, Nat.toDigits_of_lt_base small, List.head?_cons] at zero
    have value := Nat.toNat_digitChar_sub_48_of_lt_ten small
    rw [Option.some.inj zero] at value
    exact value.symm
  | digit m k small positive ih =>
    rw [digitsOf, ← Nat.toDigits_append_toDigits (by decide) positive small,
      List.head?_append, Option.or_of_isSome (List.isSome_head?.2 Nat.toDigits_ne_nil)] at zero
    exact absurd (ih zero) (Nat.ne_of_gt positive)

end Text

namespace Document

open Text

/-- No character at the start of a text goes on with a number. -/
def NumberEnds (cs : List Char) : Prop :=
  ∀ c ∈ cs.head?, c.isDigit = false ∧ c ≠ '.' ∧ c ≠ 'e' ∧ c ≠ 'E'

section

variable {rest : List Char}

theorem NumberEnds.stops (ends : NumberEnds rest) : ∀ c ∈ rest.head?, c.isDigit = false :=
  fun c first => (ends c first).1

theorem digits?_append {digits : List Char} (given : digits ≠ [])
    (all : ∀ c ∈ digits, c.isDigit = true) (stops : ∀ c ∈ rest.head?, c.isDigit = false) :
    digits? (digits ++ rest) = some (digits, rest) := by
  obtain ⟨taken, left⟩ := run_of_digits all stops
  rw [digits?, taken, left, if_neg given]

theorem fractionPart?_of_ends (ends : NumberEnds rest) : fractionPart? rest = some (none, rest) := by
  unfold fractionPart?
  split
  · exact absurd rfl (ends '.' rfl).2.1
  · rfl

theorem exponentPart?_of_ends (ends : NumberEnds rest) : exponentPart? rest = some (none, rest) := by
  unfold exponentPart?
  split
  · next c rest =>
    have stops := ends c rfl
    exact if_neg (not_or.2 ⟨stops.2.2.1, stops.2.2.2⟩)
  · rfl

/-- The digits of a number are its whole part. -/
theorem wholePart?_digitsOf (n : Nat) (ends : NumberEnds rest) :
    wholePart? (digitsOf n ++ rest) = some (digitsOf n, rest) := by
  have noZero : ¬((digitsOf n).head? = some '0' ∧ digitsOf n ≠ ['0']) := by
    rintro ⟨zero, more⟩
    obtain rfl := eq_zero_of_head? zero
    exact more rfl
  rw [wholePart?, digits?_append (digitsOf_ne_nil n) (fun c digit => isDigit_of_mem_digitsOf digit)
    ends.stops]
  exact if_neg noZero

/-- A number as it is written without sign, point and exponent. -/
def NumberText.ofNat (n : Nat) : NumberText :=
  ⟨false, digitsOf n, none, none⟩

theorem numberText?_digitsOf (n : Nat) (ends : NumberEnds rest) :
    numberText? (digitsOf n ++ rest) = some (.ofNat n, rest) := by
  have unsigned : ∀ behind, digitsOf n ++ rest ≠ '-' :: behind := by
    intro behind same
    obtain ⟨first, more, digits⟩ := List.exists_cons_of_ne_nil (digitsOf_ne_nil n)
    rw [digits] at same
    have minus : '-' ∈ digitsOf n := by
      rw [digits, ← (List.cons.inj same).1]
      exact List.mem_cons_self
    exact absurd (isDigit_of_mem_digitsOf minus) (by decide)
  unfold numberText?
  simp only [wholePart?_digitsOf n ends, Option.bind_eq_bind, Option.bind_some,
    fractionPart?_of_ends ends, exponentPart?_of_ends ends]
  rfl

/-! ## Size -/

/-- Digits of which the value fits 64 bits are all read. -/
theorem fitting_eq {n : Nat} {digits : List Char}
    (fits : Nat.ofDigitChars 10 digits n < UInt64.size) :
    fitting n digits = (Nat.ofDigitChars 10 digits n, []) := by
  induction digits generalizing n with
  | nil => rfl
  | cons c digits ih =>
    have longer : n * 10 + digitsValue [c] = 10 * n + (c.toNat - '0'.toNat) := by
      rw [digitsValue_eq, Nat.ofDigitChars_cons, Nat.ofDigitChars_nil]
      omega
    rw [Nat.ofDigitChars_cons] at fits ⊢
    have most : 10 * n + (c.toNat - '0'.toNat) < UInt64.size := by
      rw [Nat.ofDigitChars_eq_ofDigitChars_zero] at fits
      have positive : 0 < 10 ^ digits.length := Nat.pow_pos (by decide)
      have := Nat.le_mul_of_pos_left (10 * n + (c.toNat - '0'.toNat)) positive
      omega
    rw [fitting, longer]
    exact (if_pos most).trans (ih fits)

theorem nearestQuotient_le (num den : Nat) : Single.nearestQuotient num den ≤ num / den + 1 := by
  simp only [Single.nearestQuotient]
  split
  · exact Nat.le_succ _
  · split
    · exact Nat.le_refl _
    · split
      · exact Nat.le_succ _
      · exact Nat.le_refl _

/-- Rounding to a double less than doubles a number. -/
theorem nearestDouble_le (n : Nat) : nearestDouble n ≤ 2 * n + 1 := by
  have step : Nat.pow 2 (Nat.log2 n - 52) ≤ n + 1 := by
    by_cases zero : n = 0
    · rw [zero]
      decide
    · have whole : Nat.pow 2 (Nat.log2 n) ≤ n := Nat.log2_self_le zero
      have less : Nat.pow 2 (Nat.log2 n - 52) ≤ Nat.pow 2 (Nat.log2 n) :=
        Nat.pow_le_pow_right (by decide) (Nat.sub_le _ _)
      omega
  calc nearestDouble n
      ≤ (n / Nat.pow 2 (Nat.log2 n - 52) + 1) * Nat.pow 2 (Nat.log2 n - 52) :=
        Nat.mul_le_mul_right _ (nearestQuotient_le _ _)
    _ = n / Nat.pow 2 (Nat.log2 n - 52) * Nat.pow 2 (Nat.log2 n - 52) +
          Nat.pow 2 (Nat.log2 n - 52) := Nat.succ_mul _ _
    _ ≤ n + (n + 1) := Nat.add_le_add (Nat.div_mul_le_self _ _) step
    _ = 2 * n + 1 := by omega

theorem overflows_ofNat {n : Nat} (small : n < UInt64.size) : (NumberText.ofNat n).overflows = false := by
  have all : fitting 0 (digitsOf n) = (n, []) := by
    have value : Nat.ofDigitChars 10 (digitsOf n) 0 = n := Nat.ofDigitChars_ten_toDigits
    rw [fitting_eq (value.symm ▸ small), value]
  have magnitude : (NumberText.ofNat n).magnitude = ⟨n, 0⟩ := by
    simp only [NumberText.magnitude, NumberText.ofNat, all, Option.getD_none, fitting]
    rfl
  have bound := nearestDouble_le n
  have one : nearestDouble (Nat.pow 10 (Int.toNat 0)) = 1 := by decide
  have room : 2 * UInt64.size < beyondDoubles := by decide +kernel
  have most : ¬beyondDoubles ≤ nearestDouble n * 1 := by omega
  have exponent : ¬(308 : Int) < 0 := by decide
  rw [NumberText.overflows, magnitude]
  simp only [one, most, exponent, decide_false, Bool.or_self, Bool.and_false]

/-- A number that fits 64 bits is read from its digits. -/
theorem number?_digitsOf {n : Nat} (small : n < UInt64.size) (ends : NumberEnds rest) :
    number? (digitsOf n ++ rest) = some (.ofNat n, rest) := by
  rw [number?, numberText?_digitsOf n ends]
  simp [overflows_ofNat small]

theorem natural?_ofNat (n : Nat) : (NumberText.ofNat n).natural? = some n := by
  rw [NumberText.natural?, NumberText.ofNat, digitsValue_digitsOf]
  rfl

end

end Document

end SerialLink
