import Mathlib.Algebra.Group.Nat.Defs
import SerialLink.Proofs.Document.Numbers

/-!
# Spellings of a number

A number is spelled by its whole part, a fraction and an exponent with its sign. What is spelled so
is read as the decimal that it stands for (`decimalOf?_unsigned`), and it is a number of a document
where no zero stands in front of other digits (`numberText?_spelled`).
-/

namespace SerialLink

/-! ## Runs of digits -/

namespace Text

theorem digitsValue_append (a b : List Char) :
    digitsValue (a ++ b) = digitsValue a * 10 ^ b.length + digitsValue b := by
  simp only [digitsValue_eq]
  rw [Nat.ofDigitChars_append, Nat.ofDigitChars_eq_ofDigitChars_zero, Nat.mul_comm]

theorem digitsValue_zeros (n : Nat) : digitsValue (List.replicate n '0') = 0 := by
  induction n with
  | zero => rfl
  | succ n ih =>
    rw [List.replicate_succ', digitsValue_append, ih]
    rfl

theorem unsigned?_digitsOf (n : Nat) : unsigned? (digitsOf n) = some n := by
  have all : (digitsOf n).all Char.isDigit = true :=
    List.all_eq_true.2 fun c digit => isDigit_of_mem_digitsOf digit
  rw [unsigned?, if_pos ⟨digitsOf_ne_nil n, all⟩, digitsValue_digitsOf]

end Text

/-! ## Spellings of a number -/

namespace Document.NumberText

open Text

/-- The fraction as it is written behind the whole part. -/
def point (n : NumberText) : List Char :=
  match n.fraction with
  | none => []
  | some digits => '.' :: digits

/-- The exponent as it is written behind the digits. -/
def power (n : NumberText) : List Char :=
  match n.exponent with
  | none => []
  | some e => 'e' :: (if e < 0 then '-' else '+') :: digitsOf e.natAbs

/-- The number without its sign. -/
def unsigned (n : NumberText) : List Char :=
  n.whole ++ (n.point ++ n.power)

/-- Both parts are runs of digits that are not empty. -/
structure Proper (n : NumberText) : Prop where
  whole : n.whole ≠ [] ∧ ∀ c ∈ n.whole, c.isDigit = true
  fraction : ∀ digits ∈ n.fraction, digits ≠ [] ∧ ∀ c ∈ digits, c.isDigit = true

/-- What a number stands for, up to its sign. -/
def decimal (n : NumberText) : Decimal :=
  ⟨digitsValue (n.whole ++ n.fraction.getD []), n.exponent.getD 0 - (n.fraction.getD []).length⟩

variable {n : NumberText}

theorem integer?_power (e : Int) :
    integer? ((if e < 0 then '-' else '+') :: digitsOf e.natAbs) = some e := by
  split
  · next negative =>
    simp [integer?, unsigned?_digitsOf, Int.ofNat_natAbs_of_nonpos (Int.le_of_lt negative)]
  · next natural =>
    simp [integer?, Text.natural?, unsigned?_digitsOf, Int.natAbs_of_nonneg (Int.not_lt.1 natural)]

theorem power_stops (n : NumberText) : ∀ c ∈ n.power.head?, c.isDigit = false := by
  intro c first
  unfold power at first
  split at first
  · cases first
  · cases first
    rfl

theorem point_stops (n : NumberText) : ∀ c ∈ (n.point ++ n.power).head?, c.isDigit = false := by
  intro c first
  unfold point at first
  split at first
  · exact n.power_stops c first
  · cases first
    rfl

/-- A number without a sign is read as what it stands for. -/
theorem decimalOf?_unsigned (proper : n.Proper) :
    Single.decimalOf? n.unsigned = some n.decimal := by
  obtain ⟨taken, left⟩ := run_of_digits proper.whole.2 n.point_stops
  have given := proper.whole.1
  have fraction := proper.fraction
  obtain ⟨negative, whole, _ | digits, exponent⟩ := n
  · rw [unsigned, Single.decimalOf?]
    simp only [taken, left]
    cases exponent with
    | none => simp [point, power, decimal, given]
    | some e => simp [point, power, decimal, given, integer?_power]
  · obtain ⟨taken', left'⟩ := run_of_digits (fraction digits rfl).2
      (power_stops ⟨negative, whole, digits, exponent⟩)
    rw [unsigned, Single.decimalOf?]
    simp only [taken, left]
    simp only [point, List.cons_append, taken', left']
    cases exponent with
    | none => simp [power, decimal, given]
    | some e => simp [power, decimal, given, integer?_power]

/-! ### In documents -/

/-- The number with its sign. -/
def spelled (n : NumberText) : List Char :=
  if n.negative then '-' :: n.unsigned else n.unsigned

/-- No zero stands in front of other digits. -/
def Trimmed (n : NumberText) : Prop :=
  n.whole.head? = some '0' → n.whole = ['0']

theorem fractionPart?_point (proper : n.Proper) :
    fractionPart? (n.point ++ n.power) = some (n.fraction, n.power) := by
  have fraction := proper.fraction
  obtain ⟨negative, whole, _ | digits, exponent⟩ := n
  · cases exponent <;> rfl
  · obtain ⟨given, all⟩ := fraction digits rfl
    rw [point, List.cons_append, fractionPart?, digits?_append given all (power_stops _)]
    rfl

theorem exponentPart?_power (n : NumberText) : exponentPart? n.power = some (n.exponent, []) := by
  have digits (e : Int) : digits? (digitsOf e.natAbs) = some (digitsOf e.natAbs, []) := by
    have whole := @digits?_append [] (digitsOf e.natAbs) (digitsOf_ne_nil _)
      (fun c digit => isDigit_of_mem_digitsOf digit) (fun c none => by cases none)
    rwa [List.append_nil] at whole
  unfold power
  cases n.exponent with
  | none => rfl
  | some e =>
    dsimp only
    split
    · next negative =>
      simp [exponentPart?, signedPart?, digits, digitsValue_digitsOf,
        Int.ofNat_natAbs_of_nonpos (Int.le_of_lt negative)]
    · next natural =>
      simp [exponentPart?, signedPart?, digits, digitsValue_digitsOf,
        Int.natAbs_of_nonneg (Int.not_lt.1 natural)]

/-- A number in which no zero stands in front of other digits is one that a document can hold. -/
theorem numberText?_spelled (proper : n.Proper) (trimmed : n.Trimmed) :
    numberText? n.spelled = some (n, []) := by
  have whole : wholePart? n.unsigned = some (n.whole, n.point ++ n.power) := by
    have kept : ¬(n.whole.head? = some '0' ∧ n.whole ≠ ['0']) :=
      fun zeros => zeros.2 (trimmed zeros.1)
    rw [wholePart?, unsigned, digits?_append proper.whole.1 proper.whole.2 n.point_stops]
    exact if_neg kept
  have unsigned : ∀ rest, n.unsigned ≠ '-' :: rest := by
    intro rest same
    obtain ⟨first, more, digits⟩ := List.exists_cons_of_ne_nil proper.whole.1
    have minus : '-' ∈ n.whole := by
      rw [NumberText.unsigned, digits] at same
      rw [digits, (List.cons.inj same).1]
      exact List.mem_cons_self
    exact absurd (proper.whole.2 _ minus) (by decide)
  unfold numberText? spelled
  cases sign : n.negative with
  | true => simp [whole, fractionPart?_point proper, exponentPart?_power, ← sign]
  | false =>
    rw [if_neg Bool.false_ne_true]
    split
    next negative digits same =>
      split at same
      · next rest minus => exact absurd minus (unsigned rest)
      · cases same
        simp [whole, fractionPart?_point proper, exponentPart?_power, ← sign]

end Document.NumberText

end SerialLink
