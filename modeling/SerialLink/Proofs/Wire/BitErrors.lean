import Mathlib.Algebra.Ring.Parity
import Mathlib.Data.List.Induction
import SerialLink.Proofs.Wire.Detection
import SerialLink.Proofs.Wire.Generator

/-!
# Bits that change are detected

Bits are the coefficients of a polynomial, and `remainder` divides it by the generator one bit at a
time. Bytes verify when the bits of the text and the checksum word are a multiple of the generator,
up to what the register starts with; so the bits in which two byte sequences that verify differ are
a multiple (`exists_multiple`). A multiple has an even number of ones (`parity_remainder`), and two
ones alone are no multiple within the length of a frame (`remainder_ne_zero_of_pair`).
-/

namespace SerialLink.Checksum

/-! ## Division bit by bit -/

/-- The bits of a byte, the highest first. -/
def bits (b : UInt8) : List Bool :=
  [7, 6, 5, 4, 3, 2, 1, 0].map b.toBitVec.getLsbD

@[simp] theorem length_bits (b : UInt8) : (bits b).length = 8 := rfl

/-- The register after one more coefficient, which comes in at the bottom. -/
def takeBit (r : UInt16) (bit : Bool) : UInt16 :=
  shift r ^^^ bit.toUInt16

@[simp] theorem takeBit_false (r : UInt16) : takeBit r false = shift r :=
  UInt16.xor_zero

@[simp] theorem takeBit_true (r : UInt16) : takeBit r true = shift r ^^^ 1 := rfl

/-- The remainder of a polynomial, by its coefficients from the highest on. -/
def remainder (bits : List Bool) : UInt16 :=
  bits.foldl takeBit 0

theorem shift_zero : shift 0 = 0 := rfl

theorem shifts_zero (n : Nat) : shifts n 0 = 0 := by
  induction n with
  | zero => rfl
  | succ n ih => rw [shifts, shift_zero, ih]

theorem shifts_add (m n : Nat) (r : UInt16) : shifts (m + n) r = shifts n (shifts m r) := by
  induction m generalizing r with
  | zero => rw [Nat.zero_add, shifts]
  | succ m ih => rw [Nat.succ_add, shifts, shifts, ih]

/-- What is in the register moves up, and the remainder of what comes in is added. -/
theorem foldl_takeBit (bits : List Bool) (r : UInt16) :
    bits.foldl takeBit r = shifts bits.length r ^^^ remainder bits := by
  induction bits generalizing r with
  | nil => simp [remainder, shifts]
  | cons bit bits ih =>
    have alone : remainder (bit :: bits) = shifts bits.length bit.toUInt16 ^^^ remainder bits := by
      rw [remainder, List.foldl_cons, ih, takeBit, shift_zero, UInt16.zero_xor]
    rw [List.foldl_cons, ih, takeBit, shifts_xor, alone, List.length_cons, shifts, UInt16.xor_assoc]

theorem remainder_append (a b : List Bool) :
    remainder (a ++ b) = shifts b.length (remainder a) ^^^ remainder b := by
  rw [remainder, List.foldl_append, ← remainder, foldl_takeBit]

/-- A byte is too short to be divided. -/
theorem remainder_bits (b : UInt8) : remainder (bits b) = b.toUInt16 := by
  have each : ∀ i : Fin 256, remainder (bits (UInt8.ofNat i)) = (UInt8.ofNat i).toUInt16 := by
    decide +kernel
  have := each ⟨b.toNat, b.toNat_lt⟩
  rwa [UInt8.ofNat_toNat] at this

/-- Sixteen shifts behind the bits of a text stands what the table makes of its bytes. -/
theorem shifts_remainder_flatMap (text : List UInt8) :
    shifts 16 (remainder (text.flatMap bits)) = text.foldl step 0 := by
  induction text using List.reverseRecOn with
  | nil => exact shifts_zero 16
  | append_singleton text b ih =>
    have upper : shifts 16 b.toUInt16 = shifts 8 (b.toUInt16 <<< 8) := by
      rw [← shifts_lower, ← shifts_add]
    rw [List.flatMap_append, List.flatMap_singleton, remainder_append, remainder_bits, length_bits,
      shifts_xor, upper, ← shifts_add, Nat.add_comm, shifts_add, ih, ← shifts_xor,
      ← step_eq_shifts, List.foldl_append]
    rfl

/-- A word is its two bytes, the higher one moved up. -/
theorem wordOf_eq_xor (low high : UInt8) :
    wordOf low high = (high.toUInt16 <<< 8) ^^^ low.toUInt16 := by
  have both := wordBytes_wordOf low high
  simp only [wordBytes, List.cons.injEq, and_true] at both
  rw [← halves (wordOf low high), both.1, both.2]

/-- The bits of a text with those of a word behind them, in the order of their powers. -/
theorem remainder_text_word (text : List UInt8) (low high : UInt8) :
    remainder ((text ++ [high, low]).flatMap bits) = text.foldl step 0 ^^^ wordOf low high := by
  have word : remainder (bits high ++ bits low) = wordOf low high := by
    rw [remainder_append, remainder_bits, remainder_bits, length_bits, shifts_lower, wordOf_eq_xor]
  rw [List.flatMap_append, remainder_append]
  simp [word, shifts_remainder_flatMap]

/-! ## Differences -/

/-- The bits in which two byte sequences differ, byte by byte. -/
def difference (a b : List UInt8) : List UInt8 :=
  List.zipWith (· ^^^ ·) a b

/-- The number of bits in which two byte sequences of one length differ. -/
def distance (a b : List UInt8) : Nat :=
  ((difference a b).flatMap bits).count true

theorem step_xor (r s : UInt16) (a b : UInt8) :
    step (r ^^^ s) (a ^^^ b) = step r a ^^^ step s b := by
  have apart : (r ^^^ s) ^^^ ((a.toUInt16 <<< 8) ^^^ (b.toUInt16 <<< 8)) =
      (r ^^^ (a.toUInt16 <<< 8)) ^^^ (s ^^^ (b.toUInt16 <<< 8)) := by
    ac_rfl
  simp only [step_eq_shifts, UInt8.toUInt16_xor, UInt16.shiftLeft_xor, apart, shifts_xor]

/-- The register is linear: what two texts leave differs by what their difference leaves. -/
theorem foldl_step_xor {a b : List UInt8} (same : a.length = b.length) (r s : UInt16) :
    (difference a b).foldl step (r ^^^ s) = a.foldl step r ^^^ b.foldl step s := by
  induction a generalizing b r s with
  | nil =>
    obtain rfl := List.length_eq_zero_iff.1 same.symm
    rfl
  | cons x a ih =>
    cases b with
    | nil => simp at same
    | cons y b =>
      simp only [difference, List.zipWith_cons_cons, List.foldl_cons] at ih ⊢
      rw [step_xor, ih (Nat.succ.inj same)]

theorem wordOf_xor (low high low' high' : UInt8) :
    wordOf (low ^^^ low') (high ^^^ high') = wordOf low high ^^^ wordOf low' high' := by
  simp only [wordOf_eq_xor, UInt8.toUInt16_xor, UInt16.shiftLeft_xor]
  ac_rfl

/-- The bits in which two byte sequences that verify differ, in the order of their powers, are a
multiple of the generator. -/
theorem exists_multiple {a b : List UInt8} (same : b.length = a.length) (ok : verify a = true)
    (ok' : verify b = true) :
    ∃ apart : List Bool, apart.length = 8 * a.length ∧ apart.count true = distance a b ∧
      remainder apart = 0 := by
  obtain ⟨text, low, high, rfl⟩ := exists_append_pair (enough_of_verify ok)
  obtain ⟨text', low', high', rfl⟩ := exists_append_pair (enough_of_verify ok')
  rw [verify_append] at ok ok'
  have long : text.length = text'.length := by simpa using same.symm
  have split : difference (text ++ [low, high]) (text' ++ [low', high']) =
      difference text text' ++ [low ^^^ low', high ^^^ high'] := by
    rw [difference, List.zipWith_append long]
    rfl
  have word : (difference text text').foldl step 0 = wordOf (low ^^^ low') (high ^^^ high') := by
    have linear := foldl_step_xor long initial initial
    rw [UInt16.xor_self] at linear
    rw [linear, wordOf_xor, ok, ok', compute, compute]
  refine ⟨(difference text text' ++ [high ^^^ high', low ^^^ low']).flatMap bits, ?_, ?_, ?_⟩
  · have size : (difference text text').length = text.length := by
      simp [difference, long]
    simp [List.length_flatMap, size]
    omega
  · rw [distance, split]
    simp [List.count_append]
    omega
  · rw [remainder_text_word, word, UInt16.xor_self]

/-! ## What is no multiple -/

/-- A remainder has the parity of the number of ones. -/
theorem parity_remainder (bits : List Bool) :
    parity (remainder bits) = decide (bits.count true % 2 = 1) := by
  induction bits using List.reverseRecOn with
  | nil => rfl
  | append_singleton bits bit ih =>
    rw [remainder, List.foldl_append, ← remainder]
    have one : parity 1 = true := by decide
    cases bit with
    | false => simp [parity_shift, ih, List.count_append]
    | true =>
      simp only [List.foldl_cons, List.foldl_nil, takeBit_true, parity_xor, parity_shift, ih, one,
        List.count_append, Bool.xor_true, ← decide_not]
      simp
      omega

/-- A list with a one in it begins with zeros in front of a one. -/
theorem exists_first_one {l : List Bool} {n : Nat} (h : l.count true = n + 1) :
    ∃ zeros rest, l = List.replicate zeros false ++ true :: rest ∧ rest.count true = n := by
  induction l with
  | nil => simp at h
  | cons bit l ih =>
    cases bit with
    | true => exact ⟨0, l, rfl, by simpa using h⟩
    | false =>
      obtain ⟨zeros, rest, rfl, few⟩ := ih (by simpa using h)
      exact ⟨zeros + 1, rest, rfl, few⟩

theorem eq_replicate_of_no_one {l : List Bool} (h : l.count true = 0) :
    l = List.replicate l.length false := by
  apply List.eq_replicate_of_mem
  intro bit member
  cases bit with
  | false => rfl
  | true => exact absurd member (List.count_eq_zero.1 h)

theorem foldl_takeBit_zeros (n : Nat) (r : UInt16) :
    (List.replicate n false).foldl takeBit r = shifts n r := by
  induction n generalizing r with
  | zero => rfl
  | succ n ih => rw [List.replicate_succ, List.foldl_cons, ih, takeBit_false, shifts]

/-- Two ones alone are no multiple within the length of a frame. -/
theorem remainder_ne_zero_of_pair {l : List Bool} (two : l.count true = 2)
    (long : l.length ≤ 2088) : remainder l ≠ 0 := by
  intro multiple
  obtain ⟨zeros, rest, rfl, one⟩ := exists_first_one two
  obtain ⟨between, rest, rfl, none⟩ := exists_first_one one
  rw [eq_replicate_of_no_one none] at multiple
  have near : between + 1 ≤ 2087 := by
    simp only [List.length_append, List.length_replicate, List.length_cons] at long
    omega
  -- The zeros in front leave nothing, those at the end lose nothing.
  simp only [remainder, List.foldl_append, List.foldl_cons, foldl_takeBit_zeros, shifts_zero,
    takeBit_true, shift_zero, UInt16.zero_xor] at multiple
  rw [← shifts_zero rest.length] at multiple
  have back := UInt16.xor_eq_zero_iff.1 (shifts_injective multiple)
  exact shifts_one_ne_one (Nat.succ_pos between) near ((shifts_add between 1 1).trans back)

/-! ## What the checksum tells -/

/-- Bytes that verify do not differ in an odd number of bits. -/
theorem not_verify_of_odd {a b : List UInt8} (same : b.length = a.length) (ok : verify a = true)
    (odd : Odd (distance a b)) : verify b = false := by
  by_contra accepted
  rw [Bool.not_eq_false] at accepted
  obtain ⟨apart, -, ones, multiple⟩ := exists_multiple same ok accepted
  have parity := parity_remainder apart
  rw [multiple, ones, Nat.odd_iff.1 odd] at parity
  exact absurd parity (by decide)

/-- Bytes that verify do not differ in two bits alone, unless they are longer than any frame. -/
theorem not_verify_of_pair {a b : List UInt8} (same : b.length = a.length) (ok : verify a = true)
    (fits : a.length ≤ Wire.overhead + Wire.maxBody) (two : distance a b = 2) :
    verify b = false := by
  by_contra accepted
  rw [Bool.not_eq_false] at accepted
  obtain ⟨apart, long, ones, multiple⟩ := exists_multiple same ok accepted
  have near : apart.length ≤ 2088 := by
    simp only [Wire.overhead, Wire.maxBody] at fits
    omega
  exact remainder_ne_zero_of_pair (ones.trans two) near multiple

/-- **Few changed bits are detected.** Of two byte sequences of one length of which one verifies the
other does not if they differ in an odd number of bits, or in exactly two and are no longer than the
largest frame, wherever these bits stand: in what is covered or in the checksum itself. So one, two
or three bits of a frame never change without being noticed. -/
theorem flips_are_detected {a b : List UInt8} (same : b.length = a.length)
    (ok : verify a = true) :
    (Odd (distance a b) → verify b = false) ∧
    (a.length ≤ Wire.overhead + Wire.maxBody → distance a b = 2 → verify b = false) ∧
    (a.length ≤ Wire.overhead + Wire.maxBody → 1 ≤ distance a b → distance a b ≤ 3 →
      verify b = false) := by
  refine ⟨not_verify_of_odd same ok, not_verify_of_pair same ok, ?_⟩
  intro fits some few
  rcases Nat.even_or_odd (distance a b) with even | odd
  · have two : distance a b = 2 := by
      have := Nat.even_iff.1 even
      omega
    exact not_verify_of_pair same ok fits two
  · exact not_verify_of_odd same ok odd

/-- A frame with three bits changed in its body, and one with two changed in body and checksum. -/
theorem flips_are_detected_in_body_and_checksum :
    let frame : List UInt8 := [0xA5, 2, 0x30, 0, 7, 0, 0xC4, 0x5D]
    let three : List UInt8 := [0xA5, 2, 0x30, 0, 0, 0, 0xC4, 0x5D]
    let pair : List UInt8 := [0xA5, 2, 0x30, 0, 6, 0, 0xC4, 0xDD]
    verify frame = true ∧ distance frame three = 3 ∧ verify three = false ∧
      distance frame pair = 2 ∧ verify pair = false := by
  intro frame three pair
  have ok : verify frame = true := by decide +kernel
  have same : three.length = frame.length := rfl
  have same' : pair.length = frame.length := rfl
  have odd : distance frame three = 3 := by decide
  have two : distance frame pair = 2 := by decide
  have fits : frame.length ≤ Wire.overhead + Wire.maxBody := by decide
  have detected := (flips_are_detected same ok).1
  rw [odd] at detected
  exact ⟨ok, odd, detected (by decide), two, (flips_are_detected same' ok).2.1 fits two⟩

end SerialLink.Checksum
