import SerialLink.Proofs.Wire.BitErrors

/-!
# Bursts are detected

A burst is a change whose bits all stand within a few consecutive places. Its bits, as a polynomial,
are a short one moved up, and a short one is its own remainder (`toNat_remainder_lt`); moving it up
loses nothing, so no burst of at most 16 bits is a multiple of the generator, wherever it stands and
whatever else is covered (`remainder_ne_zero_of_burst`). Nothing is assumed of the length of the
text: unlike two bits apart, a burst never comes back.
-/

namespace SerialLink.Checksum

/-! ## Where bits differ -/

/-- The bits in which two byte sequences differ, in the order of the bytes and the highest of each
byte first. -/
def apart (a b : List UInt8) : List Bool :=
  (difference a b).flatMap bits

/-- All ones stand at places from `start` on and in front of `stop`. -/
def Within (start stop : Nat) (bits : List Bool) : Prop :=
  ∀ i, bits[i]? = some true → start ≤ i ∧ i < stop

instance (start stop : Nat) (bits : List Bool) : Decidable (Within start stop bits) :=
  decidable_of_iff (∀ i < bits.length, bits[i]? = some true → start ≤ i ∧ i < stop)
    ⟨fun inside i one => inside i (List.getElem?_eq_some_iff.1 one).1 one,
      fun within i _ one => within i one⟩

namespace Within

variable {start stop : Nat} {l r : List Bool}

theorem left (within : Within start stop (l ++ r)) : Within start stop l := by
  intro i one
  refine within i ?_
  rw [List.getElem?_append_left (List.getElem?_eq_some_iff.1 one).1, one]

theorem not_mem_right (within : Within start stop (l ++ r)) (inside : stop ≤ l.length) :
    true ∉ r := by
  intro one
  obtain ⟨i, found⟩ := List.mem_iff_getElem?.1 one
  have behind : (l ++ r)[l.length + i]? = some true := by
    rw [List.getElem?_append_right (Nat.le_add_right _ _), Nat.add_sub_cancel_left, found]
  have := (within _ behind).2
  omega

theorem not_mem_left (within : Within start stop (l ++ r)) (outside : l.length ≤ start) :
    true ∉ l := by
  intro one
  obtain ⟨i, found⟩ := List.mem_iff_getElem?.1 one
  have late := (within.left i found).1
  have inside := (List.getElem?_eq_some_iff.1 found).1
  omega

theorem mono {bits : List Bool} {stop' : Nat} (within : Within start stop bits)
    (wider : stop ≤ stop') : Within start stop' bits :=
  fun i one => ⟨(within i one).1, Nat.lt_of_lt_of_le (within i one).2 wider⟩

end Within

theorem apart_append {a b : List UInt8} (same : a.length = b.length) (c d : List UInt8) :
    apart (a ++ c) (b ++ d) = apart a b ++ apart c d := by
  rw [apart, difference, List.zipWith_append same, List.flatMap_append]
  rfl

theorem length_apart {a b : List UInt8} (same : a.length = b.length) :
    (apart a b).length = 8 * a.length := by
  have sizes : (difference a b).length = a.length := by
    rw [difference, List.length_zipWith, same, Nat.min_self]
  simp [apart, List.length_flatMap, sizes, Nat.mul_comm]

/-- A byte with no bit set is zero. -/
theorem eq_zero_of_bits {b : UInt8} (none : true ∉ bits b) : b = 0 := by
  have clear := eq_replicate_of_no_one (List.count_eq_zero.2 none)
  have word := remainder_bits b
  rw [clear, remainder, foldl_takeBit_zeros, shifts_zero] at word
  apply UInt8.toNat_inj.1
  simpa using congrArg UInt16.toNat word.symm

/-- Byte sequences that differ in no bit are the same. -/
theorem eq_of_apart {a b : List UInt8} (same : a.length = b.length) (none : true ∉ apart a b) :
    a = b := by
  induction a generalizing b with
  | nil => exact (List.length_eq_zero_iff.1 same.symm).symm
  | cons x a ih =>
    cases b with
    | nil => cases same
    | cons y b =>
      have split : apart (x :: a) (y :: b) = bits (x ^^^ y) ++ apart a b := rfl
      rw [split, List.mem_append, not_or] at none
      rw [UInt8.xor_eq_zero_iff.1 (eq_zero_of_bits none.1), ih (Nat.succ.inj same) none.2]

/-! ## Short polynomials -/

/-- The lowest bit alone, moved up by fewer places than the register has. -/
theorem toNat_shifts_one {n : Nat} (few : n ≤ 15) : (shifts n 1).toNat = 1 <<< n := by
  have stays : (1 : UInt16).toNat <<< n < 65536 := by
    have most : 1 <<< n ≤ 1 <<< 15 := by
      simpa only [Nat.one_shiftLeft] using Nat.pow_le_pow_right (by decide) few
    exact Nat.lt_of_le_of_lt most (by decide)
  exact toNat_shifts_of_lt n stays

/-- A polynomial of at most 16 coefficients is too short to be divided: its remainder has no more
places than it has itself. -/
theorem toNat_remainder_lt {bits : List Bool} (short : bits.length ≤ 16) :
    (remainder bits).toNat < 1 <<< bits.length := by
  induction bits with
  | nil => decide
  | cons bit bits ih =>
    rw [List.length_cons] at short ⊢
    have later := ih (Nat.le_of_succ_le short)
    have wider : 1 <<< bits.length < 1 <<< (bits.length + 1) := by
      simpa only [Nat.one_shiftLeft] using Nat.pow_lt_pow_succ (by decide)
    have first : (shifts bits.length (remainder [bit])).toNat < 1 <<< (bits.length + 1) := by
      cases bit with
      | false =>
        have none : remainder [false] = 0 := rfl
        rw [none, shifts_zero]
        exact Nat.zero_lt_of_lt wider
      | true =>
        have one : remainder [true] = 1 := rfl
        rw [one, toNat_shifts_one (Nat.le_of_succ_le_succ short)]
        exact wider
    rw [← List.singleton_append, remainder_append, UInt16.toNat_xor, Nat.one_shiftLeft]
    simp only [Nat.one_shiftLeft] at first wider later
    exact Nat.xor_lt_two_pow first (Nat.lt_trans later wider)

/-- A short polynomial with a first coefficient is no multiple. -/
theorem remainder_ne_zero_of_short {bits : List Bool} (short : bits.length ≤ 15) :
    remainder (true :: bits) ≠ 0 := by
  intro multiple
  have one : remainder [true] = 1 := rfl
  rw [← List.singleton_append, remainder_append, one, UInt16.xor_eq_zero_iff] at multiple
  have later := toNat_remainder_lt (Nat.le_succ_of_le short)
  rw [← multiple, toNat_shifts_one short] at later
  exact Nat.lt_irrefl _ later

/-- Zeros in front leave nothing, and those at the end lose nothing. -/
theorem remainder_zeros_append (n : Nat) (bits : List Bool) :
    remainder (List.replicate n false ++ bits) = remainder bits := by
  rw [remainder, List.foldl_append, foldl_takeBit_zeros, shifts_zero]
  rfl

theorem remainder_append_zeros (bits : List Bool) (n : Nat) :
    remainder (bits ++ List.replicate n false) = shifts n (remainder bits) := by
  rw [remainder, List.foldl_append, foldl_takeBit_zeros]
  rfl

/-- The bits of a burst are no multiple, wherever it stands. -/
theorem remainder_ne_zero_of_burst {start : Nat} {bits : List Bool}
    (within : Within start (start + 16) bits) (some : true ∈ bits) : remainder bits ≠ 0 := by
  obtain ⟨n, ones⟩ := Nat.exists_eq_succ_of_ne_zero (Nat.ne_of_gt (List.count_pos_iff.2 some))
  obtain ⟨zeros, rest, rfl, -⟩ := exists_first_one ones
  have place (i : Nat) : (List.replicate zeros false ++ true :: rest)[zeros + i]? =
      (true :: rest)[i]? := by
    rw [List.getElem?_append_right (by simp)]
    simp
  have early : start ≤ zeros := (within zeros (place 0)).1
  -- The first one may come late in the window, but what follows it is never more than 15 places.
  have clear : true ∉ rest.drop 15 := by
    intro later
    obtain ⟨i, found⟩ := List.mem_iff_getElem?.1 later
    rw [List.getElem?_drop] at found
    have inside := (within (zeros + (15 + i + 1)) (by rw [place, List.getElem?_cons_succ, found])).2
    omega
  have split : true :: rest =
      (true :: rest.take 15) ++ List.replicate (rest.drop 15).length false := by
    rw [List.cons_append, ← eq_replicate_of_no_one (List.count_eq_zero.2 clear),
      List.take_append_drop]
  intro multiple
  rw [remainder_zeros_append, split, remainder_append_zeros,
    ← shifts_zero (rest.drop 15).length] at multiple
  exact remainder_ne_zero_of_short (List.length_take_le 15 rest) (shifts_injective multiple)

/-! ## What the checksum tells -/

/-- Texts with the same checksum do not differ by a burst. -/
theorem eq_of_burst {a b : List UInt8} {start : Nat} (same : a.length = b.length)
    (within : Within start (start + 16) (apart a b)) (agree : compute a = compute b) : a = b := by
  by_contra other
  have some : true ∈ apart a b := by
    by_contra none
    exact other (eq_of_apart same none)
  have linear := foldl_step_xor same initial initial
  rw [UInt16.xor_self, ← shifts_remainder_flatMap, ← compute, ← compute, agree, UInt16.xor_self,
    ← shifts_zero 16] at linear
  exact remainder_ne_zero_of_burst within some (shifts_injective linear)

/-- **Bursts are detected.** Of two different byte sequences of one length of which one verifies the
other does not if the bits in which they differ all stand within 16 consecutive places of what is
covered, or all in the checksum itself. Where the 16 places begin, which of their bits differ and
how long the sequences are makes no difference. -/
theorem bursts_are_detected {a b : List UInt8} (same : b.length = a.length)
    (ok : verify a = true) (other : b ≠ a) :
    let covered := 8 * (a.length - size)
    (∀ start stop, stop ≤ start + 16 → stop ≤ covered → Within start stop (apart a b) →
      verify b = false) ∧
    (Within covered (8 * a.length) (apart a b) → verify b = false) := by
  intro covered
  obtain ⟨text, low, high, rfl⟩ := exists_append_pair (enough_of_verify ok)
  obtain ⟨text', low', high', rfl⟩ := exists_append_pair (same ▸ enough_of_verify ok)
  have long : text.length = text'.length := by simpa using same.symm
  have split := apart_append long [low, high] [low', high']
  have front : (apart text text').length = covered := by
    rw [length_apart long]
    simp [covered, size]
  rw [verify_append] at ok
  rw [split]
  constructor
  · intro start stop few inside within
    by_contra accepted
    rw [Bool.not_eq_false, verify_append] at accepted
    -- Nothing differs behind the text, so its checksum is the other one's.
    have words : [low, high] = [low', high'] :=
      eq_of_apart rfl (within.not_mem_right (front ▸ inside))
    obtain ⟨rfl, rfl⟩ : low = low' ∧ high = high' := by simpa using words
    obtain rfl := eq_of_burst long (within.left.mono few) (ok.symm.trans accepted)
    exact other rfl
  · intro within
    by_contra accepted
    rw [Bool.not_eq_false, verify_append] at accepted
    obtain rfl := eq_of_apart long (within.not_mem_left (Nat.le_of_eq front))
    obtain ⟨rfl, rfl⟩ := wordOf_inj.1 (ok.trans accepted.symm)
    exact other rfl

/-- A frame with a burst over three bytes that begins and ends inside of them, and with one over
both bytes of its checksum. -/
theorem bursts_are_detected_across_bytes :
    let frame : List UInt8 := [0xA5, 2, 0x30, 0, 7, 0, 0xC4, 0x5D]
    let burst : List UInt8 := [0xA5, 2, 0x3F, 0x81, 0xF7, 0, 0xC4, 0x5D]
    let ending : List UInt8 := [0xA5, 2, 0x30, 0, 7, 0, 0x61, 0x07]
    verify frame = true ∧ Within 20 36 (apart frame burst) ∧ verify burst = false ∧
      Within 48 64 (apart frame ending) ∧ verify ending = false := by
  intro frame burst ending
  have ok : verify frame = true := by decide +kernel
  have inside : Within 20 36 (apart frame burst) := by decide +kernel
  have behind : Within 48 64 (apart frame ending) := by decide +kernel
  have same : burst.length = frame.length := rfl
  have same' : ending.length = frame.length := rfl
  have changed : burst ≠ frame := by decide +kernel
  have changed' : ending ≠ frame := by decide +kernel
  have detected := (bursts_are_detected same ok changed).1 20 36 (by decide) (by decide) inside
  have detected' := (bursts_are_detected same' ok changed').2 behind
  exact ⟨ok, inside, detected, behind, detected'⟩

end SerialLink.Checksum
