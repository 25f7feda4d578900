import SerialLink.Proofs.Wire.Register

/-!
# Two facts about the generator

The generator has an even number of terms, so a shift keeps the parity of the register
(`parity_shift`). And it is a long while until a single one comes back to where it was: none of the
first 2087 shifts of the lowest bit gives the lowest bit again (`shifts_one_ne_one`), which is as
far as two bits of the largest frame can stand apart.
-/

namespace SerialLink.Checksum

/-! ## Parity -/

/-- Whether an odd number of the `n` lowest bits is set. -/
def parityBelow (r : UInt16) : Nat → Bool
  | 0 => false
  | n + 1 => parityBelow r n ^^ r.toBitVec.getLsbD n

/-- Whether an odd number of a register's bits is set. -/
def parity (r : UInt16) : Bool :=
  parityBelow r 16

theorem parityBelow_xor (a b : UInt16) (n : Nat) :
    parityBelow (a ^^^ b) n = (parityBelow a n ^^ parityBelow b n) := by
  induction n with
  | zero => rfl
  | succ n ih =>
    simp only [parityBelow, ih, UInt16.toBitVec_xor, BitVec.getLsbD_xor, Bool.xor_assoc]
    rw [Bool.xor_left_comm (parityBelow b n)]

theorem parity_xor (a b : UInt16) : parity (a ^^^ b) = (parity a ^^ parity b) :=
  parityBelow_xor a b 16

/-- Moving up by one place brings a zero in at the bottom. -/
theorem parityBelow_shiftLeft (r : UInt16) {n : Nat} (within : n < 16) :
    parityBelow (r <<< 1) (n + 1) = parityBelow r n := by
  induction n with
  | zero => simp [parityBelow]
  | succ n ih =>
    have below : n < 16 := by omega
    have moved : (r <<< 1).toBitVec.getLsbD (n + 1) = r.toBitVec.getLsbD n := by
      simp [within, BitVec.getLsbD_eq_getElem below]
    rw [parityBelow, ih below, moved, parityBelow]

/-- A shift adds the generator to what has lost its top bit, and both of these have the top bit's
parity. -/
theorem parity_shift (r : UInt16) : parity (shift r) = parity r := by
  have top : r.toBitVec.getLsbD 15 = r.toBitVec.msb := by
    rw [BitVec.msb_eq_getLsbD_last]
  have generator : parity polynomial = true := by decide
  have moved : parity (r <<< 1) = parityBelow r 15 := parityBelow_shiftLeft r (by decide)
  have whole : parity r = (parityBelow r 15 ^^ r.toBitVec.msb) := by
    rw [parity, parityBelow, top]
  rw [shift_eq, parity_xor, moved, whole]
  cases r.toBitVec.msb with
  | true => rw [if_pos rfl, generator]
  | false => rfl

/-! ## The way back to a single one -/

/-- Whether one of the next `n` shifts gives the lowest bit alone. -/
def comesBack : Nat → UInt16 → Bool
  | 0, _ => false
  | n + 1, r => shift r == 1 || comesBack n (shift r)

theorem ne_one_of_not_comesBack {n : Nat} {r : UInt16} (never : comesBack n r = false) {k : Nat}
    (pos : 0 < k) (near : k ≤ n) : shifts k r ≠ 1 := by
  induction n generalizing r k with
  | zero => omega
  | succ n ih =>
    obtain ⟨k, rfl⟩ := Nat.exists_eq_succ_of_ne_zero (Nat.ne_of_gt pos)
    simp only [comesBack, Bool.or_eq_false_iff, beq_eq_false_iff_ne] at never
    cases k with
    | zero => exact never.1
    | succ k => exact ih never.2 (Nat.succ_pos k) (Nat.le_of_succ_le_succ near)

/-- The lowest bit alone does not come back over the bits of the largest frame. -/
theorem shifts_one_ne_one {k : Nat} (pos : 0 < k) (near : k ≤ 2087) : shifts k 1 ≠ 1 := by
  have never : comesBack 2087 1 = false := by decide +kernel
  exact ne_one_of_not_comesBack never pos near

end SerialLink.Checksum
