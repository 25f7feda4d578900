import Mathlib.Logic.Function.Iterate
import SerialLink.Proofs.Wire.Register

/-!
# The checksum bit by bit

The checksum is CRC-16/CCITT-FALSE, which has a definition without a table and without words: the
register is a number of 16 places, a byte is added to its upper half, and then it moves up eight
times, each time bringing in the generator if a one comes out at the top (`bitwise`). A shift of a
word is one such move (`toNat_shift`), a byte taken from the table is eight of them behind the sum
(`toNat_step`), and so the checksum of any bytes is their bitwise one (`checksum_is_bitwise`).
-/

namespace SerialLink.Checksum

/-- A register of 16 places moves up by one. What comes out at the top is lost; if it was a one, the
generator is added to what is left. -/
def moveUp (register : Nat) : Nat :=
  let moved := 2 * register % 0x10000
  if 2 * register / 0x10000 = 1 then moved ^^^ 0x1021 else moved

/-- A byte is added to the upper half of the register, which then moves up eight times. -/
def takeByte (register : Nat) (byte : UInt8) : Nat :=
  moveUp^[8] (register ^^^ 0x100 * byte.toNat)

/-- The checksum of some bytes, bit by bit. -/
def bitwise (bytes : List UInt8) : Nat :=
  bytes.foldl takeByte 0xFFFF

/-- The bit that comes out at the top of a register is its highest. -/
theorem carry_eq_one_iff (r : UInt16) :
    2 * r.toNat / 0x10000 = 1 ↔ r.toBitVec.msb = true := by
  have := r.toNat_lt
  rw [BitVec.msb_eq_decide, decide_eq_true_iff, UInt16.toNat_toBitVec]
  omega

theorem toNat_shift (r : UInt16) : (shift r).toNat = moveUp r.toNat := by
  have moved : (r <<< 1).toNat = 2 * r.toNat % 0x10000 := by
    simp [Nat.shiftLeft_eq, Nat.mul_comm]
  have generator : polynomial.toNat = 0x1021 := by decide
  rw [shift_eq, UInt16.toNat_xor, moved, moveUp]
  by_cases carry : r.toBitVec.msb = true
  · rw [if_pos carry, if_pos ((carry_eq_one_iff r).2 carry), generator]
  · rw [if_neg carry, if_neg fun out => carry ((carry_eq_one_iff r).1 out), UInt16.toNat_zero,
      Nat.xor_zero]

theorem toNat_shifts (n : Nat) (r : UInt16) : (shifts n r).toNat = moveUp^[n] r.toNat := by
  induction n generalizing r with
  | zero => rfl
  | succ n ih => rw [shifts, ih, toNat_shift, Function.iterate_succ_apply]

/-- A byte in the upper half of an empty register. -/
theorem toNat_upper (b : UInt8) : (b.toUInt16 <<< 8).toNat = 0x100 * b.toNat := by
  have := b.toNat_lt
  simp [Nat.shiftLeft_eq]
  omega

/-- A look-up in the table is a byte taken bit by bit, whatever is in the register. -/
theorem toNat_step (r : UInt16) (b : UInt8) : (step r b).toNat = takeByte r.toNat b := by
  rw [step_eq_shifts, toNat_shifts, UInt16.toNat_xor, toNat_upper, takeByte]

/-- **The table gives the bitwise checksum.** The checksum of any bytes is what the definition of
CRC-16/CCITT-FALSE makes of them: the register is `0xFFFF` at first, each byte is added to its upper
half, and behind each byte it moves up eight times within its 16 places, with `0x1021` added
whenever a one comes out. -/
theorem checksum_is_bitwise (bytes : List UInt8) : (compute bytes).toNat = bitwise bytes := by
  have start : initial.toNat = 0xFFFF := by decide
  rw [compute, bitwise, ← start]
  exact (List.foldl_hom UInt16.toNat fun r b => (toNat_step r b).symm).symm

/-- The digits from 1 to 9, for which the catalogues of checksums list this value. -/
example : bitwise [0x31, 0x32, 0x33, 0x34, 0x35, 0x36, 0x37, 0x38, 0x39] = 0x29B1 := by
  decide +kernel

end SerialLink.Checksum
