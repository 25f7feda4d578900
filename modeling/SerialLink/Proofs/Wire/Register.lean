import SerialLink.Wire.Checksum

/-!
# The checksum register

A shift is linear in exclusive or (`shift_xor`) and loses nothing (`shift_injective`). Taking a byte
from the table is the same as eight shifts of the register with the byte added to its upper half
(`step_eq_shifts`), so no step forgets what was in the register or which byte it took: two texts
that differ in one byte have different checksums (`compute_ne_of_byte`).
-/

namespace SerialLink.Checksum

/-- The top bit of a register, as the test of a shift sees it. -/
theorem and_top (r : UInt16) : r &&& 0x8000 = if r.toBitVec.msb then 0x8000 else 0 := by
  apply UInt16.toBitVec_inj.1
  have top : (0x8000 : UInt16).toBitVec = BitVec.twoPow 16 15 := by decide
  rw [UInt16.toBitVec_and, top, BitVec.and_twoPow]
  simp only [BitVec.msb_eq_getLsbD_last, Nat.add_one_sub_one]
  split <;> simp_all

theorem shift_eq (r : UInt16) :
    shift r = (r <<< 1) ^^^ (if r.toBitVec.msb then polynomial else 0) := by
  unfold shift
  rw [and_top]
  cases r.toBitVec.msb <;> simp

/-- A shift is linear. -/
theorem shift_xor (a b : UInt16) : shift (a ^^^ b) = shift a ^^^ shift b := by
  simp only [shift_eq, UInt16.toBitVec_xor, BitVec.msb_xor, UInt16.shiftLeft_xor]
  cases a.toBitVec.msb <;> cases b.toBitVec.msb <;> simp
  · rw [UInt16.xor_assoc]
  · rw [UInt16.xor_assoc, UInt16.xor_assoc, UInt16.xor_comm polynomial]
  · rw [UInt16.xor_assoc (a <<< 1), UInt16.xor_comm (b <<< 1), ← UInt16.xor_assoc polynomial,
      UInt16.xor_self, UInt16.zero_xor]

theorem toNat_shift_of_lt {r : UInt16} (h : 2 * r.toNat < 65536) :
    (shift r).toNat = 2 * r.toNat := by
  have low : r.toBitVec.msb = false := by
    rw [BitVec.msb_eq_decide]
    simp
    omega
  rw [shift_eq, low]
  simp [Nat.shiftLeft_eq]
  omega

/-- The generator is odd, so a register that a shift clears was clear. -/
theorem eq_zero_of_shift {d : UInt16} (h : shift d = 0) : d = 0 := by
  rw [shift_eq, UInt16.xor_eq_zero_iff] at h
  have moved : (d <<< 1).toNat = 2 * d.toNat % 65536 := by
    simp [Nat.shiftLeft_eq, Nat.mul_comm]
  have := d.toNat_lt
  rw [h, BitVec.msb_eq_decide] at moved
  split at moved
  · -- A one fell out, so what is left is the generator: odd, and twice something.
    have odd : polynomial.toNat = 4129 := by decide
    omega
  · next low =>
    simp only [UInt16.toNat_toBitVec, decide_eq_true_eq] at low
    simp only [UInt16.toNat_zero] at moved
    exact UInt16.toNat_inj.1 (by simp only [UInt16.toNat_zero]; omega)

/-- A shift loses nothing. -/
theorem shift_injective {a b : UInt16} (h : shift a = shift b) : a = b := by
  apply UInt16.xor_eq_zero_iff.1
  apply eq_zero_of_shift
  rw [shift_xor, h, UInt16.xor_self]

theorem shifts_xor (n : Nat) (a b : UInt16) : shifts n (a ^^^ b) = shifts n a ^^^ shifts n b := by
  induction n generalizing a b with
  | zero => rfl
  | succ n ih => rw [shifts, shifts, shifts, shift_xor, ih]

theorem shifts_injective {n : Nat} {a b : UInt16} (h : shifts n a = shifts n b) : a = b := by
  induction n generalizing a b with
  | zero => exact h
  | succ n ih => exact shift_injective (ih h)

/-- A register whose top bits are clear only moves up. -/
theorem toNat_shifts_of_lt (n : Nat) {r : UInt16} (h : r.toNat <<< n < 65536) :
    (shifts n r).toNat = r.toNat <<< n := by
  induction n generalizing r with
  | zero => rfl
  | succ n ih =>
    rw [Nat.shiftLeft_succ_inside] at h ⊢
    have once : (shift r).toNat = 2 * r.toNat :=
      toNat_shift_of_lt (Nat.lt_of_le_of_lt (Nat.le_shiftLeft) h)
    rw [shifts, ih (once ▸ h), once]

/-- The lower half of a register only moves up through eight shifts. -/
theorem shifts_lower (low : UInt8) : shifts 8 low.toUInt16 = low.toUInt16 <<< 8 := by
  apply UInt16.toNat_inj.1
  have := low.toNat_lt
  rw [toNat_shifts_of_lt 8 (by simp [Nat.shiftLeft_eq]; omega)]
  simp [Nat.shiftLeft_eq]
  omega

/-- A register is its two halves. -/
theorem halves (r : UInt16) : ((r >>> 8).toUInt8.toUInt16 <<< 8) ^^^ r.toUInt8.toUInt16 = r := by
  apply UInt16.toBitVec_inj.1
  apply BitVec.eq_of_getLsbD_eq
  intro i hi
  have eight : UInt16.toBitVec 8 % 16 = 8#16 := by decide
  simp only [UInt16.toBitVec_xor, UInt16.toBitVec_shiftLeft, UInt8.toBitVec_toUInt16,
    UInt16.toBitVec_toUInt8, UInt16.toBitVec_shiftRight, BitVec.getLsbD_xor, eight,
    BitVec.shiftLeft_eq', BitVec.ushiftRight_eq', BitVec.getLsbD_shiftLeft, BitVec.getLsbD_setWidth,
    BitVec.getLsbD_ushiftRight]
  by_cases h : i < 8
  · simp [h, hi]
  · have upper : i - 8 < 8 := by omega
    have back : 8 + (i - 8) = i := by omega
    simp [h, hi, upper, back]
    omega

/-- The upper half falls out of a register that moves up by eight places. -/
theorem shiftLeft_eight (r : UInt16) : r <<< 8 = r.toUInt8.toUInt16 <<< 8 := by
  apply UInt16.toNat_inj.1
  simp [Nat.shiftLeft_eq]
  omega

/-- An entry of the table by the byte that it stands for. -/
theorem table_get (i : UInt8) : table.get ⟨i.toNat, i.toNat_lt⟩ = shifts 8 (i.toUInt16 <<< 8) := by
  have bound : i.toNat < 256 := i.toNat_lt
  have same : UInt16.ofNat i.toNat = i.toUInt16 := UInt16.toNat_inj.1 (by simp)
  show table[i.toNat] = _
  simp only [table, Vector.getElem_ofFn, same]

/-- A step from the table is eight shifts with the byte added to the upper half. -/
theorem step_eq_shifts (r : UInt16) (b : UInt8) :
    step r b = shifts 8 (r ^^^ (b.toUInt16 <<< 8)) := by
  have sum : r ^^^ (b.toUInt16 <<< 8) =
      (((r >>> 8).toUInt8 ^^^ b).toUInt16 <<< 8) ^^^ r.toUInt8.toUInt16 := by
    conv => lhs; rw [← halves r]
    rw [UInt16.xor_assoc, UInt16.xor_comm r.toUInt8.toUInt16, ← UInt16.xor_assoc,
      ← UInt16.shiftLeft_xor, UInt8.toUInt16_xor]
  rw [step, sum, shifts_xor, shifts_lower, table_get, shiftLeft_eight, UInt16.xor_comm]

theorem step_injective_left {r r' : UInt16} {b : UInt8} (h : step r b = step r' b) : r = r' := by
  rw [step_eq_shifts, step_eq_shifts] at h
  exact (UInt16.xor_left_inj _).1 (shifts_injective h)

theorem step_injective_right {r : UInt16} {b b' : UInt8} (h : step r b = step r b') : b = b' := by
  rw [step_eq_shifts, step_eq_shifts] at h
  have same := (UInt16.xor_right_inj _).1 (shifts_injective h)
  apply UInt8.toNat_inj.1
  have := congrArg UInt16.toNat same
  simp [Nat.shiftLeft_eq] at this
  have := b.toNat_lt
  have := b'.toNat_lt
  omega

theorem foldl_step_injective {bytes : List UInt8} {r r' : UInt16}
    (h : bytes.foldl step r = bytes.foldl step r') : r = r' := by
  induction bytes generalizing r r' with
  | nil => exact h
  | cons b bytes ih => exact step_injective_left (ih h)

/-- A change of one byte changes the checksum. -/
theorem compute_ne_of_byte (front back : List UInt8) {b b' : UInt8} (h : b ≠ b') :
    compute (front ++ b :: back) ≠ compute (front ++ b' :: back) := by
  intro same
  simp only [compute, List.foldl_append, List.foldl_cons] at same
  exact h (step_injective_right (foldl_step_injective same))

end SerialLink.Checksum
