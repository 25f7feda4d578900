import Mathlib.Data.List.Infix
import SerialLink.Text.Utf8

/-!
# Text from its byte form

Reading the byte form of a text gives the text back (`decode_encode`), since each character is read
from exactly the bytes that it is written as. The start of a text that has room is the longest one
(`longest_fitting`), and falls short of the room by less than a character (`room_lt_fitting`).
-/

namespace SerialLink.Utf8

/-! ## Reading what is well formed -/

theorem continues_iff {low high b : UInt8} :
    continues low high b = true ↔ low.toNat ≤ b.toNat ∧ b.toNat ≤ high.toNat := by
  simp [continues, UInt8.le_iff_toNat_le]

/-- A second byte of three has six bits of its own, but for overlong forms and surrogates. -/
theorem continues_second3 {a b : UInt8} (tail : continues 0x80 0xBF b = true)
    (long : a.toNat = 0xE0 → 0xA0 ≤ b.toNat) (noSurrogate : a.toNat = 0xED → b.toNat ≤ 0x9F) :
    continues (second3 a).1 (second3 a).2 b = true := by
  rw [continues_iff] at tail
  unfold second3
  split
  · next first =>
    exact continues_iff.2 ⟨long (congrArg UInt8.toNat first), tail.2⟩
  · split
    · next first =>
      exact continues_iff.2 ⟨tail.1, noSurrogate (congrArg UInt8.toNat first)⟩
    · exact continues_iff.2 tail

/-- A second byte of four has six bits of its own, but for overlong forms and what is past the last
code point. -/
theorem continues_second4 {a b : UInt8} (tail : continues 0x80 0xBF b = true)
    (long : a.toNat = 0xF0 → 0x90 ≤ b.toNat) (inside : a.toNat = 0xF4 → b.toNat ≤ 0x8F) :
    continues (second4 a).1 (second4 a).2 b = true := by
  rw [continues_iff] at tail
  unfold second4
  split
  · next first =>
    exact continues_iff.2 ⟨long (congrArg UInt8.toNat first), tail.2⟩
  · split
    · next first =>
      exact continues_iff.2 ⟨tail.1, inside (congrArg UInt8.toNat first)⟩
    · exact continues_iff.2 tail

section

variable {a b c d : UInt8} (rest : List UInt8)

theorem decode_of_one (lead : a.toNat < 0x80) :
    decode (a :: rest) = Char.ofNat a.toNat :: decode rest := by
  have small : a < 0x80 := UInt8.lt_iff_toNat_lt.2 lead
  rw [decode.eq_def]
  exact if_pos small

theorem decode_of_two (least : 0xC2 ≤ a.toNat) (most : a.toNat ≤ 0xDF)
    (second : continues 0x80 0xBF b = true) :
    decode (a :: b :: rest) = char2 a b :: decode rest := by
  have large : ¬a < 0x80 := by
    rw [UInt8.lt_iff_toNat_lt]
    exact Nat.not_lt.2 (Nat.le_trans (by decide) least)
  have lead : continues 0xC2 0xDF a = true := continues_iff.2 ⟨least, most⟩
  rw [decode.eq_def]
  simp only [if_neg large, if_pos lead, if_pos second]

theorem decode_of_three (least : 0xE0 ≤ a.toNat) (most : a.toNat ≤ 0xEF)
    (second : continues (second3 a).1 (second3 a).2 b = true)
    (third : continues 0x80 0xBF c = true) :
    decode (a :: b :: c :: rest) = char3 a b c :: decode rest := by
  have large : ¬a < 0x80 := by
    rw [UInt8.lt_iff_toNat_lt]
    exact Nat.not_lt.2 (Nat.le_trans (by decide) least)
  have noTwo : ¬continues 0xC2 0xDF a = true := fun two =>
    absurd (least.trans (continues_iff.1 two).2) (by decide)
  have lead : continues 0xE0 0xEF a = true := continues_iff.2 ⟨least, most⟩
  rw [decode.eq_def]
  simp only [if_neg large, if_neg noTwo, if_pos lead, if_pos second, if_pos third]

theorem decode_of_four (least : 0xF0 ≤ a.toNat) (most : a.toNat ≤ 0xF4)
    (second : continues (second4 a).1 (second4 a).2 b = true)
    (third : continues 0x80 0xBF c = true) (fourth : continues 0x80 0xBF d = true) :
    decode (a :: b :: c :: d :: rest) = char4 a b c d :: decode rest := by
  have large : ¬a < 0x80 := by
    rw [UInt8.lt_iff_toNat_lt]
    exact Nat.not_lt.2 (Nat.le_trans (by decide) least)
  have noTwo : ¬continues 0xC2 0xDF a = true := fun two =>
    absurd (least.trans (continues_iff.1 two).2) (by decide)
  have noThree : ¬continues 0xE0 0xEF a = true := fun three =>
    absurd (least.trans (continues_iff.1 three).2) (by decide)
  have lead : continues 0xF0 0xF4 a = true := continues_iff.2 ⟨least, most⟩
  rw [decode.eq_def]
  simp only [if_neg large, if_neg noTwo, if_neg noThree, if_pos lead, if_pos second, if_pos third,
    if_pos fourth]

end

/-! ## The byte form -/

theorem toNat_ofNat_of_lt {n : Nat} (small : n < 256) : (UInt8.ofNat n).toNat = n := by
  rw [UInt8.toNat_ofNat']
  omega

/-- A byte that is made of six bits continues a sequence. -/
theorem continues_tail (n : Nat) : continues 0x80 0xBF (UInt8.ofNat (n % 64 + 0x80)) = true := by
  rw [continues_iff, toNat_ofNat_of_lt (by omega)]
  have : (0x80 : UInt8).toNat = 0x80 := rfl
  have : (0xBF : UInt8).toNat = 0xBF := rfl
  omega

theorem payload_tail (n : Nat) : payload (UInt8.ofNat (n % 64 + 0x80)) = n % 64 := by
  rw [payload, toNat_ofNat_of_lt (by omega)]
  omega

section

variable {c : Char}

theorem bytes_of_one (one : c.toNat ≤ 0x7F) : String.utf8EncodeChar c = [UInt8.ofNat c.toNat] :=
  if_pos one

theorem bytes_of_two (least : 0x7F < c.toNat) (most : c.toNat ≤ 0x7FF) :
    String.utf8EncodeChar c =
      [UInt8.ofNat (c.toNat / 64 % 32 + 0xC0), UInt8.ofNat (c.toNat % 64 + 0x80)] :=
  (if_neg (Nat.not_le.2 least)).trans (if_pos most)

theorem bytes_of_three (least : 0x7FF < c.toNat) (most : c.toNat ≤ 0xFFFF) :
    String.utf8EncodeChar c =
      [UInt8.ofNat (c.toNat / 4096 % 16 + 0xE0), UInt8.ofNat (c.toNat / 64 % 64 + 0x80),
        UInt8.ofNat (c.toNat % 64 + 0x80)] :=
  have notOne : ¬c.toNat ≤ 0x7F := by omega
  (if_neg notOne).trans ((if_neg (Nat.not_le.2 least)).trans (if_pos most))

theorem bytes_of_four (least : 0xFFFF < c.toNat) :
    String.utf8EncodeChar c =
      [UInt8.ofNat (c.toNat / 262144 % 8 + 0xF0), UInt8.ofNat (c.toNat / 4096 % 64 + 0x80),
        UInt8.ofNat (c.toNat / 64 % 64 + 0x80), UInt8.ofNat (c.toNat % 64 + 0x80)] :=
  have notOne : ¬c.toNat ≤ 0x7F := by omega
  have notTwo : ¬c.toNat ≤ 0x7FF := by omega
  (if_neg notOne).trans ((if_neg notTwo).trans (if_neg (Nat.not_le.2 least)))

end

/-- A character is read from the bytes that it is written as. -/
theorem decode_char (c : Char) (rest : List UInt8) :
    decode (String.utf8EncodeChar c ++ rest) = c :: decode rest := by
  have valid : c.toNat < 0xD800 ∨ 0xDFFF < c.toNat ∧ c.toNat < 0x110000 := c.valid
  have back {n : Nat} (same : n = c.toNat) : Char.ofNat n = c := same ▸ Char.ofNat_toNat c
  by_cases one : c.toNat ≤ 0x7F
  · have lead : (UInt8.ofNat c.toNat).toNat = c.toNat := toNat_ofNat_of_lt (by omega)
    rw [bytes_of_one one, List.cons_append, List.nil_append, decode_of_one rest (by omega),
      back lead]
  by_cases two : c.toNat ≤ 0x7FF
  · have lead : (UInt8.ofNat (c.toNat / 64 % 32 + 0xC0)).toNat = c.toNat / 64 + 0xC0 := by
      rw [toNat_ofNat_of_lt (by omega)]
      omega
    rw [bytes_of_two (by omega) two, List.cons_append, List.cons_append, List.nil_append,
      decode_of_two rest (by omega) (by omega) (continues_tail _), char2, lead, payload_tail,
      back (by omega)]
  by_cases three : c.toNat ≤ 0xFFFF
  · have lead : (UInt8.ofNat (c.toNat / 4096 % 16 + 0xE0)).toNat = c.toNat / 4096 + 0xE0 := by
      rw [toNat_ofNat_of_lt (by omega)]
      omega
    have next : (UInt8.ofNat (c.toNat / 64 % 64 + 0x80)).toNat = c.toNat / 64 % 64 + 0x80 :=
      toNat_ofNat_of_lt (by omega)
    have second := continues_second3 (continues_tail (c.toNat / 64))
      (a := UInt8.ofNat (c.toNat / 4096 % 16 + 0xE0)) (by omega) (by omega)
    rw [bytes_of_three (by omega) three, List.cons_append, List.cons_append, List.cons_append,
      List.nil_append, decode_of_three rest (by omega) (by omega) second (continues_tail _), char3,
      lead, payload_tail, payload_tail, back (by omega)]
  · have lead : (UInt8.ofNat (c.toNat / 262144 % 8 + 0xF0)).toNat = c.toNat / 262144 + 0xF0 := by
      rw [toNat_ofNat_of_lt (by omega)]
      omega
    have next : (UInt8.ofNat (c.toNat / 4096 % 64 + 0x80)).toNat = c.toNat / 4096 % 64 + 0x80 :=
      toNat_ofNat_of_lt (by omega)
    have second := continues_second4 (continues_tail (c.toNat / 4096))
      (a := UInt8.ofNat (c.toNat / 262144 % 8 + 0xF0)) (by omega) (by omega)
    rw [bytes_of_four (by omega), List.cons_append, List.cons_append, List.cons_append,
      List.cons_append, List.nil_append, decode_of_four rest (by omega) (by omega) second
        (continues_tail _) (continues_tail _), char4, lead, payload_tail, payload_tail, payload_tail,
      back (by omega)]

/-- The byte form of a text is read as that text. -/
theorem decode_encode (text : List Char) : decode (encode text) = text := by
  induction text with
  | nil => rw [encode, List.flatMap_nil, decode]
  | cons c text ih =>
    rw [encode, List.flatMap_cons, decode_char]
    exact congrArg (c :: ·) ih

/-! ## What has room -/

theorem length_encode_cons (c : Char) (text : List Char) :
    (encode (c :: text)).length = c.utf8Size + (encode text).length := by
  rw [encode, List.flatMap_cons, List.length_append, String.length_utf8EncodeChar]
  rfl

theorem length_encode_le_of_start {start text : List Char} (isStart : start <+: text) :
    (encode start).length ≤ (encode text).length := by
  obtain ⟨rest, rfl⟩ := isStart
  rw [encode, encode, List.flatMap_append, List.length_append]
  exact Nat.le_add_right _ _

/-- The byte form of a text is as long as the library counts. -/
theorem length_encode_toList (text : String) :
    (encode text.toList).length = text.utf8ByteSize := by
  rw [← String.size_toByteArray, ← String.utf8Encode_toList, List.utf8Encode, encode]
  exact List.size_toByteArray.symm

/-- The longest start of a text whose byte form has at most `room` bytes. -/
structure LongestStart (room : Nat) (text start : List Char) : Prop where
  isStart : start <+: text
  fits : (encode start).length ≤ room
  longest : ∀ other, other <+: text → (encode other).length ≤ room → other <+: start

theorem longest_fitting (room : Nat) (text : List Char) :
    LongestStart room text (fitting room text) := by
  induction text generalizing room with
  | nil => exact ⟨List.nil_prefix, Nat.zero_le _, fun other isStart _ => isStart⟩
  | cons c text ih =>
    unfold fitting
    split
    · next has =>
      have inner := ih (room - c.utf8Size)
      refine ⟨List.cons_prefix_cons.2 ⟨rfl, inner.isStart⟩, ?_, fun other isStart fits => ?_⟩
      · have := inner.fits
        rw [length_encode_cons]
        omega
      · cases other with
        | nil => exact List.nil_prefix
        | cons d other =>
          obtain ⟨rfl, behind⟩ := List.cons_prefix_cons.1 isStart
          rw [length_encode_cons] at fits
          exact List.cons_prefix_cons.2 ⟨rfl, inner.longest other behind (by omega)⟩
    · next lacks =>
      refine ⟨List.nil_prefix, Nat.zero_le _, fun other isStart fits => ?_⟩
      cases other with
      | nil => exact List.nil_prefix
      | cons d other =>
        obtain ⟨rfl, -⟩ := List.cons_prefix_cons.1 isStart
        rw [length_encode_cons] at fits
        omega

/-- A text without room falls short of the room by less than a character. -/
theorem room_lt_fitting {room : Nat} {text : List Char} (long : room < (encode text).length) :
    room < (encode (fitting room text)).length + 4 := by
  induction text generalizing room with
  | nil => simp [encode] at long
  | cons c text ih =>
    rw [length_encode_cons] at long
    unfold fitting
    split
    · have := ih (show room - c.utf8Size < (encode text).length by omega)
      rw [length_encode_cons]
      omega
    · have := c.utf8Size_le_four
      omega

end SerialLink.Utf8
