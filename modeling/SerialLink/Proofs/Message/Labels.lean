import Mathlib.Data.List.TakeWhile
import SerialLink.Proofs.Message.Bijection
import SerialLink.Proofs.Text.Utf8

/-!
# Labels read back

A label holds the longest start of a text that has room, and zeros behind it (`bytes_ofText`); what is
read back ends at the first NUL of the text (`text_ofText`). Characters are never cut, so nothing but
the text is read, also on the far side of a frame (`labels_read_back`), and a text that was read back
makes a label that reads the same.
-/

namespace SerialLink

namespace Utf8

/-- Only a NUL is written with a zero byte. -/
theorem ne_zero_of_mem_char {c : Char} (visible : c ≠ '\x00') {b : UInt8}
    (byte : b ∈ String.utf8EncodeChar c) : b ≠ 0 := by
  have positive : c.toNat ≠ 0 := fun zero => visible (Char.toNat_inj.1 zero)
  have least {n : Nat} (small : n < 256) (some : n ≠ 0) : UInt8.ofNat n ≠ 0 := fun zero =>
    some ((toNat_ofNat_of_lt small).symm.trans (congrArg UInt8.toNat zero))
  by_cases one : c.toNat ≤ 0x7F
  · rw [bytes_of_one one] at byte
    obtain rfl := List.mem_singleton.1 byte
    exact least (by omega) positive
  by_cases two : c.toNat ≤ 0x7FF
  · rw [bytes_of_two (by omega) two] at byte
    simp only [List.mem_cons, List.not_mem_nil, or_false] at byte
    obtain rfl | rfl := byte <;> exact least (by omega) (by omega)
  by_cases three : c.toNat ≤ 0xFFFF
  · rw [bytes_of_three (by omega) three] at byte
    simp only [List.mem_cons, List.not_mem_nil, or_false] at byte
    obtain rfl | rfl | rfl := byte <;> exact least (by omega) (by omega)
  · rw [bytes_of_four (by omega)] at byte
    simp only [List.mem_cons, List.not_mem_nil, or_false] at byte
    obtain rfl | rfl | rfl | rfl := byte <;> exact least (by omega) (by omega)

/-- The bytes in front of the first zero are those of the characters in front of the first NUL. -/
theorem takeWhile_encode (text : List Char) (zeros : Nat) :
    (encode text ++ List.replicate zeros 0).takeWhile (· ≠ 0) =
      encode (text.takeWhile (· ≠ '\x00')) := by
  induction text with
  | nil => cases zeros <;> rfl
  | cons c text ih =>
    by_cases nul : c = '\x00'
    · rw [List.takeWhile_cons_of_neg (by simp [nul])]
      rw [nul]
      rfl
    · rw [List.takeWhile_cons_of_pos (by simp [nul]), encode, List.flatMap_cons, List.append_assoc,
        List.takeWhile_append_of_pos fun b byte => by simpa using ne_zero_of_mem_char nul byte]
      exact congrArg (String.utf8EncodeChar c ++ ·) ih

end Utf8

namespace LabelField

variable (text : String)

/-- The characters that a label of a text holds. -/
def held : List Char :=
  Utf8.fitting labelRoom text.toList

theorem longest_held : Utf8.LongestStart labelRoom text.toList (held text) :=
  Utf8.longest_fitting labelRoom text.toList

theorem bytes_ofText :
    (ofText text).bytes =
      Utf8.encode (held text) ++ List.replicate (labelRoom - (Utf8.encode (held text)).length) 0 := by
  have fits := (longest_held text).fits
  show (Utf8.encode (held text) ++ List.replicate labelRoom 0).take labelRoom = _
  rw [List.take_append, List.take_of_length_le fits, List.take_replicate]
  congr 2
  omega

theorem text_ofText : (ofText text).text.toList = (held text).takeWhile (· ≠ '\x00') := by
  rw [LabelField.text, bytes_ofText, Utf8.takeWhile_encode, Utf8.decode_encode, String.toList_ofList]

/-- A text that was read back has room. -/
theorem held_text_ofText : held (ofText text).text = (ofText text).text.toList := by
  have again := longest_held (ofText text).text
  have fits : (Utf8.encode (ofText text).text.toList).length ≤ labelRoom := by
    rw [text_ofText]
    exact (Utf8.length_encode_le_of_start (List.takeWhile_prefix _)).trans (longest_held text).fits
  have whole := again.longest _ (List.prefix_refl _) fits
  exact again.isStart.eq_of_length_le whole.length_le

/-- A text that was read back reads the same again. -/
theorem text_ofText_text : (ofText (ofText text).text).text = (ofText text).text := by
  rw [← String.toList_inj, text_ofText, held_text_ofText, text_ofText, List.takeWhile_idem]

end LabelField

/-- **Labels read back.** A label holds the bytes of the longest start of its text, in whole
characters, that takes at most ten, and zeros behind them. It is encoded as a frame that reads back
as a label of the same variable with the same field. What is read from it is that start up to its
first NUL: it has no replacement character besides those of the text, and a label made of it reads the
same again. Of a text that is longer than ten bytes a label holds seven or more. -/
theorem labels_read_back (id : UInt16) (text : String) :
    ∃ start : List Char, Utf8.LongestStart 10 text.toList start ∧
      (LabelField.ofText text).bytes =
        Utf8.encode start ++ List.replicate (10 - (Utf8.encode start).length) 0 ∧
      (∃ frame field, (Message.label id (.ofText text)).encode = .ok frame ∧
        MessageKind.label.ofFrame frame = .ok (.label id field) ∧
        field.text.toList = start.takeWhile (· ≠ '\x00') ∧
        field.text.toList.count Utf8.replacement ≤ text.toList.count Utf8.replacement ∧
        (LabelField.ofText field.text).text = field.text) ∧
      (10 < text.utf8ByteSize → 7 ≤ (Utf8.encode start).length) := by
  have longest := LabelField.longest_held text
  have read := LabelField.text_ofText text
  refine ⟨LabelField.held text, longest, LabelField.bytes_ofText text, ?_, fun long => ?_⟩
  · have back := MessageKind.ofFrame_request .label (.label id (.ofText text)) []
    rw [List.append_nil, if_pos (by rfl)] at back
    have isStart : (LabelField.ofText text).text.toList <+: text.toList := by
      rw [read]
      exact (List.takeWhile_prefix _).trans longest.isStart
    exact ⟨_, .ofText text, Message.encode_eq _, back, read, isStart.sublist.count_le _,
      LabelField.text_ofText_text text⟩
  · rw [← Utf8.length_encode_toList] at long
    have nearly := Utf8.room_lt_fitting long
    show 7 ≤ (Utf8.encode (Utf8.fitting labelRoom text.toList)).length
    rw [labelRoom]
    omega

end SerialLink
