import SerialLink.Proofs.Wire.Layout
import SerialLink.Proofs.Wire.Register

/-!
# A changed byte is detected

Bytes that verify are a text and the word of its checksum (`verify_append`), and a frame reads back
exactly when its bytes verify (`decode_eq_ok_iff_verify`). Of two byte sequences that differ in one
byte at most one verifies, wherever the byte stands: the checksum tells a changed text, and a
changed half of the word is another word (`byte_eq_of_verify`).
-/

namespace SerialLink

namespace Checksum

theorem wordOf_inj {low high low' high' : UInt8} :
    wordOf low high = wordOf low' high' ↔ low = low' ∧ high = high' := by
  constructor
  · intro same
    have bytes := congrArg wordBytes same
    simpa using bytes
  · rintro ⟨rfl, rfl⟩
    rfl

theorem exists_append_pair {bytes : List UInt8} (enough : 2 ≤ bytes.length) :
    ∃ text low high, bytes = text ++ [low, high] := by
  have two : (bytes.drop (bytes.length - 2)).length = 2 := by
    rw [List.length_drop]
    omega
  obtain ⟨low, high, behind⟩ := List.length_eq_two.1 two
  refine ⟨bytes.take (bytes.length - 2), low, high, ?_⟩
  rw [← behind, List.take_append_drop]

@[simp] theorem verify_append (text : List UInt8) (low high : UInt8) :
    verify (text ++ [low, high]) = true ↔ wordOf low high = compute text := by
  simp [verify, wordAt, size]

theorem enough_of_verify {bytes : List UInt8} (ok : verify bytes = true) : 2 ≤ bytes.length := by
  rw [verify, Bool.and_eq_true] at ok
  exact of_decide_eq_true ok.1

/-- Two byte sequences that verify do not differ in one byte alone. -/
theorem byte_eq_of_verify {front back : List UInt8} {b b' : UInt8}
    (ok : verify (front ++ b :: back) = true) (ok' : verify (front ++ b' :: back) = true) :
    b = b' := by
  match back with
  | [] =>
    rcases List.eq_nil_or_concat front with rfl | ⟨text, low, rfl⟩
    · have := enough_of_verify ok
      simp at this
    · rw [List.concat_eq_append, List.append_assoc, List.singleton_append, verify_append] at ok ok'
      exact (wordOf_inj.1 (ok.trans ok'.symm)).2
  | [high] =>
    rw [verify_append] at ok ok'
    exact (wordOf_inj.1 (ok.trans ok'.symm)).1
  | first :: second :: more =>
    have enough : 2 ≤ (first :: second :: more).length := by simp
    obtain ⟨text, low, high, split⟩ := exists_append_pair enough
    rw [split, ← List.cons_append, ← List.append_assoc, verify_append] at ok ok'
    by_contra other
    exact compute_ne_of_byte front text other (ok.symm.trans ok')

end Checksum

namespace Wire

/-- A frame of the length that its header declares is given back exactly when its bytes verify. -/
theorem decode_eq_ok_iff_verify {h : Header} {rest : List UInt8}
    (complete : rest.length = h.bodySize + Checksum.size) :
    (∃ f, decode (marker :: (h.bytes ++ rest)) = .ok f) ↔
      Checksum.verify (marker :: (h.bytes ++ rest)) = true := by
  have enough : 2 ≤ rest.length := by simp [complete, Checksum.size]
  obtain ⟨body, low, high, rfl⟩ := Checksum.exists_append_pair enough
  have long : h.bodySize = body.length := by simpa [Checksum.size] using complete.symm
  have split : marker :: (h.bytes ++ (body ++ [low, high])) =
      (marker :: h.bytes ++ body) ++ [low, high] := by simp
  rw [decode_of_complete complete, split, Checksum.verify_append]
  simp only [checked_eq_ok_iff, exists_and_left, exists_eq, and_true]
  simp [long, Checksum.wordAt, eq_comm]

end Wire

end SerialLink
