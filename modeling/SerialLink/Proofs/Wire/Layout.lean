import Mathlib.Data.List.Basic
import SerialLink.Wire.Frame

/-!
# Words, headers and frames as bytes

What is written is read back: a word from its two bytes, a header from its three, and a frame from
the start of any bytes that begin with it. `decode_header` says what `decode` makes of a marker and
a header whatever follows them; everything about reading frames is a case of it.
-/

namespace SerialLink

namespace Checksum

theorem toNat_wordOf (low high : UInt8) :
    (wordOf low high).toNat = low.toNat + 256 * high.toNat := by
  have hl := low.toNat_lt
  have hh := high.toNat_lt
  have shifted : (high.toUInt16 <<< 8).toNat = high.toNat <<< 8 := by
    simp [Nat.shiftLeft_eq]
    omega
  rw [wordOf, UInt16.toNat_or, shifted, UInt8.toNat_toUInt16, Nat.or_comm,
    ← Nat.shiftLeft_add_eq_or_of_lt hl, Nat.shiftLeft_eq]
  omega

@[simp] theorem wordOf_wordBytes (w : UInt16) : wordOf w.toUInt8 (w >>> 8).toUInt8 = w := by
  apply UInt16.toNat_inj.1
  have := w.toNat_lt
  rw [toNat_wordOf]
  simp only [UInt16.toNat_toUInt8, UInt16.toNat_shiftRight, Nat.shiftRight_eq_div_pow]
  simp
  omega

@[simp] theorem wordBytes_wordOf (low high : UInt8) :
    wordBytes (wordOf low high) = [low, high] := by
  have hl := low.toNat_lt
  have hh := high.toNat_lt
  have lower : (wordOf low high).toUInt8 = low := by
    apply UInt8.toNat_inj.1
    simp [toNat_wordOf]
  have upper : (wordOf low high >>> 8).toUInt8 = high := by
    apply UInt8.toNat_inj.1
    simp [toNat_wordOf, Nat.shiftRight_eq_div_pow]
    omega
  rw [wordBytes, lower, upper]

@[simp] theorem length_wordBytes (w : UInt16) : (wordBytes w).length = size := rfl

/-- The word behind the first bytes is the one that was written there. -/
theorem wordAt_append (front rest : List UInt8) (w : UInt16) :
    wordAt (front ++ (wordBytes w ++ rest)) front.length = w := by
  simp [wordAt, wordBytes]

end Checksum

namespace Wire

@[simp] theorem Header.bytes_ofBytes (length low high : UInt8) :
    (Header.ofBytes length low high).bytes = [length, low, high] := by
  simp [Header.bytes, Header.ofBytes]

/-- A header is given back by its bytes. -/
theorem Header.bytes_injective {h h' : Header} (same : h.bytes = h'.bytes) : h = h' := by
  obtain ⟨command, length⟩ := h
  obtain ⟨command', length'⟩ := h'
  simp only [Header.bytes, Checksum.wordBytes, List.cons.injEq, and_true] at same
  obtain ⟨rfl, low, high⟩ := same
  rw [← Checksum.wordOf_wordBytes command, low, high, Checksum.wordOf_wordBytes]

/-- Enough bytes begin with a header. -/
theorem exists_header_append {bytes : List UInt8} (long : headerSize ≤ bytes.length) :
    ∃ (h : Header) (rest : List UInt8), bytes = h.bytes ++ rest := by
  match bytes, long with
  | length :: low :: high :: rest, _ => exact ⟨.ofBytes length low high, rest, by simp⟩

/-- The covered part of a frame: marker, header and body. -/
def covered (command : UInt16) (body : List UInt8) : List UInt8 :=
  marker :: (Header.mk command (UInt8.ofNat body.length)).bytes ++ body

/-- The bytes of a frame. -/
def frameBytes (command : UInt16) (body : List UInt8) : List UInt8 :=
  covered command body ++ Checksum.wordBytes (Checksum.compute (covered command body))

@[simp] theorem length_covered (command : UInt16) (body : List UInt8) :
    (covered command body).length = 4 + body.length := by
  simp [covered, headerSize]
  omega

/-- Every frame is `overhead` bytes longer than its body. -/
@[simp] theorem length_frameBytes (command : UInt16) (body : List UInt8) :
    (frameBytes command body).length = overhead + body.length := by
  simp [frameBytes, overhead, Checksum.size]
  omega

/-- What `decode` makes of a marker and a header: too little behind them is a frame cut short, and
otherwise the body and the checksum are taken by the header's length. -/
theorem decode_header (h : Header) (rest : List UInt8) :
    decode (marker :: (h.bytes ++ rest)) =
      if rest.length < h.bodySize + Checksum.size then
        .error (.truncated h.frameSize (4 + rest.length))
      else checked h (rest.take h.bodySize) (Checksum.wordAt rest h.bodySize) := by
  have same : Header.ofBytes h.bodyLength h.command.toUInt8 (h.command >>> 8).toUInt8 = h := by
    simp [Header.ofBytes]
  have long : (marker :: (h.bytes ++ rest)).length = 4 + rest.length := by
    simp [headerSize]
    omega
  have short : 4 + rest.length < h.frameSize ↔ rest.length < h.bodySize + Checksum.size := by
    simp only [Header.frameSize, overhead, Checksum.size]
    omega
  simp only [decode, Header.bytes, Checksum.wordBytes, List.cons_append, List.nil_append, same,
    ne_eq, not_true_eq_false, if_false] at long ⊢
  rw [long]
  simp only [short]

theorem decode_of_complete {h : Header} {rest : List UInt8}
    (complete : rest.length = h.bodySize + Checksum.size) :
    decode (marker :: (h.bytes ++ rest)) =
      checked h (rest.take h.bodySize) (Checksum.wordAt rest h.bodySize) := by
  rw [decode_header, if_neg (by omega)]

/-- The checksum agrees exactly when the frame is given back. -/
theorem checked_eq_ok_iff {h : Header} {body : List UInt8} {received : UInt16} {f : Frame} :
    checked h body received = .ok f ↔
      Checksum.compute (marker :: h.bytes ++ body) = received ∧ f = ⟨h, body, received⟩ := by
  simp only [checked]
  split
  · next same =>
    rw [Except.ok.injEq, eq_comm]
    exact (and_iff_right same).symm
  · next differ => exact iff_of_false (by simp) fun h => differ h.1

/-- A check that fails tells the two checksums. -/
theorem checked_eq_error_iff {h : Header} {body : List UInt8} {received : UInt16} {fault : Fault} :
    checked h body received = .error fault ↔
      Checksum.compute (marker :: h.bytes ++ body) ≠ received ∧
        fault = .checksumMismatch (Checksum.compute (marker :: h.bytes ++ body)) received := by
  simp only [checked]
  split
  · next same => exact iff_of_false (by simp) fun h => h.1 same
  · next differ =>
    rw [Except.error.injEq, eq_comm]
    exact (and_iff_right differ).symm

/-- Whatever is read as a frame is a marker, the frame's header and enough bytes behind them. -/
theorem header_of_decode {bytes : List UInt8} {f : Frame} (ok : decode bytes = .ok f) :
    ∃ rest, bytes = marker :: (f.header.bytes ++ rest) ∧
      f.header.bodySize + Checksum.size ≤ rest.length ∧
      checked f.header (rest.take f.header.bodySize) (Checksum.wordAt rest f.header.bodySize) =
        .ok f := by
  match bytes with
  | [] => simp [decode] at ok
  | [first] | [first, _] | [first, _, _] =>
    simp only [decode] at ok
    split at ok <;> cases ok
  | first :: length :: low :: high :: rest =>
    by_cases marked : first = marker
    · subst marked
      have split : marker :: length :: low :: high :: rest =
          marker :: ((Header.ofBytes length low high).bytes ++ rest) := by simp
      rw [split, decode_header] at ok
      split at ok
      · cases ok
      · next enough =>
        have same : f.header = Header.ofBytes length low high :=
          congrArg Frame.header (checked_eq_ok_iff.1 ok).2
        exact ⟨rest, by rw [same, split], by rw [same]; omega, by rw [same]; exact ok⟩
    · simp [decode, marked] at ok

/-- The body of a frame that was read is as long as its header declares. -/
theorem length_body_of_decode {bytes : List UInt8} {f : Frame} (ok : decode bytes = .ok f) :
    f.body.length = f.header.bodySize := by
  obtain ⟨rest, -, enough, checks⟩ := header_of_decode ok
  rw [(checked_eq_ok_iff.1 checks).2, List.length_take]
  simp only
  omega

/-- What is read as a frame of its whole length is a marker, the header, and as many bytes as it
declares. -/
theorem complete_of_decode {bytes : List UInt8} {f : Frame} (ok : decode bytes = .ok f)
    (complete : bytes.length = f.wireSize) :
    ∃ rest, bytes = marker :: (f.header.bytes ++ rest) ∧
      rest.length = f.header.bodySize + Checksum.size ∧
      checked f.header (rest.take f.header.bodySize) (Checksum.wordAt rest f.header.bodySize) =
        .ok f := by
  have long := length_body_of_decode ok
  obtain ⟨rest, rfl, -, checks⟩ := header_of_decode ok
  refine ⟨rest, rfl, ?_, checks⟩
  simp only [List.length_cons, List.length_append, Header.length_bytes, headerSize,
    Frame.wireSize, overhead, long] at complete
  simp only [Checksum.size]
  omega

/-- A frame that was checked stands on the wire as the frame of its command and body. -/
theorem frameBytes_of_checked {h : Header} {rest : List UInt8} {f : Frame}
    (size : rest.length = h.bodySize + Checksum.size)
    (ok : checked h (rest.take h.bodySize) (Checksum.wordAt rest h.bodySize) = .ok f) :
    frameBytes f.command f.body = marker :: (h.bytes ++ rest) ∧ f.header = h ∧
      f.body.length = h.bodySize ∧ Checksum.compute (covered f.command f.body) = f.checksum := by
  obtain ⟨agrees, rfl⟩ := checked_eq_ok_iff.1 ok
  have long : (rest.take h.bodySize).length = h.bodySize := by
    rw [List.length_take]
    omega
  have declared : Header.mk h.command (UInt8.ofNat (rest.take h.bodySize).length) = h := by
    rw [long, Header.bodySize, UInt8.ofNat_toNat]
  have tail : Checksum.wordBytes (Checksum.wordAt rest h.bodySize) = rest.drop h.bodySize := by
    have two : (rest.drop h.bodySize).length = 2 := by
      rw [List.length_drop, size]
      simp [Checksum.size]
    obtain ⟨low, high, behind⟩ := List.length_eq_two.1 two
    simp [Checksum.wordAt, behind]
  have covers : covered h.command (rest.take h.bodySize) =
      marker :: h.bytes ++ rest.take h.bodySize := by
    rw [covered, declared]
  refine ⟨?_, rfl, long, ?_⟩
  · simp only [frameBytes, Frame.command, covers, agrees, tail]
    simp
  · simp only [Frame.command, covers, agrees]

end Wire

end SerialLink
