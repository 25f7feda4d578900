import SerialLink.Proofs.Wire.Encoding

/-!
# What is read is what was written

Bytes are read as a frame exactly when they begin with the frame of an accepted request
(`decode_eq_ok_iff`), so reading undoes writing whatever stands behind the frame, and nothing else
is read. A frame that is cut short anywhere is told by its length (`decode_of_cut`), so no frame
begins another one.
-/

namespace SerialLink

/-- A word that is taken from some bytes does not depend on what stands behind it. -/
theorem Checksum.wordAt_take (bytes : List UInt8) (n : Nat) :
    wordAt (bytes.take (n + size)) n = wordAt bytes n := by
  have word : (bytes.take (n + size)).drop n = (bytes.drop n).take 2 := by
    rw [List.drop_take, Nat.add_sub_cancel_left, size]
  rw [wordAt, wordAt, word]
  cases bytes.drop n with
  | nil => rfl
  | cons low rest =>
    cases rest with
    | nil => rfl
    | cons high rest => rfl

namespace Wire

/-! ## Frames are written ones -/

/-- A frame that was checked is the one that its command and body are encoded as. -/
theorem request_of_checked {h : Header} {rest : List UInt8} {f : Frame}
    (size : rest.length = h.bodySize + Checksum.size)
    (ok : checked h (rest.take h.bodySize) (Checksum.wordAt rest h.bodySize) = .ok f) :
    ∃ r : Request, r.Accepted ∧ r.bytes = marker :: (h.bytes ++ rest) ∧ r.frame = f := by
  obtain ⟨bytes, rfl, long, checksum⟩ := frameBytes_of_checked size ok
  have fits : f.body.length ≤ maxBody := by
    have := f.header.bodyLength.toNat_lt
    rw [long, Header.bodySize, maxBody]
    omega
  have declared : UInt8.ofNat f.body.length = f.header.bodyLength := by
    rw [long, Header.bodySize, UInt8.ofNat_toNat]
  refine ⟨⟨f.command, f.body.length, f.body⟩, ⟨fits, rfl⟩, bytes, ?_⟩
  simp only [Request.frame, checksum, declared]
  rfl

/-- Bytes are read as a frame exactly when they begin with the frame of an accepted request. -/
theorem decode_eq_ok_iff {bytes : List UInt8} {f : Frame} :
    decode bytes = .ok f ↔
      ∃ (r : Request) (rest : List UInt8), r.Accepted ∧ bytes = r.bytes ++ rest ∧ r.frame = f := by
  constructor
  · intro ok
    obtain ⟨rest, rfl, enough, checks⟩ := header_of_decode ok
    -- The check looks at no more than the header declares, so the rest can be cut off there.
    have size : (rest.take (f.header.bodySize + Checksum.size)).length =
        f.header.bodySize + Checksum.size := List.length_take_of_le enough
    have body : (rest.take (f.header.bodySize + Checksum.size)).take f.header.bodySize =
        rest.take f.header.bodySize := by
      rw [List.take_take, Nat.min_eq_left (Nat.le_add_right _ _)]
    rw [← Checksum.wordAt_take, ← body] at checks
    obtain ⟨r, accepted, written, same⟩ := request_of_checked size checks
    refine ⟨r, rest.drop (f.header.bodySize + Checksum.size), accepted, ?_, same⟩
    rw [written]
    simp
  · rintro ⟨r, rest, accepted, rfl, rfl⟩
    exact decode_bytes_append accepted rest

/-! ## Frames cut short -/

theorem decode_of_short {rest : List UInt8} (short : rest.length < headerSize) :
    decode (marker :: rest) = .error (.truncated overhead (marker :: rest).length) := by
  match rest, short with
  | [], _ | [_], _ | [_, _], _ => rfl

/-- What is left of a frame that lost bytes at its end is told from every frame by its length. -/
theorem decode_of_cut {r : Request} (accepted : r.Accepted) {p : List UInt8} (cut : p <+: r.bytes)
    (shorter : p ≠ r.bytes) :
    ∃ needed, decode p = .error (.truncated needed p.length) ∧ p.length < needed := by
  have size := bodySize_frame accepted
  have less : p.length < overhead + r.body.length := by
    rw [← length_frameBytes r.command r.body]
    exact Nat.lt_of_le_of_ne cut.length_le fun same => shorter (cut.eq_of_length same)
  match p with
  | [] => exact ⟨overhead, rfl, by decide⟩
  | first :: p =>
    have split : r.bytes = marker :: (r.frame.header.bytes ++
        (r.body ++ Checksum.wordBytes r.frame.checksum)) := by
      simp [Request.bytes, Request.frame, frameBytes, covered]
    rw [split, List.cons_prefix_cons] at cut
    obtain ⟨rfl, cut⟩ := cut
    rcases Nat.lt_or_ge p.length headerSize with short | long
    · refine ⟨overhead, decode_of_short short, ?_⟩
      simp only [List.length_cons, overhead, headerSize] at *
      omega
    · obtain ⟨h, rest, rfl⟩ := exists_header_append long
      obtain ⟨lost, whole⟩ := cut
      rw [List.append_assoc] at whole
      obtain rfl := Header.bytes_injective (List.append_inj_left whole (by simp))
      have missing : rest.length < r.frame.header.bodySize + Checksum.size := by
        simp only [List.length_cons, List.length_append, Header.length_bytes] at less
        simp only [overhead, headerSize, Checksum.size] at *
        omega
      have long : (marker :: (r.frame.header.bytes ++ rest)).length = 4 + rest.length := by
        simp [headerSize]
        omega
      refine ⟨r.frame.header.frameSize, ?_, ?_⟩
      · rw [decode_header, if_pos missing, long]
      · rw [Header.frameSize, size]
        exact less

/-! ## The inverse of writing -/

/-- The bytes begin with a frame as it is written to an empty buffer. -/
structure Begins (bytes : List UInt8) (f : Frame) : Prop where
  declared : f.header.bodySize = f.body.length
  written : encode f.command f.body.length f.body [] = .ok (bytes.take f.wireSize)
  checksum : f.checksum =
    Checksum.wordAt (bytes.take f.wireSize) (f.wireSize - Checksum.size)

/-- Writing succeeds exactly for an accepted request, whose frame it puts behind the buffer. -/
theorem encode_eq_ok_iff {command : UInt16} {expected : Nat} {body buffer longer : List UInt8} :
    encode command expected body buffer = .ok longer ↔
      Request.Accepted ⟨command, expected, body⟩ ∧ longer = buffer ++ frameBytes command body := by
  have outcome : encode command expected body buffer =
      ((Request.mk command expected body).append buffer).1.map fun _ =>
        ((Request.mk command expected body).append buffer).2 := rfl
  rw [outcome]
  by_cases accepted : Request.Accepted ⟨command, expected, body⟩
  · rw [append_of_accepted accepted]
    simp [Except.map, accepted, Request.bytes, eq_comm]
  · cases call : ((Request.mk command expected body).append buffer).1 with
    | error fault => simp [Except.map, accepted]
    | ok _ => exact absurd ((outcome_append _ buffer).2.2.1 call) accepted

/-- The word behind the covered part of a frame is the checksum. -/
theorem wordAt_frameBytes (command : UInt16) (body : List UInt8) :
    Checksum.wordAt (frameBytes command body) (overhead + body.length - Checksum.size) =
      Checksum.compute (covered command body) := by
  have front : overhead + body.length - Checksum.size = (covered command body).length := by
    simp only [overhead, Checksum.size, length_covered]
    omega
  rw [front, frameBytes, ← List.append_nil (Checksum.wordBytes _), Checksum.wordAt_append]

theorem begins_of_request {r : Request} (accepted : r.Accepted) (rest : List UInt8) :
    Begins (r.bytes ++ rest) r.frame := by
  have front : (r.bytes ++ rest).take r.frame.wireSize = r.bytes := by
    rw [wireSize_frame, List.take_left]
  have size : r.frame.wireSize = overhead + r.body.length := rfl
  refine ⟨bodySize_frame accepted, ?_, ?_⟩
  · rw [front, encode_eq_ok_iff, List.nil_append]
    exact ⟨⟨accepted.1, rfl⟩, rfl⟩
  · rw [front, size, Request.bytes, wordAt_frameBytes, Request.frame]

/-- The frame that some bytes begin with is that of an accepted request. -/
theorem request_of_begins {bytes : List UInt8} {f : Frame} (begins : Begins bytes f) :
    ∃ (r : Request) (rest : List UInt8), r.Accepted ∧ bytes = r.bytes ++ rest ∧ r.frame = f := by
  obtain ⟨accepted, front⟩ := encode_eq_ok_iff.1 begins.written
  rw [List.nil_append] at front
  refine ⟨⟨f.command, f.body.length, f.body⟩, bytes.drop f.wireSize, accepted, ?_, ?_⟩
  · rw [Request.bytes, ← front, List.take_append_drop]
  · have checksum := begins.checksum
    rw [front, Frame.wireSize, wordAt_frameBytes] at checksum
    have declared : UInt8.ofNat f.body.length = f.header.bodyLength := by
      rw [← begins.declared, Header.bodySize, UInt8.ofNat_toNat]
    simp only [Request.frame, declared, ← checksum]
    rfl

theorem decode_eq_ok_iff_begins {bytes : List UInt8} {f : Frame} :
    decode bytes = .ok f ↔ Begins bytes f := by
  constructor
  · intro ok
    obtain ⟨r, rest, accepted, rfl, rfl⟩ := decode_eq_ok_iff.1 ok
    exact begins_of_request accepted rest
  · intro begins
    exact decode_eq_ok_iff.2 (request_of_begins begins)

/-- **Reading accepts exactly what writing produces.** Bytes are read as a frame if and only if they
begin with that frame as it is written, which is true of one frame at most. Whatever stands behind
it is not looked at, and of a frame that lost any of its last bytes it is said how many are there
and that more are needed. -/
theorem decode_accepts_written (bytes : List UInt8) (f : Frame) :
    (decode bytes = .ok f ↔ Begins bytes f) ∧
    (∀ f', Begins bytes f → Begins bytes f' → f = f') ∧
    (decode bytes = .ok f →
      (∀ behind, decode (bytes ++ behind) = .ok f) ∧
      ∀ p, p <+: bytes.take f.wireSize → p ≠ bytes.take f.wireSize →
        ∃ needed, decode p = .error (.truncated needed p.length) ∧ p.length < needed) := by
  refine ⟨decode_eq_ok_iff_begins, ?_, ?_⟩
  · intro f' begins begins'
    have read := decode_eq_ok_iff_begins.2 begins
    rw [decode_eq_ok_iff_begins.2 begins'] at read
    exact (Except.ok.inj read).symm
  · intro ok
    obtain ⟨r, rest, accepted, rfl, rfl⟩ := decode_eq_ok_iff.1 ok
    rw [wireSize_frame, List.take_left]
    refine ⟨fun behind => ?_, fun p cut shorter => decode_of_cut accepted cut shorter⟩
    rw [List.append_assoc]
    exact decode_bytes_append accepted (rest ++ behind)

end Wire

end SerialLink
