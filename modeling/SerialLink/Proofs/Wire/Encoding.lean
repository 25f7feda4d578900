import Mathlib.Data.List.Forall2
import SerialLink.Proofs.Wire.Layout

/-!
# Frames appended to a buffer

A buffer takes one request after the other; each appends a whole frame or is refused and changes
nothing (`outcome_append`). Reading from where the first frame starts gives the accepted requests
back, in order and with nothing left over (`requests_read_back`). The checksum of a frame covers
that frame alone, whatever stands in front of it in the buffer (`stamp_append`).
-/

namespace SerialLink.Wire

/-- A body to be sent under a command whose bodies have `expected` bytes. -/
structure Request where
  command : UInt16
  expected : Nat
  body : List UInt8

namespace Request

/-- The body fits a header and has the length that the command requires. -/
def Accepted (r : Request) : Prop :=
  r.body.length ≤ maxBody ∧ r.body.length = r.expected

instance (r : Request) : Decidable r.Accepted :=
  inferInstanceAs (Decidable (_ ∧ _))

/-- The frame of a request. -/
def bytes (r : Request) : List UInt8 :=
  frameBytes r.command r.body

/-- The outcome of a request and the buffer behind it. -/
def append (r : Request) (buffer : List UInt8) : Except Fault Unit × List UInt8 :=
  (encodeInto r.command r.expected r.body).on buffer

end Request

/-- The buffer behind some requests, refused ones among them. -/
def appendAll (buffer : List UInt8) (requests : List Request) : List UInt8 :=
  requests.foldl (fun b r => (r.append b).2) buffer

/-- Stamping a buffer from the end of `front` covers what was laid out behind it and no more. -/
theorem stamp_append (front bytes : List UInt8) (w : UInt16) :
    stamp front.length (front ++ bytes ++ Checksum.wordBytes w) =
      front ++ bytes ++ Checksum.wordBytes (Checksum.compute bytes) := by
  have kept : (front ++ bytes ++ Checksum.wordBytes w).take
      ((front ++ bytes ++ Checksum.wordBytes w).length - Checksum.size) = front ++ bytes := by
    rw [List.length_append, Checksum.length_wordBytes, Nat.add_sub_cancel]
    exact List.take_left
  rw [stamp, kept, List.drop_left]

theorem append_of_accepted {r : Request} (h : r.Accepted) (buffer : List UInt8) :
    r.append buffer = (.ok (), buffer ++ r.bytes) := by
  have laid : r.append buffer = (.ok (), stamp buffer.length
      (buffer ++ [marker] ++ (Header.mk r.command (UInt8.ofNat r.body.length)).bytes ++ r.body ++
        Checksum.wordBytes 0)) := by
    simp only [Request.append, encodeInto, if_neg (Nat.not_lt.2 h.1), if_neg (not_not.2 h.2)]
    rfl
  have regroup : buffer ++ [marker] ++ (Header.mk r.command (UInt8.ofNat r.body.length)).bytes ++
      r.body ++ Checksum.wordBytes 0 =
        buffer ++ covered r.command r.body ++ Checksum.wordBytes 0 := by
    simp [covered]
  rw [laid, regroup, stamp_append, List.append_assoc]
  rfl

theorem append_of_large {r : Request} (h : maxBody < r.body.length) (buffer : List UInt8) :
    r.append buffer = (.error (.bodyTooLarge r.body.length maxBody), buffer) := by
  simp only [Request.append, encodeInto, if_pos h]
  rfl

theorem append_of_mismatch {r : Request} (fits : r.body.length ≤ maxBody)
    (differs : r.body.length ≠ r.expected) (buffer : List UInt8) :
    r.append buffer = (.error (.bodySizeMismatch r.command r.expected r.body.length), buffer) := by
  simp only [Request.append, encodeInto, if_neg (Nat.not_lt.2 fits), if_pos differs]
  rfl

/-- A refused request leaves the buffer as it was. -/
theorem append_of_not_accepted {r : Request} (h : ¬ r.Accepted) (buffer : List UInt8) :
    (r.append buffer).2 = buffer := by
  by_cases fits : r.body.length ≤ maxBody
  · rw [append_of_mismatch fits fun same => h ⟨fits, same⟩]
  · rw [append_of_large (Nat.lt_of_not_le fits)]

theorem append_of_error {r : Request} {buffer : List UInt8} {fault : Fault}
    (h : (r.append buffer).1 = .error fault) : (r.append buffer).2 = buffer := by
  apply append_of_not_accepted
  intro accepted
  rw [append_of_accepted accepted] at h
  cases h

/-- How a request ends: refused for a body that no header can declare, and otherwise exactly for a
body of another length than its command requires. -/
theorem outcome_append (r : Request) (buffer : List UInt8) :
    ((r.append buffer).1 = .error (.bodyTooLarge r.body.length maxBody) ↔
        maxBody < r.body.length) ∧
      ((r.append buffer).1 = .error (.bodySizeMismatch r.command r.expected r.body.length) ↔
        r.body.length ≤ maxBody ∧ r.body.length ≠ r.expected) ∧
      ((r.append buffer).1 = .ok () ↔ r.Accepted) := by
  rcases Nat.lt_or_ge maxBody r.body.length with large | fits
  · have refused : ¬ r.Accepted := fun h => absurd h.1 (Nat.not_le.2 large)
    simp [append_of_large large, large, refused, Nat.not_le.2 large]
  · by_cases agrees : r.body.length = r.expected
    · have accepted : r.Accepted := ⟨fits, agrees⟩
      have room : r.expected ≤ maxBody := agrees ▸ fits
      simp [append_of_accepted accepted, accepted, room, agrees]
    · have refused : ¬ r.Accepted := fun h => agrees h.2
      simp [append_of_mismatch fits agrees, refused, Nat.not_lt.2 fits, fits, agrees]

/-- The buffer behind some requests holds the frames of those that were accepted. -/
theorem appendAll_eq (buffer : List UInt8) (requests : List Request) :
    appendAll buffer requests =
      buffer ++ (requests.filter (·.Accepted)).flatMap Request.bytes := by
  induction requests generalizing buffer with
  | nil => simp [appendAll]
  | cons r requests ih =>
    have step : appendAll buffer (r :: requests) = appendAll (r.append buffer).2 requests := rfl
    rw [step, ih]
    by_cases h : r.Accepted
    · simp [append_of_accepted h, h]
    · simp [append_of_not_accepted h, h]

/-- The frame that a request is read back as. -/
def Request.frame (r : Request) : Frame :=
  ⟨⟨r.command, UInt8.ofNat r.body.length⟩, r.body, Checksum.compute (covered r.command r.body)⟩

theorem bodySize_frame {r : Request} (h : r.Accepted) :
    r.frame.header.bodySize = r.body.length := by
  have fits : r.body.length < 256 := Nat.lt_succ_of_le h.1
  simp [Request.frame, Header.bodySize, Nat.mod_eq_of_lt fits]

theorem wireSize_frame (r : Request) : r.frame.wireSize = r.bytes.length :=
  (length_frameBytes r.command r.body).symm

/-- The checksum of a frame covers all of its bytes but the last two. -/
theorem checksum_frame (r : Request) :
    r.frame.checksum = Checksum.compute (r.bytes.take (r.frame.wireSize - Checksum.size)) := by
  have size : r.frame.wireSize - Checksum.size = (covered r.command r.body).length := by
    simp [Frame.wireSize, Request.frame, overhead, Checksum.size]
    omega
  rw [size, Request.bytes, frameBytes, List.take_left]
  simp only [Request.frame]

/-- The frame of an accepted request is read from the start of any bytes that begin with it. -/
theorem decode_bytes_append {r : Request} (h : r.Accepted) (rest : List UInt8) :
    decode (r.bytes ++ rest) = .ok r.frame := by
  have size := bodySize_frame h
  have split : r.bytes ++ rest = marker :: (r.frame.header.bytes ++
      (r.body ++ (Checksum.wordBytes r.frame.checksum ++ rest))) := by
    simp [Request.bytes, Request.frame, frameBytes, covered]
  have covers : marker :: r.frame.header.bytes ++ r.body = covered r.command r.body := rfl
  rw [split, decode_header, size, if_neg (by simp), List.take_left, Checksum.wordAt_append,
    checked_eq_ok_iff, covers]
  simp only [Request.frame, and_self]

theorem decodeAll_of_ok {bytes : List UInt8} {f : Frame} (h : decode bytes = .ok f) :
    decodeAll bytes = (f :: (decodeAll (bytes.drop f.wireSize)).1,
      (decodeAll (bytes.drop f.wireSize)).2) := by
  rw [decodeAll]
  split
  · next h' => rw [h] at h'; cases h'
  · next h' => rw [h] at h'; cases h'; rfl

/-- Frames that stand one behind the other are read one after the other, up to the end. -/
theorem decodeAll_flatMap_bytes {requests : List Request} (h : ∀ r ∈ requests, r.Accepted) :
    decodeAll (requests.flatMap Request.bytes) =
      (requests.map Request.frame, .truncated overhead 0) := by
  induction requests with
  | nil =>
    rw [List.flatMap_nil, decodeAll]
    rfl
  | cons r requests ih =>
    have first := decode_bytes_append (h r List.mem_cons_self) (requests.flatMap Request.bytes)
    rw [List.flatMap_cons, decodeAll_of_ok first, wireSize_frame, List.drop_left,
      ih fun q hq => h q (List.mem_cons_of_mem r hq)]
    rfl

/-- **Requests are read back.** A request is refused for a body that no header can declare, and
otherwise exactly for a body of another length than its command requires; a refused request leaves
the buffer as it was. The buffer grows by the frames of the accepted requests, and reading them from
the end of what was there before gives each command and body again, and then the end. -/
theorem requests_read_back (buffer : List UInt8) (requests : List Request) :
    (∀ (before : List Request) (r : Request),
      let call := r.append (appendAll buffer before)
      (call.1 = .error (.bodyTooLarge r.body.length maxBody) ↔ maxBody < r.body.length) ∧
      (call.1 = .error (.bodySizeMismatch r.command r.expected r.body.length) ↔
        r.body.length ≤ maxBody ∧ r.body.length ≠ r.expected) ∧
      (call.1 = .ok () ↔ r.Accepted) ∧
      (∀ fault, call.1 = .error fault → call.2 = appendAll buffer before)) ∧
    appendAll buffer requests =
      buffer ++ (requests.filter (·.Accepted)).flatMap Request.bytes ∧
    (∀ r ∈ requests.filter (·.Accepted), r.bytes.length = overhead + r.body.length) ∧
    ∃ frames, decodeAll ((appendAll buffer requests).drop buffer.length) =
        (frames, .truncated overhead 0) ∧
      List.Forall₂ (fun r f => f.command = r.command ∧ f.body = r.body ∧
          f.header.bodySize = r.body.length ∧ f.wireSize = r.bytes.length ∧
          f.checksum = Checksum.compute (r.bytes.take (f.wireSize - Checksum.size)))
        (requests.filter (·.Accepted)) frames := by
  have members : ∀ r ∈ requests.filter (·.Accepted), r.Accepted := by simp
  refine ⟨?_, appendAll_eq buffer requests, ?_, (requests.filter (·.Accepted)).map Request.frame,
    ?_, ?_⟩
  · intro before r
    obtain ⟨large, mismatch, accepted⟩ := outcome_append r (appendAll buffer before)
    exact ⟨large, mismatch, accepted, fun _ => append_of_error⟩
  · intro r _
    exact length_frameBytes r.command r.body
  · rw [appendAll_eq, List.drop_left, decodeAll_flatMap_bytes members]
  · rw [List.forall₂_map_right_iff, List.forall₂_same]
    intro r hr
    exact ⟨rfl, rfl, bodySize_frame (members r hr), wireSize_frame r, checksum_frame r⟩

end SerialLink.Wire
