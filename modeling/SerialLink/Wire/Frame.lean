import SerialLink.Wire.Checksum
import SerialLink.Wire.Fault

/-!
# Frames

A frame is a start marker, a header, a body and a checksum over all that stands before it. The
header holds the body's length in one byte and the command in two, the lower byte first.
`encodeInto` puts a frame at the end of a buffer; `decode` reads one from the start of a buffer.
-/

namespace SerialLink.Wire

/-- The byte that starts every frame. -/
def marker : UInt8 := 0xA5

/-- The bytes of a header. -/
def headerSize : Nat := 3

/-- The largest body that a header can declare. -/
def maxBody : Nat := 255

/-- The bytes of a frame besides its body. -/
def overhead : Nat := 6

/-- A command and the length of the body that follows. -/
structure Header where
  command : UInt16
  bodyLength : UInt8
  deriving DecidableEq, Repr

namespace Header

/-- The length of the body as a number. -/
def bodySize (h : Header) : Nat :=
  h.bodyLength.toNat

/-- The length of the whole frame. -/
def frameSize (h : Header) : Nat :=
  overhead + h.bodySize

/-- The header on the wire. -/
def bytes (h : Header) : List UInt8 :=
  h.bodyLength :: Checksum.wordBytes h.command

/-- The header read from the wire. -/
def ofBytes (length low high : UInt8) : Header :=
  ⟨Checksum.wordOf low high, length⟩

@[simp] theorem length_bytes (h : Header) : h.bytes.length = headerSize := rfl

end Header

/-- A checked frame. -/
structure Frame where
  header : Header
  body : List UInt8
  checksum : UInt16
  deriving DecidableEq, Repr

namespace Frame

/-- The command of a frame. -/
def command (f : Frame) : UInt16 :=
  f.header.command

/-- The bytes that a frame takes on the wire. -/
def wireSize (f : Frame) : Nat :=
  overhead + f.body.length

end Frame

/-- Writing to the end of a buffer, or failing. What was written before a failure stays written. -/
abbrev Buffered :=
  ExceptT Fault (StateM (List UInt8))

/-- What becomes of a buffer. -/
def Buffered.on {α : Type} (x : Buffered α) (buffer : List UInt8) : Except Fault α × List UInt8 :=
  Id.run (StateT.run (ExceptT.run x) buffer)

/-- Puts bytes at the end of the buffer. -/
def put (bytes : List UInt8) : Buffered Unit :=
  modify (· ++ bytes)

/-- A buffer whose last two bytes become the checksum of those before them, from `start` on. -/
def stamp (start : Nat) (buffer : List UInt8) : List UInt8 :=
  let kept := buffer.take (buffer.length - Checksum.size)
  kept ++ Checksum.wordBytes (Checksum.compute (kept.drop start))

/-- Puts a frame at the end of the buffer: laid out with an empty checksum, then stamped. A body is
refused that no header can declare, or that has another length than the command requires. -/
def encodeInto (command : UInt16) (expected : Nat) (body : List UInt8) : Buffered Unit := do
  if maxBody < body.length then throw (.bodyTooLarge body.length maxBody)
  if body.length ≠ expected then throw (.bodySizeMismatch command expected body.length)
  let start := (← get).length
  put [marker]
  put (Header.mk command (UInt8.ofNat body.length)).bytes
  put body
  put (Checksum.wordBytes 0)
  modify (stamp start)

/-- The buffer with one more frame at its end. -/
def encode (command : UInt16) (expected : Nat) (body buffer : List UInt8) :
    Except Fault (List UInt8) :=
  let (outcome, longer) := (encodeInto command expected body).on buffer
  outcome.map fun _ => longer

/-- The frame of a header, body and checksum, once the checksum agrees. -/
def checked (header : Header) (body : List UInt8) (received : UInt16) : Except Fault Frame :=
  let computed := Checksum.compute (marker :: header.bytes ++ body)
  if computed = received then .ok ⟨header, body, received⟩
  else .error (.checksumMismatch computed received)

/-- Reads the frame at the start of `bytes`; what stands behind it is not looked at. -/
def decode (bytes : List UInt8) : Except Fault Frame :=
  match bytes with
  | [] => .error (.truncated overhead 0)
  | first :: rest =>
    if first ≠ marker then .error (.invalidMarker first)
    else match rest with
      | length :: low :: high :: rest =>
        let header := Header.ofBytes length low high
        if bytes.length < header.frameSize then
          .error (.truncated header.frameSize bytes.length)
        else checked header (rest.take header.bodySize) (Checksum.wordAt rest header.bodySize)
      | _ => .error (.truncated overhead bytes.length)

theorem ne_nil_of_decode {bytes : List UInt8} {f : Frame} (h : decode bytes = .ok f) :
    bytes ≠ [] := by
  rintro rfl
  simp [decode] at h

theorem length_rest_lt {bytes : List UInt8} {f : Frame} (h : decode bytes = .ok f) :
    (bytes.drop f.wireSize).length < bytes.length := by
  have := List.length_pos_iff.2 (ne_nil_of_decode h)
  simp only [List.length_drop, Frame.wireSize, overhead]
  omega

/-- The frames that stand one behind the other, and the fault at the first place where there is
none. -/
def decodeAll (bytes : List UInt8) : List Frame × Fault :=
  match _ : decode bytes with
  | .error fault => ([], fault)
  | .ok frame =>
    let rest := decodeAll (bytes.drop frame.wireSize)
    (frame :: rest.1, rest.2)
termination_by bytes.length
decreasing_by exact length_rest_lt (by assumption)

end SerialLink.Wire
