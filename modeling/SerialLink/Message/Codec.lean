import SerialLink.Message.Basic
import SerialLink.Wire.Frame

/-!
# Messages as bodies and frames

Every field is stored least significant byte first, without padding between fields. `ofBody` reads
exactly what `body` writes; `ofFrame` first checks the frame and its command.
-/

namespace SerialLink

namespace ControlTerm

/-- The twelve bytes of a term. -/
def bytes (t : ControlTerm) : List UInt8 :=
  t.scale.toBytes ++ t.outMax.toBytes ++ t.value.toBytes

end ControlTerm

namespace Message

/-- The body of a message. -/
def body : Message → List UInt8
  | label id field => Checksum.wordBytes id ++ field.bytes
  | update id value => Checksum.wordBytes id ++ value.toBytes
  | remove id => Checksum.wordBytes id
  | apply p i d => p.bytes ++ i.bytes ++ d.bytes

/-- The frame of a message, as bytes. -/
def encode (m : Message) : Except Wire.Fault (List UInt8) :=
  Wire.encode m.kind.command m.kind.size m.body []

end Message

namespace Single

/-- Four bytes at the start of a body and what follows them. -/
def take? : List UInt8 → Option (Single × List UInt8)
  | a :: b :: c :: d :: rest => some (ofBytes a b c d, rest)
  | _ => none

end Single

namespace ControlTerm

/-- A term at the start of a body and what follows it. -/
def take? (bytes : List UInt8) : Option (ControlTerm × List UInt8) := do
  let (scale, bytes) ← Single.take? bytes
  let (outMax, bytes) ← Single.take? bytes
  let (value, bytes) ← Single.take? bytes
  return (⟨scale, outMax, value⟩, bytes)

end ControlTerm

namespace MessageKind

/-- The message of a kind whose body has exactly these bytes. -/
def read? (kind : MessageKind) (bytes : List UInt8) : Option Message :=
  match kind, bytes with
  | label, low :: high :: text =>
    if h : text.length = labelRoom then some (.label (Checksum.wordOf low high) ⟨text, h⟩) else none
  | update, [low, high, a, b, c, d] =>
    some (.update (Checksum.wordOf low high) (Single.ofBytes a b c d))
  | remove, [low, high] => some (.remove (Checksum.wordOf low high))
  | apply, bytes => do
    let (p, bytes) ← ControlTerm.take? bytes
    let (i, bytes) ← ControlTerm.take? bytes
    let (d, bytes) ← ControlTerm.take? bytes
    if bytes = [] then return .apply p i d else none
  | _, _ => none

/-- Reads a body as a message of a kind. -/
def ofBody (kind : MessageKind) (bytes : List UInt8) : Except Wire.Fault Message :=
  match kind.read? bytes with
  | some m => .ok m
  | none => .error (.bodySizeMismatch kind.command kind.size bytes.length)

/-- Reads the frame at the start of `bytes` as a message of a kind. -/
def ofFrame (kind : MessageKind) (bytes : List UInt8) : Except Wire.Fault Message :=
  match Wire.decode bytes with
  | .error fault => .error fault
  | .ok frame =>
    if frame.command ≠ kind.command then .error (.unexpectedCommand kind.command frame.command)
    else kind.ofBody frame.body

end MessageKind

end SerialLink
