import SerialLink.Command.Outcome
import SerialLink.Command.Tap
import SerialLink.Display.Summary
import SerialLink.Engine.Basic

/-!
# Captures

`decode` replays a captured stream and shows its messages, the series if asked for, and the report.
`encode` makes the frame of one message, with noise in front that holds no start marker, and shows
it; it may write it to a file or behind the contents of one.
-/

namespace SerialLink.Command

/-- What the handlers keep of a capture, and the report of its scan. -/
def receiveCapture (host : Host) (clock : Nat → UInt64) (file : String) :
    Except Failure (Tap × Session.Report) := do
  let t ← (host.capture file).mapError (Failure.ofTransport "open failed")
  let table ← Tap.table
  let e : Engine Tap := { state := { clock := clock }, table := table }
  let (id, e) := e.meet (Link.capture t)
  let (connected, e) := e.connect id
  connected.mapError (Failure.ofCall "connect failed")
  let (started, e) := e.start
  started.mapError (Failure.ofCall "start failed")
  let (joined, e) := (e.settle.join).getD (.error .notReceiving, e)
  let report ← joined.mapError (Failure.ofCall "decode failed")
  return (e.state, report)

/-- Shows what a capture holds. With `strict`, a dropped frame is a failure. -/
def runDecode (host : Host) (clock : Nat → UInt64) (format : Format) (file : String)
    (series strict : Bool) : Except Failure Outcome := do
  let (tap, report) ← receiveCapture host clock file
  let records := String.join (tap.records.map (·.shown format))
  let summary := if series then tap.store.shown format else ""
  let output := records ++ summary ++ report.shown file format
  let discarded := report.stats.discarded
  if strict && discarded != 0 then
    return .failed (.within file Failure.damaged (toString discarded ++ " frame(s) discarded")) output
  else return { output := output }

/-- Filler bytes without a start marker. -/
def noise (count : Nat) : List UInt8 :=
  (List.range count).map fun i =>
    let b := UInt8.ofNat i * 37 + 11
    if b = Wire.marker then 0 else b

/-- The contents of a file behind which `wire` is written or which it replaces. -/
def contents (host : Host) (path : String) (append : Bool) (wire : List UInt8) :
    Except Failure (List UInt8) := do
  match ← (host.openForWriting path).mapError (Failure.ofIo ("failed opening " ++ path)) with
  | .device true => .error (.ofIo ("failed writing " ++ path) Errno.noSpace.failure)
  | .file bytes => return if append then bytes ++ wire else wire
  | _ => return wire

/-- Makes a frame, writes it if asked to, and shows it. -/
def runEncode (host : Host) (format : Format) (out : Option String) (append : Bool) (count : Nat)
    (m : Message) : Except Failure Outcome := do
  let frame ← m.encode.mapError (Failure.ofFrame "encode failed")
  let wire := noise count ++ frame
  let encoded : Encoded := ⟨m.kind.name, m.kind.command, wire⟩
  match out with
  | none => return { output := encoded.shown format }
  | some path =>
    let bytes ← contents host path append wire
    return { output := encoded.shown format, written := some (path, bytes) }

end SerialLink.Command
