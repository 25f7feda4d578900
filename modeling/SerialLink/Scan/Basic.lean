import SerialLink.Wire.Frame

/-!
# What a scan cycle tells

A cycle ends with a checked frame or with a frame that was dropped for one of four reasons. The
counts over all cycles and the place that the last cycle reached are kept.
-/

namespace SerialLink

/-- The length of body that each known command requires. -/
abbrev CommandSizes := UInt16 → Option Nat

/-- The part of a frame that a read failed in. -/
inductive Scan.Stage where
  | header | body
  deriving DecidableEq, Repr

/-- A stage in words. -/
def Scan.Stage.text : Stage → String
  | header => "header"
  | body => "body"

/-- Why a frame was dropped. -/
inductive Scan.Discard where
  | unknownCommand (command : UInt16) (bodySize : Nat)
  | sizeMismatch (command : UInt16) (expected actual : Nat)
  | checksumMismatch (command : UInt16) (computed received : UInt16)
  | readFailed (stage : Stage) (reason : String)
  deriving DecidableEq, Repr

namespace Scan.Discard

/-- The reason in words. -/
def message : Discard → String
  | unknownCommand command bodySize =>
    "unknown command " ++ Hex.word command ++ " (" ++ toString bodySize ++ "-byte body)"
  | sizeMismatch command expected actual =>
    "command " ++ Hex.word command ++ " declares " ++ toString actual ++ " bytes, expected " ++
      toString expected
  | checksumMismatch command computed received =>
    "checksum mismatch on command " ++ Hex.word command ++ " (computed " ++ Hex.word computed ++
      ", received " ++ Hex.word received ++ ")"
  | readFailed stage reason => stage.text ++ " read failed: " ++ reason

end Scan.Discard

/-- How a cycle ends. -/
inductive Scan.Event where
  | frame (frame : Wire.Frame)
  | discarded (reason : Discard)
  deriving DecidableEq, Repr

/-- The place in a frame that a scanner has reached. -/
inductive Scan.State where
  | seekingMarker
  | readingHeader
  | readingBody (header : Wire.Header)
  | verifyingChecksum (header : Wire.Header)
  deriving DecidableEq, Repr

/-- Counts over all cycles. -/
structure Scan.Stats where
  frames : Nat := 0
  unknownCommand : Nat := 0
  sizeMismatch : Nat := 0
  checksumMismatch : Nat := 0
  readFailures : Nat := 0
  bytesSkipped : Nat := 0
  deriving DecidableEq, Repr

namespace Scan.Stats

/-- Frames dropped for any reason. -/
def discarded (s : Stats) : Nat :=
  s.unknownCommand + s.sizeMismatch + s.checksumMismatch + s.readFailures

/-- The counts with one more event. -/
def count (s : Stats) : Event → Stats
  | .frame _ => { s with frames := s.frames + 1 }
  | .discarded (.unknownCommand ..) => { s with unknownCommand := s.unknownCommand + 1 }
  | .discarded (.sizeMismatch ..) => { s with sizeMismatch := s.sizeMismatch + 1 }
  | .discarded (.checksumMismatch ..) => { s with checksumMismatch := s.checksumMismatch + 1 }
  | .discarded (.readFailed ..) => { s with readFailures := s.readFailures + 1 }

/-- The counts with more bytes passed over on the way to a marker. -/
def skip (s : Stats) (n : Nat) : Stats :=
  { s with bytesSkipped := s.bytesSkipped + n }

end Scan.Stats

/-- A scanner between two cycles. -/
structure Scanner where
  state : Scan.State := .seekingMarker
  stats : Scan.Stats := {}
  deriving DecidableEq, Repr

end SerialLink
