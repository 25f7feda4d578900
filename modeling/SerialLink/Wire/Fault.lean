import SerialLink.Text.Hex
import SerialLink.Transport.Fault

/-!
# What goes wrong with frames
-/

namespace SerialLink.Wire

/-- Why a frame is not written, read or recognised. -/
inductive Fault where
  | invalidMarker (found : UInt8)
  | bodyTooLarge (size limit : Nat)
  | bodySizeMismatch (command : UInt16) (expected actual : Nat)
  | checksumMismatch (computed received : UInt16)
  | truncated (needed available : Nat)
  | unexpectedCommand (expected actual : UInt16)
  | connectionClosed
  | transport (fault : Transport.Fault)
  deriving DecidableEq, Repr

namespace Fault

/-- A transport's fault as a fault of the frame that was under way. -/
def ofTransport : Transport.Fault → Fault
  | .closed => connectionClosed
  | fault => transport fault

/-- The fault in words. -/
def message : Fault → String
  | invalidMarker found =>
    "invalid start of frame " ++ Hex.byte found ++ " (expected 0xA5)"
  | bodyTooLarge size limit =>
    "body too large (" ++ toString size ++ " bytes, max " ++ toString limit ++ ")"
  | bodySizeMismatch command expected actual =>
    "command " ++ Hex.word command ++ " expects a " ++ toString expected ++ "-byte body, got " ++
      toString actual
  | checksumMismatch computed received =>
    "checksum mismatch (computed " ++ Hex.word computed ++ ", received " ++ Hex.word received ++ ")"
  | truncated needed available =>
    "truncated frame (" ++ toString available ++ " of " ++ toString needed ++ " bytes)"
  | unexpectedCommand expected actual =>
    "expected command " ++ Hex.word expected ++ ", found " ++ Hex.word actual
  | connectionClosed => "connection closed"
  | transport fault => "frame transport error: " ++ fault.message

/-- No later frame can arrive over the same transport. -/
def isFatal : Fault → Bool
  | connectionClosed | transport _ => true
  | _ => false

end Fault

end SerialLink.Wire
