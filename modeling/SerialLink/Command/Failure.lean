import SerialLink.Dispatch.Fault

/-!
# Failures of a command

A command that fails ends with an exit code and a message. The code tells the cause: a fault of a
deeper layer that was passed on counts as what it is below.
-/

namespace SerialLink

/-- How a command fails. -/
structure Failure where
  code : Nat
  message : String
  deriving DecidableEq, Repr

namespace Failure

/-- The exit code of a command that did what it was asked for. -/
def success : Nat := 0

/-- The peer went away. -/
def lost : Nat := 1

/-- The link cannot be reached or does not work. -/
def unreachable : Nat := 3

/-- Access is refused. -/
def denied : Nat := 50

/-- Data is damaged. -/
def damaged : Nat := 60

/-- The settings cannot be used. -/
def usage : Nat := 64

/-- Nothing came in time. -/
def late : Nat := 124

/-- Anything else. -/
def unexpected : Nat := 125

/-- A failure with its context in front. -/
def within (context : String) (code : Nat) (text : String) : Failure :=
  ⟨code, context ++ ": " ++ text⟩

/-- The exit code for a failure from below. -/
def codeOfKind : IoFailure.Kind → Nat
  | .permissionDenied => denied
  | .timedOut | .wouldBlock => late
  | .notFound | .connectionRefused => unreachable
  | _ => unexpected

/-- A failure from below. -/
def ofIo (context : String) (cause : IoFailure) : Failure :=
  within context (codeOfKind cause.kind) cause.text

/-- A fault of a transport. -/
def ofTransport (context : String) (fault : Transport.Fault) : Failure :=
  match fault with
  | .openFailed _ cause | .configureFailed _ cause | .io cause => ofIo context cause
  | .unsupportedBaudRate _ | .invalidConfig _ => within context usage fault.message
  | .closed => within context lost fault.message
  | .readOnly => within context unreachable fault.message

/-- A fault of a frame. -/
def ofFrame (context : String) (fault : Wire.Fault) : Failure :=
  match fault with
  | .transport fault => ofTransport context fault
  | .connectionClosed => within context lost fault.message
  | _ => within context damaged fault.message

/-- A fault of a call. -/
def ofCall (context : String) (fault : Dispatch.Fault) : Failure :=
  match fault with
  | .transport fault => ofTransport context fault
  | .frame fault => ofFrame context fault
  | .duplicateCommand .. | .registrationClosed => within context usage fault.message
  | .notConnected => within context unreachable fault.message
  | _ => within context unexpected fault.message

end Failure

end SerialLink
