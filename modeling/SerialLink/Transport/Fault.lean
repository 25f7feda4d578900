/-!
# What goes wrong on a transport

`IoFailure` is a failure reported from below, by its class and its text; `Errno` names the ones that
the operating system reports by number. `Transport.Fault` is what an operation on a transport
reports.
-/

namespace SerialLink

/-- The classes of failure that are told apart. A call that was only interrupted is made again and is no
failure. -/
inductive IoFailure.Kind where
  | other | timedOut | wouldBlock | brokenPipe | unexpectedEnd | invalidData | invalidInput
  | permissionDenied | notFound | connectionRefused
  deriving DecidableEq, Repr

/-- A failure reported from below. -/
structure IoFailure where
  kind : IoFailure.Kind
  text : String
  deriving DecidableEq, Repr

/-- Failures that the operating system reports by number. -/
inductive Errno where
  | noEntry | noDeviceAddress | inputOutput | permission | notDirectory | isDirectory
  | invalidArgument | notTerminal | noSpace | nameTooLong | connectionRefused
  deriving DecidableEq, Repr

namespace Errno

/-- The number of a failure. -/
def number : Errno → Nat
  | noEntry => 2
  | inputOutput => 5
  | noDeviceAddress => 6
  | permission => 13
  | notDirectory => 20
  | isDirectory => 21
  | invalidArgument => 22
  | notTerminal => 25
  | noSpace => 28
  | nameTooLong => 36
  | connectionRefused => 111

/-- The description of a failure. -/
def description : Errno → String
  | noEntry => "No such file or directory"
  | inputOutput => "Input/output error"
  | noDeviceAddress => "No such device or address"
  | permission => "Permission denied"
  | notDirectory => "Not a directory"
  | isDirectory => "Is a directory"
  | invalidArgument => "Invalid argument"
  | notTerminal => "Inappropriate ioctl for device"
  | noSpace => "No space left on device"
  | nameTooLong => "File name too long"
  | connectionRefused => "Connection refused"

/-- The class that a failure belongs to. -/
def kind : Errno → IoFailure.Kind
  | noEntry => .notFound
  | permission => .permissionDenied
  | invalidArgument => .invalidInput
  | connectionRefused => .connectionRefused
  | _ => .other

/-- The failure with its number behind the description. -/
def failure (e : Errno) : IoFailure :=
  ⟨e.kind, e.description ++ " (os error " ++ toString e.number ++ ")"⟩

end Errno

namespace Transport

/-- What an operation on a transport reports. -/
inductive Fault where
  | openFailed (path : String) (cause : IoFailure)
  | configureFailed (path : String) (cause : IoFailure)
  | unsupportedBaudRate (rate : UInt32)
  | invalidConfig (reason : String)
  | io (cause : IoFailure)
  | closed
  | readOnly
  deriving DecidableEq, Repr

namespace Fault

/-- The fault in words. -/
def message : Fault → String
  | openFailed path cause => "failed to open " ++ path ++ ": " ++ cause.text
  | configureFailed path cause => "failed to configure " ++ path ++ ": " ++ cause.text
  | unsupportedBaudRate rate => "unsupported baud rate " ++ toString rate.toNat
  | invalidConfig reason => "invalid serial configuration: " ++ reason
  | io cause => "transport I/O error: " ++ cause.text
  | closed => "transport closed"
  | readOnly => "transport is read-only"

/-- The transport is at its end. -/
def isClosed : Fault → Bool
  | closed => true
  | _ => false

end Fault

end Transport

end SerialLink
