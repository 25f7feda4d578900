import SerialLink.Wire.Fault

/-!
# What goes wrong with calls

The faults of registering, reaching and running handlers, and of the engine that does so for a link.
-/

namespace SerialLink.Dispatch

/-- Why a registration, a call or a step in the life of an engine is refused or fails. -/
inductive Fault where
  | transport (fault : Transport.Fault)
  | frame (fault : Wire.Fault)
  | duplicateCommand (command : UInt16) (existing : String)
  | unknownCommand (command : UInt16)
  | notConnected
  | notReceiving
  | alreadyReceiving
  | registrationClosed
  | workerNotStarted (cause : IoFailure)
  | workerPanicked
  deriving DecidableEq, Repr

/-- The fault in words. -/
def Fault.message : Fault → String
  | transport fault => "transport error: " ++ fault.message
  | frame fault => "frame error: " ++ fault.message
  | duplicateCommand command existing =>
    "command " ++ Hex.word command ++ " is already registered to " ++ existing
  | unknownCommand command => "no handler registered for command " ++ Hex.word command
  | notConnected => "not connected"
  | notReceiving => "not receiving"
  | alreadyReceiving => "already receiving"
  | registrationClosed => "registration is closed once receiving has started"
  | workerNotStarted cause => "failed to spawn receive worker: " ++ cause.text
  | workerPanicked => "receive worker panicked"

end SerialLink.Dispatch
