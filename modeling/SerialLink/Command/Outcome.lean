import SerialLink.Command.Failure

/-!
# Outcomes of commands
-/

namespace SerialLink

/-- What a command leaves: its exit code, what it printed and reported, the file it wrote with its
contents, and the bytes that it sent to its peer. -/
structure Outcome where
  code : Nat := Failure.success
  output : String := ""
  message : Option String := none
  written : Option (String × List UInt8) := none
  sent : List UInt8 := []
  deriving DecidableEq, Repr

namespace Outcome

/-- A failure behind some output. -/
def failed (f : Failure) (output : String) : Outcome where
  code := f.code
  output := output
  message := some f.message

/-- The outcome of steps of which one may fail before anything is printed. -/
def ofExcept : Except Failure Outcome → Outcome
  | .ok outcome => outcome
  | .error failure => failed failure ""

end Outcome

end SerialLink
