import SerialLink.Command.Words
import SerialLink.Display.Record
import SerialLink.Line.Settings
import SerialLink.Single.Reader
import SerialLink.Transport.Fault

/-!
# Values on the command line

How the values of arguments are read. A bad value is reported with a reason where its reader has
one.
-/

namespace SerialLink

/-- A number of a controller's term. -/
def ControlTerm.readNumber (text : String) : Except String Single :=
  (Single.read text).mapError fun fault =>
    "invalid number " ++ Text.quoted text ++ ": " ++ fault.message

/-- A term of a controller, given as three numbers between commas with blanks around them. -/
def ControlTerm.read (text : String) : Except String ControlTerm :=
  match (text.splitOn ",").map fun part => String.ofList (Text.trimmed part.toList) with
  | [scale, outMax, value] => do
    let scale ← readNumber scale
    let outMax ← readNumber outMax
    let value ← readNumber value
    return ⟨scale, outMax, value⟩
  | _ => .error ("expected SCALE,OUT_MAX,VALUE, got " ++ Text.quoted text)

namespace Words

/-- How the value of an argument is read. -/
abbrev ValueOf (α : Type) := String → Except Fault α

/-- Any text. -/
def text : ValueOf String := .ok

/-- The name of a file, which is not empty. -/
def path : ValueOf String := fun value =>
  if value = "" then .error .invalidValue else .ok value

/-- A natural number in the range of its type, given without a sign or with a plus. -/
def natural (limit : Nat) : ValueOf Nat := fun value =>
  match Text.naturalUpTo? limit value.toList with
  | some n => .ok n
  | none => .error (.valueValidation none)

/-- An integer that is no less than zero and at most `limit`. -/
def ranged (limit : Nat) : ValueOf Nat := fun value =>
  match Text.integer? value.toList with
  | some n => if 0 ≤ n ∧ n ≤ limit then .ok n.toNat else .error (.valueValidation none)
  | none => .error (.valueValidation none)

/-- The number of a variable. -/
def variableId : ValueOf UInt16 := fun value =>
  (ranged (UInt16.size - 1) value).map UInt16.ofNat

/-- A line speed. -/
def baudRate : ValueOf UInt32 := fun value =>
  (ranged (UInt32.size - 1) value).map UInt32.ofNat

/-- A value whose reader gives reasons. -/
def explained {α : Type} (read : String → Except String α) : ValueOf α := fun value =>
  (read value).mapError fun reason => .valueValidation (some reason)

/-- A setting of the line. -/
def setting {α : Type} (read : String → Except String α) : ValueOf α :=
  explained fun value => (read value).mapError fun reason => (Transport.Fault.invalidConfig reason).message

/-- A single-precision number. -/
def number : ValueOf Single := fun value =>
  (Single.read value).mapError fun _ => .valueValidation none

/-- One of some words. -/
def oneOf {α : Type} (choices : List (String × α)) : ValueOf α := fun value =>
  match choices.lookup value with
  | some choice => .ok choice
  | none => .error .invalidValue

/-- A format of output. -/
def format : ValueOf Format :=
  oneOf [("json", .json), ("table", .table), ("pretty", .pretty)]

/-- An argument whose value is read in some way. -/
def Argument.of {α : Type} (name : String) (read : ValueOf α) : Argument where
  name := name
  fault value := match read value with
    | .error fault => some fault
    | .ok _ => none

/-- An argument that has no value. -/
def Argument.flag (name : String) : Argument where
  name := name
  takesValue := false

/-- The value of an argument, if it was given. -/
def value? {α : Type} (given : Given) (name : String) (read : ValueOf α) : Option α :=
  (given.lookup name).bind fun value => (read value).toOption

/-- The value of an argument that has to be given. -/
def required {α : Type} (given : Given) (name : String) (read : ValueOf α) : Except Fault α :=
  match value? given name read with
  | some value => .ok value
  | none => .error .missingRequiredArgument

/-- A flag was given. -/
def isGiven (given : Given) (name : String) : Bool :=
  (given.lookup name).isSome

end Words

end SerialLink
