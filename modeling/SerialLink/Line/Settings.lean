import SerialLink.Text.Blank
import SerialLink.Text.Digits
import SerialLink.Text.Quoted

/-!
# Settings of a serial line

Character size, parity, stop bits and flow control. Each has one written form and may be read from a
few more, without regard to blanks around it and to the case of its letters; the sizes are also read
from numbers. What is no setting is refused with a reason that quotes it.
-/

namespace SerialLink.Line

/-- The text in the form in which words are compared. -/
def word (text : String) : String :=
  String.ofList (Text.lowered (Text.trimmed text.toList))

/-- How many bits a character has. -/
inductive DataBits where
  | five | six | seven | eight
  deriving DecidableEq, Repr

namespace DataBits

/-- The number of bits. -/
def size : DataBits → Nat
  | five => 5
  | six => 6
  | seven => 7
  | eight => 8

/-- The written form. -/
def text (bits : DataBits) : String :=
  toString bits.size

/-- Why something is no character size. -/
def refusal (given : String) : String :=
  "character size must be 5-8, got " ++ given

/-- The character size of a number of bits. -/
def ofSize (n : Nat) : Except String DataBits :=
  match n with
  | 5 => .ok five
  | 6 => .ok six
  | 7 => .ok seven
  | 8 => .ok eight
  | n => .error (refusal (toString n))

/-- Reads a character size. What is no number below 256 is quoted with the blanks around it. -/
def read (text : String) : Except String DataBits :=
  match Text.naturalUpTo? 255 (Text.trimmed text.toList) with
  | some n => ofSize n
  | none => .error (refusal (Text.quoted text))

end DataBits

/-- How the parity of characters is checked. -/
inductive Parity where
  | none | odd | even
  deriving DecidableEq, Repr

namespace Parity

/-- The written form. -/
def text : Parity → String
  | none => "none"
  | odd => "odd"
  | even => "even"

/-- The parity with exactly this written form. -/
def ofText? (text : String) : Option Parity :=
  [none, odd, even].find? (·.text == text)

/-- Reads a parity. -/
def read (text : String) : Except String Parity :=
  let given := word text
  if given = "none" ∨ given = "n" then .ok none
  else if given = "odd" ∨ given = "o" then .ok odd
  else if given = "even" ∨ given = "e" then .ok even
  else .error ("parity must be none, odd or even, got " ++ Text.quoted given)

end Parity

/-- How many stop bits follow a character. -/
inductive StopBits where
  | one | two
  deriving DecidableEq, Repr

namespace StopBits

/-- The number of bits. -/
def size : StopBits → Nat
  | one => 1
  | two => 2

/-- The written form. -/
def text (bits : StopBits) : String :=
  toString bits.size

/-- Why something is no number of stop bits. -/
def refusal (given : String) : String :=
  "stop bits must be 1 or 2, got " ++ given

/-- The setting for a number of bits. -/
def ofSize (n : Nat) : Except String StopBits :=
  match n with
  | 1 => .ok one
  | 2 => .ok two
  | n => .error (refusal (toString n))

/-- Reads a number of stop bits. -/
def read (text : String) : Except String StopBits :=
  let given := word text
  if given = "1" ∨ given = "one" then .ok one
  else if given = "2" ∨ given = "two" then .ok two
  else .error (refusal (Text.quoted given))

end StopBits

/-- How a receiver holds back a sender. -/
inductive FlowControl where
  | none | hardware | software
  deriving DecidableEq, Repr

namespace FlowControl

/-- The written form. -/
def text : FlowControl → String
  | none => "none"
  | hardware => "hardware"
  | software => "software"

/-- The flow control with exactly this written form. -/
def ofText? (text : String) : Option FlowControl :=
  [none, hardware, software].find? (·.text == text)

/-- Reads a flow control. -/
def read (text : String) : Except String FlowControl :=
  let given := word text
  if given = "none" then .ok none
  else if given = "hardware" ∨ given = "rtscts" then .ok hardware
  else if given = "software" ∨ given = "xonxoff" then .ok software
  else .error ("flow control must be none, hardware or software, got " ++ Text.quoted given)

end FlowControl

end SerialLink.Line
