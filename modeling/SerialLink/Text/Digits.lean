/-!
# Decimal digits

Whole numbers as runs of decimal digits, and the reading of a text that is nothing but a number:
a natural one may have a plus sign in front, an integer either sign. Zeros in front change nothing.
-/

namespace SerialLink.Text

/-- The digits of a number, without zeros in front. -/
def digitsOf (n : Nat) : List Char :=
  Nat.toDigits 10 n

/-- The value of a run of digits. -/
def digitsValue (digits : List Char) : Nat :=
  digits.foldl (fun n c => n * 10 + (c.toNat - '0'.toNat)) 0

/-- The value of a text that is one digit or more. -/
def unsigned? (text : List Char) : Option Nat :=
  if text ≠ [] ∧ text.all Char.isDigit then some (digitsValue text) else none

/-- The value of a text that is a natural number. -/
def natural? : List Char → Option Nat
  | '+' :: text => unsigned? text
  | text => unsigned? text

/-- The value of a text that is an integer. -/
def integer? : List Char → Option Int
  | '-' :: text => (unsigned? text).map fun n => -(n : Int)
  | text => (natural? text).map Int.ofNat

/-- The value of a text that is a natural number of at most `limit`. -/
def naturalUpTo? (limit : Nat) (text : List Char) : Option Nat :=
  (natural? text).filter (· ≤ limit)

end SerialLink.Text
