import SerialLink.Single.Shortest
import SerialLink.Text.Digits

/-!
# Reading single-precision numbers

A number is an optional sign followed by `inf`, `infinity` or `nan` in any case, or by digits with
at most one point, at least one digit among them, and an optional exponent. The value is the nearest
single, a tie going to the even significand.
-/

namespace SerialLink

namespace Single

/-- The quotient nearest to `num / den`, a tie going to the even one. -/
def nearestQuotient (num den : Nat) : Nat :=
  let q := num / den
  let r := num % den
  if 2 * r < den then q
  else if den < 2 * r then q + 1
  else if q % 2 = 0 then q else q + 1

/-- The binary exponent of the last place of a single near `a`. -/
def lastPlace (a : Ratio) : Int :=
  let rough := (Nat.log2 a.num : Int) - Nat.log2 a.den - 24
  let fine := if (a.mul (Ratio.scaled 1 2 (-rough))).floor < 2 * leadingBit then rough else rough + 1
  if fine < -149 then -149 else fine

/-- The magnitude bits of the single nearest to `a`. -/
def magnitudeOf (a : Ratio) : Nat :=
  let place := lastPlace a
  let scaled := a.mul (Ratio.scaled 1 2 (-place))
  let bits := (place + 149).toNat * leadingBit + nearestQuotient scaled.num scaled.den
  if bits < infinityMagnitude then bits else infinityMagnitude

/-- The magnitude bits of the single nearest to a decimal. Far beyond the range the exponent alone
decides. -/
def magnitudeOfDecimal (d : Decimal) : Nat :=
  if d.digits = 0 then 0
  else
    let leading := d.exponent + Decimal.length d.digits
    if leading < -50 then 0
    else if 50 < leading then infinityMagnitude
    else magnitudeOf (Ratio.scaled d.digits 10 d.exponent)

/-- Why a text is no number. -/
inductive ReadFault where
  | empty
  | malformed
  deriving DecidableEq, Repr

/-- The fault in words. -/
def ReadFault.message : ReadFault → String
  | .empty => "cannot parse float from empty string"
  | .malformed => "invalid float literal"

/-- A decimal without a sign. -/
def decimalOf? (text : List Char) : Option Decimal :=
  let whole := text.takeWhile Char.isDigit
  let rest := text.dropWhile Char.isDigit
  let (fraction, rest) := match rest with
    | '.' :: tail => (tail.takeWhile Char.isDigit, tail.dropWhile Char.isDigit)
    | _ => ([], rest)
  if whole = [] ∧ fraction = [] then none
  else
    let digits := Text.digitsValue (whole ++ fraction)
    match rest with
    | [] => some ⟨digits, -(fraction.length : Int)⟩
    | c :: tail =>
      if c = 'e' ∨ c = 'E' then
        (Text.integer? tail).map fun e => ⟨digits, e - fraction.length⟩
      else none

/-- The magnitude bits that a word stands for. -/
def wordMagnitude? (text : List Char) : Option Nat :=
  let word := String.ofList (text.map Char.toLower)
  if word = "inf" ∨ word = "infinity" then some infinityMagnitude
  else if word = "nan" then some 0x7FC00000
  else none

/-- The magnitude bits of a text without a sign. -/
def magnitude? (text : List Char) : Option Nat :=
  (wordMagnitude? text).or ((decimalOf? text).map magnitudeOfDecimal)

/-- Reads a number. -/
def read (text : String) : Except ReadFault Single :=
  let (negative, rest) := match text.toList with
    | '-' :: rest => (true, rest)
    | '+' :: rest => (false, rest)
    | rest => (false, rest)
  if text.isEmpty then .error .empty
  else match magnitude? rest with
    | some magnitude => .ok (ofMagnitude negative magnitude)
    | none => .error .malformed

end Single

end SerialLink
