import SerialLink.Single.Reader

/-!
# Numbers in documents

A number is a whole part, which may have a minus sign in front, and an optional fraction and
exponent. It is read only if a double can hold it.
-/

namespace SerialLink.Document

/-- A number as it is written. -/
structure NumberText where
  negative : Bool
  whole : List Char
  fraction : Option (List Char)
  exponent : Option Int
  deriving DecidableEq, Repr

/-- One digit or more, and the rest. -/
def digits? (cs : List Char) : Option (List Char × List Char) :=
  let digits := cs.takeWhile Char.isDigit
  if digits = [] then none else some (digits, cs.dropWhile Char.isDigit)

/-- The part of a number before the point: no zero stands in front of other digits. -/
def wholePart? (cs : List Char) : Option (List Char × List Char) := do
  let (digits, rest) ← digits? cs
  if digits.head? = some '0' ∧ digits ≠ ['0'] then none else some (digits, rest)

/-- A point and the digits behind it, if there is a point. -/
def fractionPart? : List Char → Option (Option (List Char) × List Char)
  | '.' :: rest => (digits? rest).map fun (digits, rest) => (some digits, rest)
  | rest => some (none, rest)

/-- The exponent behind its letter. -/
def signedPart? (cs : List Char) : Option (Int × List Char) :=
  match cs with
  | '-' :: rest => (digits? rest).map fun (digits, rest) => (-(Text.digitsValue digits : Int), rest)
  | '+' :: rest => (digits? rest).map fun (digits, rest) => ((Text.digitsValue digits : Int), rest)
  | rest => (digits? rest).map fun (digits, rest) => ((Text.digitsValue digits : Int), rest)

/-- A letter and the exponent behind it, if there is a letter. -/
def exponentPart? : List Char → Option (Option Int × List Char)
  | c :: rest =>
    if c = 'e' ∨ c = 'E' then (signedPart? rest).map fun (e, rest) => (some e, rest)
    else some (none, c :: rest)
  | [] => some (none, [])

/-- The number at the start of a text. -/
def numberText? (cs : List Char) : Option (NumberText × List Char) := do
  let (negative, rest) := match cs with
    | '-' :: rest => (true, rest)
    | rest => (false, rest)
  let (whole, rest) ← wholePart? rest
  let (fraction, rest) ← fractionPart? rest
  let (exponent, rest) ← exponentPart? rest
  return (⟨negative, whole, fraction, exponent⟩, rest)

/-- A run of digits up to the first that no longer fits 64 bits behind the number `n`: the number with
the digits that fit, and the digits that do not. -/
def fitting (n : Nat) : List Char → Nat × List Char
  | [] => (n, [])
  | c :: digits =>
    let longer := n * 10 + Text.digitsValue [c]
    if longer < UInt64.size then fitting longer digits else (n, c :: digits)

/-- The double nearest to a natural number, if it is no larger than the largest. -/
def nearestDouble (n : Nat) : Nat :=
  let step := Nat.pow 2 (Nat.log2 n - 52)
  Single.nearestQuotient n step * step

/-- The least number that the nearest double no longer holds. -/
def beyondDoubles : Nat := Nat.pow 2 1024 - Nat.pow 2 970

namespace NumberText

/-- The magnitude of a number by the digits that fit 64 bits. Further digits of the whole part count
as zeros, further ones of the fraction not at all. -/
def magnitude (n : NumberText) : Decimal :=
  let fraction := n.fraction.getD []
  let (digits, dropped) := fitting 0 n.whole
  let (digits, ignored) := fitting digits fraction
  ⟨digits, (dropped.length : Int) - (fraction.length - ignored.length : Nat) + n.exponent.getD 0⟩

/-- The number is too large for a double, as far as doubles tell: its digits and the power of ten are
rounded before they are multiplied. -/
def overflows (n : NumberText) : Bool :=
  let d := n.magnitude
  d.digits ≠ 0 && (308 < d.exponent ||
    beyondDoubles ≤ nearestDouble d.digits * nearestDouble (Nat.pow 10 d.exponent.toNat))

/-- The value of a number that is written without sign, point and exponent. -/
def natural? (n : NumberText) : Option Nat :=
  if n.negative ∨ n.fraction.isSome ∨ n.exponent.isSome then none
  else some (Text.digitsValue n.whole)

end NumberText

/-- The number at the start of a text, unless it is too large for a double. -/
def number? (cs : List Char) : Option (NumberText × List Char) := do
  let (n, rest) ← numberText? cs
  if n.overflows then none else some (n, rest)

end SerialLink.Document
