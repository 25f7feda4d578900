import SerialLink.Single.Shortest
import SerialLink.Text.Digits

/-!
# Layout of a number's digits

Both layouts write the shortest digits. Readable text is positional throughout, and a tie between
digits goes up; document text is positional for leading exponents from -6 to 12 and keeps a fraction
there, has a signed exponent elsewhere, and its ties go to the even digit. A document has no word for
infinities and NaN.
-/

namespace SerialLink

/-- The digits of a number with the point put in place, and none when the number is whole. -/
def Decimal.positional (d : Decimal) : List Char :=
  let digits := Text.digitsOf d.digits
  if 0 ≤ d.exponent then digits ++ List.replicate d.exponent.toNat '0'
  else
    let places := (-d.exponent).toNat
    let padded := List.replicate (places + 1 - digits.length) '0' ++ digits
    padded.take (padded.length - places) ++ '.' :: padded.drop (padded.length - places)

/-- The exponent of the leading digit. -/
def Decimal.leading (d : Decimal) : Int :=
  d.exponent + Decimal.length d.digits - 1

/-- One digit, the others behind the point, and the exponent with its sign. -/
def Decimal.scientific (d : Decimal) : List Char :=
  let sign := if d.leading < 0 then '-' else '+'
  let mantissa := match Text.digitsOf d.digits with
    | [] => []
    | [c] => [c]
    | c :: rest => c :: '.' :: rest
  mantissa ++ 'e' :: sign :: Text.digitsOf d.leading.natAbs

namespace Single

/-- The digits after the sign of the number. -/
def signed (x : Single) (digits : List Char) : String :=
  String.ofList (if x.isNegative then '-' :: digits else digits)

/-- A number for readers: never an exponent, and no point in a whole number. -/
def text (x : Single) : String :=
  if x.isNaN then "NaN"
  else if x.isFinite then x.signed (x.shortest .up).positional
  else x.signed ['i', 'n', 'f']

/-- The exponents of the leading digit that a document writes positionally. -/
def isPlain (d : Decimal) : Bool :=
  -6 ≤ d.leading && d.leading ≤ 12

/-- A number in a document, `null` for what is not finite. -/
def documentText (x : Single) : String :=
  if x.isFinite then
    let d := x.shortest .toEven
    if isPlain d then
      x.signed (if 0 ≤ d.exponent then d.positional ++ ['.', '0'] else d.positional)
    else x.signed d.scientific
  else "null"

end Single

end SerialLink
