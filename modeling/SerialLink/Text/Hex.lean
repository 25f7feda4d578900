/-!
# Hexadecimal text

Bytes are written as two lower-case digits each with nothing between them; command ids and
checksums as four upper-case digits. `toBytes?` reads what `ofBytes` writes.
-/

namespace SerialLink.Hex

/-- The digit for `n < 16`, the digit for ten being `ten`. -/
def digit (ten : Char) (n : Nat) : Char :=
  if n < 10 then Char.ofNat ('0'.toNat + n) else Char.ofNat (ten.toNat + (n - 10))

/-- The last `count` digits of `n`, most significant first. -/
def digits (ten : Char) : Nat → Nat → List Char
  | 0, _ => []
  | count + 1, n => digits ten count (n / 16) ++ [digit ten (n % 16)]

/-- A byte with its mark, `0xA5`. -/
def byte (b : UInt8) : String :=
  "0x" ++ String.ofList (digits 'A' 2 b.toNat)

/-- A word with its mark, `0x00A5`. -/
def word (w : UInt16) : String :=
  "0x" ++ String.ofList (digits 'A' 4 w.toNat)

/-- Bytes as lower-case digits without separators. -/
def ofBytes (bytes : List UInt8) : String :=
  String.ofList (bytes.flatMap fun b => digits 'a' 2 b.toNat)

/-- The value of a digit of either case. -/
def value? (c : Char) : Option Nat :=
  if '0' ≤ c ∧ c ≤ '9' then some (c.toNat - '0'.toNat)
  else if 'a' ≤ c ∧ c ≤ 'f' then some (c.toNat - 'a'.toNat + 10)
  else if 'A' ≤ c ∧ c ≤ 'F' then some (c.toNat - 'A'.toNat + 10)
  else none

/-- Pairs of digits as bytes. -/
def bytesOf? : List Char → Option (List UInt8)
  | [] => some []
  | [_] => none
  | high :: low :: rest => do
    let h ← value? high
    let l ← value? low
    let bytes ← bytesOf? rest
    return UInt8.ofNat (h * 16 + l) :: bytes

/-- The bytes that a text of digit pairs stands for. -/
def toBytes? (text : String) : Option (List UInt8) :=
  bytesOf? text.toList

end SerialLink.Hex
