/-!
# UTF-8 text

`encode` is the byte form of a text. `decode` reads any bytes: each maximal ill-formed part becomes
one replacement character, so a stray byte costs itself and a cut sequence costs one mark.
`fitting` is the longest start of a text whose byte form has room.
-/

namespace SerialLink.Utf8

/-- The byte form of a text. -/
def encode (text : List Char) : List UInt8 :=
  text.flatMap String.utf8EncodeChar

/-- What stands for an ill-formed part. -/
def replacement : Char := '\uFFFD'

/-- `b` continues a sequence and lies in `[low, high]`. -/
def continues (low high b : UInt8) : Bool :=
  low ≤ b && b ≤ high

/-- The six low bits of a continuation byte. -/
def payload (b : UInt8) : Nat :=
  b.toNat % 64

/-- The second bytes that may follow the lead byte of a three-byte sequence: no overlong form and no
surrogate. -/
def second3 (lead : UInt8) : UInt8 × UInt8 :=
  if lead = 0xE0 then (0xA0, 0xBF) else if lead = 0xED then (0x80, 0x9F) else (0x80, 0xBF)

/-- The second bytes that may follow the lead byte of a four-byte sequence: no overlong form and
nothing past the last code point. -/
def second4 (lead : UInt8) : UInt8 × UInt8 :=
  if lead = 0xF0 then (0x90, 0xBF) else if lead = 0xF4 then (0x80, 0x8F) else (0x80, 0xBF)

/-- The character of a two-byte sequence. -/
def char2 (a b : UInt8) : Char :=
  Char.ofNat (a.toNat % 32 * 64 + payload b)

/-- The character of a three-byte sequence. -/
def char3 (a b c : UInt8) : Char :=
  Char.ofNat ((a.toNat % 16 * 64 + payload b) * 64 + payload c)

/-- The character of a four-byte sequence. -/
def char4 (a b c d : UInt8) : Char :=
  Char.ofNat (((a.toNat % 8 * 64 + payload b) * 64 + payload c) * 64 + payload d)

/-- Reads bytes as text, one `replacement` for each maximal ill-formed part. -/
def decode : List UInt8 → List Char
  | [] => []
  | a :: rest =>
    if a < 0x80 then Char.ofNat a.toNat :: decode rest
    else if continues 0xC2 0xDF a then
      match rest with
      | [] => [replacement]
      | b :: rest' =>
        if continues 0x80 0xBF b then char2 a b :: decode rest'
        else replacement :: decode (b :: rest')
    else if continues 0xE0 0xEF a then
      match rest with
      | [] => [replacement]
      | [b] =>
        if continues (second3 a).1 (second3 a).2 b then [replacement]
        else replacement :: decode [b]
      | b :: c :: rest' =>
        if continues (second3 a).1 (second3 a).2 b then
          if continues 0x80 0xBF c then char3 a b c :: decode rest'
          else replacement :: decode (c :: rest')
        else replacement :: decode (b :: c :: rest')
    else if continues 0xF0 0xF4 a then
      match rest with
      | [] => [replacement]
      | [b] =>
        if continues (second4 a).1 (second4 a).2 b then [replacement]
        else replacement :: decode [b]
      | [b, c] =>
        if continues (second4 a).1 (second4 a).2 b then
          if continues 0x80 0xBF c then [replacement]
          else replacement :: decode [c]
        else replacement :: decode [b, c]
      | b :: c :: d :: rest' =>
        if continues (second4 a).1 (second4 a).2 b then
          if continues 0x80 0xBF c then
            if continues 0x80 0xBF d then char4 a b c d :: decode rest'
            else replacement :: decode (d :: rest')
          else replacement :: decode (c :: d :: rest')
        else replacement :: decode (b :: c :: d :: rest')
    else replacement :: decode rest
termination_by bytes => bytes.length

/-- Every sequence of the bytes is well formed. -/
def isValid (bytes : List UInt8) : Bool :=
  encode (decode bytes) == bytes

/-- The longest start of `text` whose byte form has at most `room` bytes. -/
def fitting : Nat → List Char → List Char
  | _, [] => []
  | room, c :: rest =>
    if c.utf8Size ≤ room then c :: fitting (room - c.utf8Size) rest else []

end SerialLink.Utf8
