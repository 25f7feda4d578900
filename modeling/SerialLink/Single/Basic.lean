/-!
# Single-precision numbers

A single is kept as its 32 bits, so every payload of a NaN survives. Order goes by a key: the
magnitude bits with the sign, in which both zeros are equal.
-/

namespace SerialLink

/-- A single-precision number by its IEEE-754 bits. -/
structure Single where
  bits : UInt32
  deriving DecidableEq, Repr, Inhabited

namespace Single

/-- The bit of the sign. -/
def signBit : Nat := 0x80000000

/-- The leading bit of a significand, which is not stored. -/
def leadingBit : Nat := 0x800000

/-- All bits but the sign. -/
def magnitude (x : Single) : Nat :=
  x.bits.toNat % signBit

/-- The sign bit is set. -/
def isNegative (x : Single) : Bool :=
  signBit ≤ x.bits.toNat

/-- The magnitude of infinity; a larger one is no number. -/
def infinityMagnitude : Nat := 0x7F800000

/-- Not a number. -/
def isNaN (x : Single) : Bool :=
  infinityMagnitude < x.magnitude

/-- Neither infinite nor NaN. -/
def isFinite (x : Single) : Bool :=
  x.magnitude < infinityMagnitude

/-- A finite number is `significand · 2 ^ exponent` up to its sign. -/
def significand (x : Single) : Nat :=
  let field := x.magnitude / leadingBit
  let fraction := x.magnitude % leadingBit
  if field = 0 then fraction else fraction + leadingBit

/-- The binary exponent that goes with `significand`. -/
def exponent (x : Single) : Int :=
  let field : Nat := x.magnitude / leadingBit
  if field = 0 then -149 else Int.ofNat field - 150

/-- The place of a number in the order of values. -/
def key (x : Single) : Int :=
  if x.isNegative then -(x.magnitude : Int) else x.magnitude

/-- `x < y` as values; a NaN is below nothing and above nothing. -/
def lt (x y : Single) : Bool :=
  !x.isNaN && !y.isNaN && decide (x.key < y.key)

/-- `x ≤ y` as values; a NaN is comparable to nothing. -/
def le (x y : Single) : Bool :=
  !x.isNaN && !y.isNaN && decide (x.key ≤ y.key)

/-- The smaller of two values: a NaN gives way to a number, of two equal values the second counts,
and of two NaNs the first stands. -/
def min (x y : Single) : Single :=
  if y.le x || (x.isNaN && !y.isNaN) then y else x

/-- The larger of two values: a NaN gives way to a number, of two equal values the second counts,
and of two NaNs the first stands. -/
def max (x y : Single) : Single :=
  if x.le y || (x.isNaN && !y.isNaN) then y else x

/-- The single with a sign and magnitude bits. -/
def ofMagnitude (negative : Bool) (magnitude : Nat) : Single :=
  ⟨UInt32.ofNat (if negative then signBit + magnitude else magnitude)⟩

/-- The bytes of a single, least significant first. -/
def toBytes (x : Single) : List UInt8 :=
  [x.bits.toUInt8, (x.bits >>> 8).toUInt8, (x.bits >>> 16).toUInt8, (x.bits >>> 24).toUInt8]

/-- The single with these bytes, least significant first. -/
def ofBytes (a b c d : UInt8) : Single :=
  ⟨a.toUInt32 ||| (b.toUInt32 <<< 8) ||| (c.toUInt32 <<< 16) ||| (d.toUInt32 <<< 24)⟩

end Single

end SerialLink
