import SerialLink.Single.Basic

/-!
# Shortest digits

The decimal of fewest digits that reads back as a given finite single, and of those the nearest;
where two are equally near, the caller says which one counts.
A decimal reads back as `m · 2 ^ e` when it lies in the interval of reals that round to it; the
ends belong to the interval when `m` is even. Everything is compared exactly in natural numbers.
-/

namespace SerialLink

/-- A decimal number `digits · 10 ^ exponent`. -/
structure Decimal where
  digits : Nat
  exponent : Int
  deriving DecidableEq, Repr

namespace Decimal

/-- How many decimal digits a number has. -/
def length (n : Nat) : Nat :=
  (Nat.toDigits 10 n).length

/-- The same number without zeros at the end of its digits; `fuel` bounds how many are dropped. -/
def stripped : Nat → Decimal → Decimal
  | 0, d => d
  | fuel + 1, d =>
    if d.digits ≠ 0 ∧ d.digits % 10 = 0 then stripped fuel ⟨d.digits / 10, d.exponent + 1⟩ else d

end Decimal

/-- A positive rational number. -/
structure Ratio where
  num : Nat
  den : Nat
  deriving DecidableEq, Repr

namespace Ratio

/-- `n · b ^ e` for any integer exponent. -/
def scaled (n b : Nat) (e : Int) : Ratio :=
  ⟨n * Nat.pow b e.toNat, Nat.pow b (-e).toNat⟩

/-- The exact comparison of two ratios. -/
def le (a b : Ratio) : Bool :=
  a.num * b.den ≤ b.num * a.den

/-- The exact strict comparison of two ratios. -/
def lt (a b : Ratio) : Bool :=
  a.num * b.den < b.num * a.den

/-- How far two ratios lie apart, over the product of their denominators. -/
def gap (a b : Ratio) : Ratio :=
  ⟨(a.num * b.den - b.num * a.den) + (b.num * a.den - a.num * b.den), a.den * b.den⟩

/-- The product of two ratios. -/
def mul (a b : Ratio) : Ratio :=
  ⟨a.num * b.num, a.den * b.den⟩

/-- The whole part. -/
def floor (a : Ratio) : Nat :=
  a.num / a.den

/-- The exponent of the leading decimal digit of a ratio above `10 ^ (-60)`. -/
def leadingExponent (a : Ratio) : Int :=
  (Decimal.length (a.num * Nat.pow 10 60 / a.den) : Int) - 61

end Ratio

/-- The one of two neighbouring digits that counts when a number lies halfway between them. -/
inductive Tie where
  | up
  | toEven
  deriving DecidableEq, Repr

namespace Tie

/-- The neighbour above counts for a number halfway between `below` and `below + 1`. -/
def goesUp (tie : Tie) (below : Nat) : Bool :=
  match tie with
  | .up => true
  | .toEven => below % 2 = 1

end Tie

namespace Single

/-- The value of a finite single without its sign. -/
def value (x : Single) : Ratio :=
  Ratio.scaled x.significand 2 x.exponent

/-- The lower end of the reals that round to `x`: half a step below, a quarter where the steps below
are half as long. -/
def lowerEnd (x : Single) : Ratio :=
  if x.significand = leadingBit ∧ x.exponent ≠ -149 then
    Ratio.scaled (4 * x.significand - 1) 2 (x.exponent - 2)
  else Ratio.scaled (2 * x.significand - 1) 2 (x.exponent - 1)

/-- The upper end of the reals that round to `x`: half a step above. -/
def upperEnd (x : Single) : Ratio :=
  Ratio.scaled (2 * x.significand + 1) 2 (x.exponent - 1)

/-- A ratio rounds to `x`. -/
def readsBack (x : Single) (a : Ratio) : Bool :=
  if x.significand % 2 = 0 then x.lowerEnd.le a && a.le x.upperEnd
  else x.lowerEnd.lt a && a.lt x.upperEnd

/-- The decimal nearest to `x` on the grid `10 ^ k` among its two neighbours there, if one of them
reads back. -/
def onGrid (tie : Tie) (x : Single) (k : Int) : Option Decimal :=
  let below := (x.value.mul (Ratio.scaled 1 10 (-k))).floor
  let low := Ratio.scaled below 10 k
  let high := Ratio.scaled (below + 1) 10 k
  match x.readsBack low, x.readsBack high with
  | true, true =>
    let down := (x.value.gap low).lt (x.value.gap high)
    let level := !down && (x.value.gap low).le (x.value.gap high)
    if down || (level && !tie.goesUp below) then some ⟨below, k⟩ else some ⟨below + 1, k⟩
  | true, false => some ⟨below, k⟩
  | false, true => some ⟨below + 1, k⟩
  | false, false => none

/-- The first grid with a hit, from `count` digits on; `fuel` more digits are tried. -/
def shortestFrom (tie : Tie) (x : Single) : Nat → Nat → Option Decimal
  | 0, _ => none
  | fuel + 1, count =>
    (onGrid tie x (x.value.leadingExponent - count + 1)).or (shortestFrom tie x fuel (count + 1))

/-- The shortest digits of a finite single, without its sign; nine always suffice. -/
def shortest (tie : Tie) (x : Single) : Decimal :=
  if x.significand = 0 then ⟨0, 0⟩
  else ((shortestFrom tie x 9 1).getD ⟨0, 0⟩).stripped 50

end Single

end SerialLink
