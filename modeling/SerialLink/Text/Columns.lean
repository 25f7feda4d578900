import SerialLink.Text.Picture
import SerialLink.Text.Width

/-!
# Columns of a line

A line is as wide as its characters together, except where neighbours are drawn as one: letters that
join, and pictures made of several characters. What a character adds depends on what stands behind
it, so a line is measured from its end.
-/

namespace SerialLink.Text

/-- What stands behind a character, as far as it may join with it. -/
inductive Follower where
  /-- nothing that joins -/
  | plain
  | lineFeed
  | alef
  | lamed (joined : Bool)
  | ya (joined : Bool)
  | yaBehindVowel
  | tifinagh (joined : Bool)
  | tifinaghJoiner
  | lisuTone
  | orkhonI (joined : Bool)
  | coengLetter
  | kiratE
  | kiratAi
  | tone
  | picture
  | joinedPicture
  | joinedKeycap
  | indicator
  | indicators
  /-- regional indicators that a picture is joined to -/
  | joinedIndicator
  | evenIndicators
  | oddIndicators
  /-- the end of a tag with some letters in front of it -/
  | tagLetters (count : Nat)
  /-- the end of a tag with some digits in front of it -/
  | tagDigits (count : Nat)
  deriving DecidableEq, Repr

/-- What a selector asks of the character in front of it. -/
inductive Selector where
  | picture
  | text
  | fullQuote
  deriving DecidableEq, Repr

/-- What stands behind a character, with a selector in front of it if there is one. -/
structure Behind where
  follower : Follower := .plain
  selector : Option Selector := none
  deriving DecidableEq, Repr

/-- The forms of alef. -/
def alefs : CodePoints where
  bounds := [
    0x622, 0x624, 0x625, 0x626, 0x627, 0x628, 0x671, 0x674, 0x675, 0x676, 0x773, 0x775, 0x870,
    0x883]

/-- The forms of lam. -/
def lams : CodePoints where
  bounds := [
    0x644, 0x645, 0x6B5, 0x6B9, 0x76A, 0x76B, 0x8A6, 0x8A7, 0x8C7, 0x8C8]

/-- The letters that can be written below another one. -/
def coengLetters : CodePoints where
  bounds := [
    0x1780, 0x1783, 0x1784, 0x1788, 0x1789, 0x178D, 0x178E, 0x1794, 0x1795, 0x1799, 0x179B, 0x179E,
    0x17A0, 0x17A1, 0x17A2, 0x17A3, 0x17A7, 0x17A8, 0x17AB, 0x17AD, 0x17AF, 0x17B0]

/-- The code points without a column that keep the letters around them from joining. -/
def separating : CodePoints where
  bounds := [
    0x605, 0x606, 0x890, 0x892, 0x8E2, 0x8E3, 0x9BE, 0x9BF, 0x9D7, 0x9D8, 0xB3E, 0xB3F, 0xB57,
    0xB58, 0xBBE, 0xBBF, 0xBD7, 0xBD8, 0xCC0, 0xCC1, 0xCC2, 0xCC3, 0xCC7, 0xCC9, 0xCCA, 0xCCC,
    0xCD5, 0xCD7, 0xD3E, 0xD3F, 0xD4E, 0xD4F, 0xD57, 0xD58, 0xDCF, 0xDD0, 0xDDF, 0xDE0, 0x1160,
    0x1200, 0x1715, 0x1716, 0x1734, 0x1735, 0x180E, 0x180F, 0x1B35, 0x1B36, 0x1B3B, 0x1B3C, 0x1B3D,
    0x1B3E, 0x1B43, 0x1B45, 0x1BAA, 0x1BAB, 0x1BF2, 0x1BF4, 0x200C, 0x200E, 0x2065, 0x206A, 0x302E,
    0x3030, 0x3164, 0x3165, 0xA8FA, 0xA8FB, 0xA953, 0xA954, 0xA9C0, 0xA9C1, 0xD7B0, 0xD7C7, 0xD7CB,
    0xD7FC, 0xFFA0, 0xFFA1, 0xFFF0, 0xFFF9, 0x111C0, 0x111C1, 0x111C2, 0x111C4, 0x11235, 0x11236,
    0x1133E, 0x1133F, 0x1134D, 0x1134E, 0x11357, 0x11358, 0x113B8, 0x113B9, 0x113C2, 0x113C3,
    0x113C5, 0x113C6, 0x113C7, 0x113CA, 0x113CF, 0x113D0, 0x113D1, 0x113D2, 0x114B0, 0x114B1,
    0x114BD, 0x114BE, 0x115AF, 0x115B0, 0x116B6, 0x116B7, 0x11930, 0x11931, 0x1193D, 0x1193E,
    0x1193F, 0x11940, 0x11941, 0x11942, 0x11A3A, 0x11A3B, 0x11A84, 0x11A8A, 0x11D46, 0x11D47,
    0x11F02, 0x11F03, 0x11F41, 0x11F42, 0x16FF0, 0x16FF2, 0x1D165, 0x1D167, 0x1D16D, 0x1D173,
    0xE0000, 0xE0001, 0xE0002, 0xE0020, 0xE0080, 0xE0100, 0xE01F0, 0xE1000]

/-- The marks that are ignorable by default. -/
def ignorableMarks : CodePoints where
  bounds := [
    0x34F, 0x350, 0x17B4, 0x17B6, 0x180B, 0x180E, 0x180F, 0x1810, 0xFE00, 0xFE10, 0xE0100, 0xE01F0]

/-- A consonant that joins with another one. -/
def isTifinagh (n : Nat) : Bool :=
  (0x2D31 ≤ n && n ≤ 0x2D65) || n == 0x2D6F

/-- The quotation marks that have a full-width form. -/
def isQuote (n : Nat) : Bool :=
  n == 0x2018 || n == 0x2019 || n == 0x201C || n == 0x201D

/-- A letter of a tag. -/
def isTagLetter (n : Nat) : Bool :=
  0xE0061 ≤ n && n ≤ 0xE007A

/-- A digit of a tag. -/
def isTagDigit (n : Nat) : Bool :=
  0xE0030 ≤ n && n ≤ 0xE0039

namespace Follower

/-- The start of letters that join. -/
def isLetter : Follower → Bool
  | alef | lamed _ | ya _ | yaBehindVowel | tifinagh _ | tifinaghJoiner | lisuTone | orkhonI _
  | coengLetter => true
  | _ => false

/-- Letters are still joined across a selector, and nothing else is. -/
def lasting (f : Follower) : Follower :=
  if f.isLetter then f else plain

/-- A picture that waits for the one it is joined to. -/
def isJoinedPicture (f : Follower) : Bool :=
  f == joinedPicture || f == joinedKeycap

/-- The same letters behind a joiner. -/
def joined : Follower → Follower
  | lamed _ => lamed true
  | ya _ => ya true
  | tifinagh _ => tifinagh true
  | orkhonI _ => orkhonI true
  | f => f

/-- What a character counts for as a follower on its own. -/
def ofChar (n : Nat) : Follower :=
  if n ≤ 0xA0 then if n = 0x0A then lineFeed else plain
  else if n = 0x5DC then lamed false
  else if alefs.has n then alef
  else if coengLetters.has n then coengLetter
  else if n = 0x1A10 then ya false
  else if isTifinagh n then tifinagh false
  else if n = 0xA4FC ∨ n = 0xA4FD then lisuTone
  else if n = 0x10C03 then orkhonI false
  else if n = 0x16D67 then kiratE
  else if n = 0x16D68 then kiratAi
  else if isIndicator n then indicator
  else if isTone n then tone
  else if pictures.has n then picture
  else plain

/-- What the end of a tag makes of a character in front of it and of its letters. -/
def tagged (letters n : Nat) : Option Follower :=
  if isTagLetter n ∧ letters < 6 then some (tagLetters (letters + 1))
  else if isTagDigit n ∧ letters < 5 then some (tagDigits 1)
  else if n = 0x1F3F4 ∧ 3 ≤ letters then some picture
  else none

/-- What a joined picture makes of a character in front of it. -/
def joining (n : Nat) : Option (Int × Follower) :=
  if n = 0x20E3 then some (0, joinedKeycap)
  else if isIndicator n then some (1, joinedIndicator)
  else if isTone n then some (0, tone)
  else if n = 0xE007F then some (0, tagLetters 0)
  else if pictures.has n then some (0, picture)
  else none

/-- What a character adds to the width in front of one that it joins with, and what both are to the
next. -/
def join (f : Follower) (n : Nat) : Option (Int × Follower) :=
  match f with
  | plain | joinedKeycap => none
  | lineFeed => if n = 0x0D then some (0, plain) else none
  | alef =>
    if lams.has n then some (0, plain)
    else if widthless.has n ∧ ¬ separating.has n then some (0, alef)
    else none
  | lamed joined => if joined ∧ n = 0x5D0 then some (0, plain) else none
  | ya joined => if joined ∧ n = 0x1A17 then some (0, yaBehindVowel) else none
  | yaBehindVowel => if n = 0x1A15 then some (0, plain) else none
  | tifinagh joined =>
    if n = 0x2D7F then some (1, tifinaghJoiner)
    else if joined ∧ isTifinagh n then some (0, plain)
    else none
  | tifinaghJoiner => if isTifinagh n then some (-1, plain) else none
  | lisuTone => if 0xA4F8 ≤ n ∧ n ≤ 0xA4FB then some (0, plain) else none
  | orkhonI joined => if joined ∧ n = 0x10C32 then some (0, plain) else none
  | coengLetter => if n = 0x17D2 then some (-1, plain) else none
  | kiratE =>
    if n = 0x16D63 ∨ n = 0x16D69 then some (0, plain)
    else if n = 0x16D67 then some (0, kiratAi)
    else if n = 0x16D68 then some (1, kiratE)
    else none
  | kiratAi => if n = 0x16D63 then some (0, plain) else none
  | tone =>
    if toned.has n then some (0, picture)
    else if n = 0x200D then some (0, joinedPicture)
    else none
  | picture => if n = 0x200D then some (0, joinedPicture) else none
  | joinedPicture => joining n
  | indicator => if isIndicator n then some (1, indicators) else none
  | indicators =>
    if isIndicator n then some (1, indicators)
    else if n = 0x200D then some (0, joinedPicture)
    else none
  | joinedIndicator => if isIndicator n then some (-1, evenIndicators) else none
  | evenIndicators =>
    if isIndicator n then some (3, oddIndicators)
    else if n = 0x200D then some (0, joinedPicture)
    else none
  | oddIndicators =>
    if isIndicator n then some (-1, evenIndicators)
    else if n = 0x200D then some (0, joinedPicture)
    else none
  | tagLetters letters => (tagged letters n).map fun f => (0, f)
  | tagDigits digits =>
    if isTagDigit n ∧ digits < 3 then some (0, tagDigits (digits + 1))
    else if n = 0x1F3F4 ∧ digits = 3 then some (0, picture)
    else none

/-- Joiners and ignorable marks between letters leave them joined; a joiner means nothing to alef,
which has marks of its own. -/
def pass (f : Follower) (n : Nat) : Option Follower :=
  if !f.isLetter || f == alef then none
  else if n = 0x200D then some f.joined
  else if ignorableMarks.has n then some f
  else none

end Follower

/-- The selector that a code point is. -/
def selector? (n : Nat) : Option Selector :=
  if n = 0xFE0F then some .picture
  else if n = 0xFE0E then some .text
  else if n = 0xFE01 then some .fullQuote
  else none

namespace Behind

/-- What follows with a selector in front of it. -/
def selected (b : Behind) (s : Selector) : Behind :=
  if s = .picture ∧ b.follower.isJoinedPicture then ⟨b.follower, some s⟩
  else ⟨b.follower.lasting, some s⟩

/-- What a selector makes of the character in front of it. -/
def choose (b : Behind) (n : Nat) : Option (Int × Follower) :=
  match b.selector with
  | none => none
  | some .picture =>
    if selectable.has n then some (if b.follower.isJoinedPicture then 0 else 2, .picture) else none
  | some .text => if isPlainable n then some (1, .plain) else none
  | some .fullQuote => if isQuote n then some (2, .plain) else none

/-- What follows once its selector has met a character that it means nothing to. -/
def unselected (b : Behind) : Follower :=
  if b.selector.isSome then b.follower.lasting else b.follower

/-- What a character adds to the width, and what it is with all behind it to the next one. -/
def step (c : Char) (b : Behind) : Int × Behind :=
  let n := c.toNat
  match b.choose n with
  | some (width, f) => (width, { follower := f })
  | none =>
    let f := b.unselected
    match selector? n with
    | some s => (0, selected ⟨f, none⟩ s)
    | none =>
      match f.pass n with
      | some f => (0, { follower := f })
      | none =>
        match f.join n with
        | some (width, f) => (width, { follower := f })
        | none => (charColumns c, { follower := .ofChar n })

end Behind

/-- The width of a line so far and what it starts with. -/
def measure (line : List Char) : Int × Behind :=
  line.foldr (fun c (width, b) => let (more, b) := b.step c; (width + more, b)) (0, {})

/-- The columns of a line. -/
def columns (line : List Char) : Nat :=
  (measure line).1.toNat

@[simp] theorem columns_nil : columns [] = 0 := rfl

end SerialLink.Text
