import SerialLink.Document.Number
import SerialLink.Text.Hex

/-!
# Reading documents

A document is read once, from left to right, into a value of a known shape. It is refused as
malformed where it is no document, and as unsuitable where what stands there cannot belong to the
value; the first reason met is the one given. A record is read from named fields in any order or
from a list of the fields in their order. Fields that are left out keep their defaults, unknown ones
are passed over, and a known one may stand there once.
-/

namespace SerialLink.Document

/-- Why a document is not read. -/
inductive Refusal where
  | malformed
  | unsuitable (reason : Option String)
  deriving DecidableEq, Repr

/-- Reads a value from the start of a text and gives it with what stands behind it. -/
abbrev ReaderOf (α : Type) := List Char → Except Refusal (α × List Char)

/-- What is no document is malformed. -/
def orMalformed {α : Type} : Option α → Except Refusal α
  | some a => .ok a
  | none => .error .malformed

/-- The characters that may stand between the parts of a document. -/
def isGap (c : Char) : Bool :=
  c == ' ' || c == '\n' || c == '\t' || c == '\r'

/-- A text from its first character that is no gap. -/
def behindGap (cs : List Char) : List Char :=
  cs.dropWhile isGap

/-- What stands behind a word that starts a text. -/
def behindWord? : List Char → List Char → Option (List Char)
  | [], cs => some cs
  | c :: word, d :: cs => if c = d then behindWord? word cs else none
  | _ :: _, [] => none

/-! ## Texts -/

/-- Four digits as a number, and the rest. -/
def unit? : List Char → Option (Nat × List Char)
  | a :: b :: c :: d :: rest => do
    let a ← Hex.value? a
    let b ← Hex.value? b
    let c ← Hex.value? c
    let d ← Hex.value? d
    return (((a * 16 + b) * 16 + c) * 16 + d, rest)
  | _ => none

/-- The character for which a short escape stands. -/
def shortEscape? (c : Char) : Option Char :=
  if c = '"' ∨ c = '\\' ∨ c = '/' then some c
  else if c = 'b' then some '\x08'
  else if c = 'f' then some '\x0c'
  else if c = 'n' then some '\n'
  else if c = 'r' then some '\r'
  else if c = 't' then some '\t'
  else none

/-- A unit that may only stand in front of a trailing one. -/
def isLeading (n : Nat) : Bool :=
  0xD800 ≤ n && n < 0xDC00

/-- A unit that may only stand behind a leading one. -/
def isTrailing (n : Nat) : Bool :=
  0xDC00 ≤ n && n < 0xE000

/-- The character of an escaped code point, which may take two units. -/
def codePoint? (cs : List Char) : Option (Char × List Char) := do
  let (n, rest) ← unit? cs
  if isTrailing n then none
  else if isLeading n then
    match rest with
    | '\\' :: 'u' :: rest => do
      let (m, rest) ← unit? rest
      if isTrailing m then some (Char.ofNat (0x10000 + (n - 0xD800) * 0x400 + (m - 0xDC00)), rest)
      else none
    | _ => none
  else some (Char.ofNat n, rest)

/-- The character at the start of a text's inside, and the rest. -/
def char? : List Char → Option (Char × List Char)
  | '\\' :: 'u' :: rest => codePoint? rest
  | '\\' :: c :: rest => (shortEscape? c).map fun c => (c, rest)
  | c :: rest => if c = '\\' ∨ c.toNat < 0x20 then none else some (c, rest)
  | [] => none

/-- The inside of a text up to its closing quote, and the rest; `fuel` bounds the characters. -/
def inside? : Nat → List Char → Option (List Char × List Char)
  | 0, _ => none
  | fuel + 1, cs =>
    match cs with
    | '"' :: rest => some ([], rest)
    | _ => do
      let (c, rest) ← char? cs
      let (s, rest) ← inside? fuel rest
      return (c :: s, rest)

/-- A text behind its opening quote. -/
def textBehindQuote? (cs : List Char) : Option (String × List Char) :=
  (inside? cs.length cs).map fun (s, rest) => (String.ofList s, rest)

/-! ## Passing over values -/

/-- What stands behind the closing quote of a text whose escaped units are not paired. -/
def skipText? : List Char → Option (List Char)
  | '"' :: rest => some rest
  | '\\' :: 'u' :: a :: b :: c :: d :: rest =>
    if [a, b, c, d].all fun c => (Hex.value? c).isSome then skipText? rest else none
  | '\\' :: c :: rest => if (shortEscape? c).isSome then skipText? rest else none
  | c :: rest => if c = '\\' ∨ c.toNat < 0x20 then none else skipText? rest
  | [] => none

/-- What stands behind a name and its colon. -/
def skipName? (cs : List Char) : Option (List Char) :=
  match behindGap cs with
  | '"' :: rest => do
    match behindGap (← skipText? rest) with
    | ':' :: rest => some rest
    | _ => none
  | _ => none

mutual

/-- What stands behind a value; `fuel` bounds the values and brackets passed over. -/
def skipValue? : Nat → List Char → Option (List Char)
  | 0, _ => none
  | fuel + 1, cs =>
    match behindGap cs with
    | '"' :: rest => skipText? rest
    | 'n' :: rest => behindWord? ['u', 'l', 'l'] rest
    | 't' :: rest => behindWord? ['r', 'u', 'e'] rest
    | 'f' :: rest => behindWord? ['a', 'l', 's', 'e'] rest
    | '[' :: rest =>
      match behindGap rest with
      | ']' :: rest => some rest
      | rest => (skipValue? fuel rest).bind (skipItems? fuel)
    | '\x7b' :: rest =>
      match behindGap rest with
      | '\x7d' :: rest => some rest
      | rest => (skipName? rest).bind fun rest => (skipValue? fuel rest).bind (skipFields? fuel)
    | rest => (numberText? rest).map Prod.snd

/-- What stands behind a list of which at least one item has been passed over. -/
def skipItems? : Nat → List Char → Option (List Char)
  | 0, _ => none
  | fuel + 1, cs =>
    match behindGap cs with
    | ']' :: rest => some rest
    | ',' :: rest => (skipValue? fuel rest).bind (skipItems? fuel)
    | _ => none

/-- What stands behind a record of which at least one field has been passed over. -/
def skipFields? : Nat → List Char → Option (List Char)
  | 0, _ => none
  | fuel + 1, cs =>
    match behindGap cs with
    | '\x7d' :: rest => some rest
    | ',' :: rest =>
      (skipName? rest).bind fun rest => (skipValue? fuel rest).bind (skipFields? fuel)
    | _ => none

end

/-! ## Values of a known shape -/

/-- The refusal of what stands at the start of a text, which has no gap there: it is unsuitable if
it is a value, as far as a look at its first part tells. -/
def unfit (cs : List Char) : Refusal :=
  let known (rest : Option (List Char)) : Refusal :=
    if rest.isSome then .unsuitable none else .malformed
  match cs with
  | 'n' :: rest => known (behindWord? ['u', 'l', 'l'] rest)
  | 't' :: rest => known (behindWord? ['r', 'u', 'e'] rest)
  | 'f' :: rest => known (behindWord? ['a', 'l', 's', 'e'] rest)
  | '"' :: rest => known ((textBehindQuote? rest).map Prod.snd)
  | '[' :: _ | '\x7b' :: _ => .unsuitable none
  | rest => known ((number? rest).map Prod.snd)

/-- Reads a text. -/
def readText : ReaderOf String := fun cs =>
  match behindGap cs with
  | '"' :: rest => orMalformed (textBehindQuote? rest)
  | rest => .error (unfit rest)

/-- Reads a natural number of at most `limit`. -/
def readNat (limit : Nat) : ReaderOf Nat := fun cs =>
  let cs := behindGap cs
  match cs with
  | c :: _ =>
    if c = '-' ∨ c.isDigit then do
      let (n, rest) ← orMalformed (number? cs)
      match n.natural? with
      | some value => if value ≤ limit then .ok (value, rest) else .error (.unsuitable none)
      | none => .error (.unsuitable none)
    else .error (unfit cs)
  | [] => .error (unfit cs)

/-- What stands behind a colon. -/
def behindColon (cs : List Char) : Except Refusal (List Char) :=
  match behindGap cs with
  | ':' :: rest => .ok rest
  | _ => .error .malformed

/-- Reads one of some words, which are written as a text or as a record whose only field has that
name and the value `null`. -/
def readWord {α : Type} (word : String → Option α) : ReaderOf α := fun cs =>
  let named : ReaderOf α := fun cs => do
    let (name, rest) ← readText cs
    match word name with
    | some value => .ok (value, rest)
    | none => .error (.unsuitable none)
  match behindGap cs with
  | '"' :: rest => named ('"' :: rest)
  | '\x7b' :: rest => do
    let (value, rest) ← match behindGap rest with
      | '"' :: rest => named ('"' :: rest)
      | _ => .error .malformed
    let rest := behindGap (← behindColon rest)
    match behindWord? ['n', 'u', 'l', 'l'] rest with
    | none => .error (unfit rest)
    | some rest =>
      match behindGap rest with
      | '\x7d' :: rest => .ok (value, rest)
      | _ => .error .malformed
  | _ => .error .malformed

/-- A value read and then changed, or refused with a reason. -/
def ReaderOf.refine {α β : Type} (read : ReaderOf α) (f : α → Except String β) : ReaderOf β :=
  fun cs => do
    let (value, rest) ← read cs
    match f value with
    | .ok value => .ok (value, rest)
    | .error reason => .error (.unsuitable (some reason))

/-! ## Records -/

/-- A named field and how its value enters the record. -/
structure Member (α : Type) where
  name : String
  read : ReaderOf (α → α)

/-- A field whose value is read and then set. -/
def Member.of {α β : Type} (name : String) (read : ReaderOf β) (set : β → α → α) : Member α where
  name := name
  read cs := (read cs).map fun (value, rest) => (set value, rest)

/-- The fields behind the opening bracket of a record or behind a comma, of which those named in
`seen` were there before; `fuel` bounds the fields. -/
def readFields {α : Type} (fields : List (Member α)) :
    Nat → List String → α → ReaderOf α
  | 0, _, _, _ => .error .malformed
  | fuel + 1, seen, value, cs =>
    match behindGap cs with
    | '"' :: rest => do
      let (name, rest) ← orMalformed (textBehindQuote? rest)
      let next (seen : List String) (value : α) (rest : List Char) : Except Refusal (α × List Char) :=
        match behindGap rest with
        | '\x7d' :: rest => .ok (value, rest)
        | ',' :: rest => readFields fields fuel seen value rest
        | _ => .error .malformed
      match fields.find? (·.name == name) with
      | some field =>
        if name ∈ seen then .error (.unsuitable none)
        else do
          let (set, rest) ← field.read (← behindColon rest)
          next (name :: seen) (set value) rest
      | none => do
        let rest ← behindColon rest
        let rest ← orMalformed (skipValue? rest.length rest)
        next seen value rest
    | _ => .error .malformed

/-- The values of the fields in their order, behind the opening bracket of a list or behind a value;
`first` tells which. -/
def readInOrder {α : Type} : List (Member α) → Bool → α → ReaderOf α
  | [], _, value, cs =>
    match behindGap cs with
    | ']' :: rest => .ok (value, rest)
    | _ => .error .malformed
  | field :: fields, first, value, cs =>
    let rest := behindGap cs
    let item (rest : List Char) : Except Refusal (α × List Char) := do
      let (set, rest) ← field.read rest
      readInOrder fields false (set value) rest
    match rest with
    | [] => .error .malformed
    | ']' :: rest => .ok (value, rest)
    | ',' :: behind =>
      if first then item rest
      else match behindGap behind with
        | [] | ']' :: _ => .error .malformed
        | rest => item rest
    | _ => if first then item rest else .error .malformed

/-- Reads a record. -/
def readRecord {α : Type} (fields : List (Member α)) (default : α) : ReaderOf α := fun cs =>
  match behindGap cs with
  | '\x7b' :: rest =>
    match behindGap rest with
    | '\x7d' :: rest => .ok (default, rest)
    | rest => readFields fields rest.length [] default rest
  | '[' :: rest => readInOrder fields true default rest
  | rest => .error (unfit rest)

/-- Reads a whole text as one value. -/
def readAll {α : Type} (read : ReaderOf α) (text : String) : Except Refusal α := do
  let (value, rest) ← read text.toList
  if behindGap rest = [] then .ok value else .error .malformed

end SerialLink.Document
