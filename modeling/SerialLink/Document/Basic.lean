import SerialLink.Single.Layout
import SerialLink.Text.Hex

/-!
# Documents

A document is a tree of values written on one line without blanks. Records keep the order of their
fields. Within a text the quote, the backslash and the control characters are escaped, and every
other character stands for itself; a number that is not finite is written as `null`.
-/

namespace SerialLink

/-- A tree of values. -/
inductive Document where
  | null
  | number (n : Nat)
  | single (x : Single)
  | text (s : String)
  | list (items : List Document)
  | record (fields : List (String × Document))

namespace Document

/-- How a character is written within a text. -/
def escapedChar (c : Char) : List Char :=
  if c = '"' then ['\\', '"']
  else if c = '\\' then ['\\', '\\']
  else if c = '\x08' then ['\\', 'b']
  else if c = '\t' then ['\\', 't']
  else if c = '\n' then ['\\', 'n']
  else if c = '\x0c' then ['\\', 'f']
  else if c = '\r' then ['\\', 'r']
  else if c.toNat < 0x20 then '\\' :: 'u' :: Hex.digits 'a' 4 c.toNat
  else [c]

/-- A text as it is written. -/
def textChars (s : String) : List Char :=
  '"' :: s.toList.flatMap escapedChar ++ ['"']

mutual

/-- The characters of a document. -/
def chars : Document → List Char
  | null => ['n', 'u', 'l', 'l']
  | number n => Text.digitsOf n
  | single x => x.documentText.toList
  | text s => textChars s
  | list [] => ['[', ']']
  | list (item :: items) => '[' :: item.chars ++ itemChars items
  | record [] => ['\x7b', '\x7d']
  | record ((name, value) :: fields) =>
    '\x7b' :: textChars name ++ ':' :: value.chars ++ fieldChars fields

/-- The characters behind the first item of a list. -/
def itemChars : List Document → List Char
  | [] => [']']
  | item :: items => ',' :: item.chars ++ itemChars items

/-- The characters behind the first field of a record. -/
def fieldChars : List (String × Document) → List Char
  | [] => ['\x7d']
  | (name, value) :: fields =>
    ',' :: textChars name ++ ':' :: value.chars ++ fieldChars fields

end

/-- A document as text. -/
def render (d : Document) : String :=
  String.ofList d.chars

/-- What is absent is `null`. -/
def ofOption {α : Type} (f : α → Document) : Option α → Document
  | none => null
  | some a => f a

end Document

end SerialLink
