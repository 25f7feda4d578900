import SerialLink.Text.Escaped

/-!
# Quoted text

A text between double quotes, with a backslash before a quote or a backslash, short escapes for
newline, return, tab and NUL, and a braced code point for every other character that does not stand
for itself.
-/

namespace SerialLink.Text

/-- The digits of a code point, lower case and without padding. -/
def codePointDigits (n : Nat) : List Char :=
  Nat.toDigits 16 n

/-- How a character is written between the quotes. -/
def quotedChar (c : Char) : List Char :=
  if c = '"' then ['\\', '"']
  else if c = '\\' then ['\\', '\\']
  else if c = '\n' then ['\\', 'n']
  else if c = '\r' then ['\\', 'r']
  else if c = '\t' then ['\\', 't']
  else if c.toNat = 0 then ['\\', '0']
  else if escaped.has c.toNat then ['\\', 'u', '\x7b'] ++ codePointDigits c.toNat ++ ['\x7d']
  else [c]

/-- A text in double quotes. -/
def quoted (text : String) : String :=
  String.ofList ('"' :: text.toList.flatMap quotedChar ++ ['"'])

end SerialLink.Text
