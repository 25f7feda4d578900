import SerialLink.Text.Columns

/-!
# Breaking lines

A line that is too wide is broken at spaces, which are dropped there. A word that is too wide by
itself is broken where the columns end. A line is also ended when fewer than two columns would be
left. A line that is narrow enough stays whole (`wrap_of_columns_le`).
-/

namespace SerialLink.Text

/-- The words of a line, one more than it has spaces. -/
def words (line : List Char) : List (List Char) :=
  ((String.ofList line).splitOn " ").map String.toList

/-- As many characters of a word as fit into some columns, and the others. -/
def split : Nat → List Char → List Char × List Char
  | _, [] => ([], [])
  | room, c :: word =>
    if charColumns c ≤ room then
      let (part, rest) := split (room - charColumns c) word
      (c :: part, rest)
    else ([], c :: word)

/-- Lines that are done, the latest first, and one that is open, its last character first, with its
width. -/
structure Wrap where
  done : List (List Char) := []
  opened : List Char := []
  width : Nat := 0

namespace Wrap

/-- The columns that a space takes in front of the next word. -/
def gap (w : Wrap) : Nat :=
  if w.opened.isEmpty then 0 else 1

/-- Ends the open line. -/
def close (w : Wrap) : Wrap where
  done := w.opened.reverse :: w.done

/-- Puts a text into the open line, behind a space if there is anything in front of it. -/
def add (w : Wrap) (text : List Char) : Wrap :=
  if w.opened.isEmpty then { w with opened := text.reverse, width := columns text }
  else { w with opened := text.reverse ++ ' ' :: w.opened, width := w.width + 1 + columns text }

/-- Ends the open line if hardly anything fits into it. -/
def settle (limit : Nat) (w : Wrap) : Wrap :=
  if limit - 2 < w.width then w.close else w

/-- All lines in their order. -/
def lines (w : Wrap) : List (List Char) :=
  (if w.opened.isEmpty then w.done else w.close.done).reverse

/-- Puts words into lines; `fuel` bounds the words and parts of words. -/
def putAll (limit : Nat) : Nat → List (List Char) → Wrap → Wrap
  | 0, _, w => w
  | _, [], w => w
  | fuel + 1, word :: rest, w =>
    let room := limit - w.width - w.gap
    if w.width + w.gap + columns word ≤ limit then putAll limit fuel rest ((w.add word).settle limit)
    else if !w.opened.isEmpty && room ≤ 2 then putAll limit fuel (word :: rest) w.close
    else if limit < columns word then
      let (part, behind) := match split room word with
        | ([], c :: behind) => if w.opened.isEmpty then ([c], behind) else ([], c :: behind)
        | parts => parts
      putAll limit fuel (behind :: rest) ((w.add part).settle limit)
    else putAll limit fuel rest ((w.close.add word).settle limit)

end Wrap

/-- The lines into which a line is broken so that none is wider than `limit`. -/
def wrap (limit : Nat) (line : List Char) : List (List Char) :=
  if columns line ≤ limit then [line]
  else (Wrap.putAll limit (4 * (line.length + 2)) (words line) {}).lines

theorem wrap_of_columns_le {limit : Nat} {line : List Char} (h : columns line ≤ limit) :
    wrap limit line = [line] := by
  simp [wrap, h]

end SerialLink.Text
