import SerialLink.Text.Wrapping

/-!
# Tables

A table has a head row and body rows of cells, drawn with a frame. A column is as wide as its widest
line and padded by one space at both sides; a cell of several lines makes its row as high. Lines that
are wider than any column can be are broken. Lines between body rows are dashed.
-/

namespace SerialLink

/-- Rows of cells under a head row of the same length. -/
structure Table where
  head : List String
  rows : List (List String)

namespace Table

/-- The strokes of a line across the table: its left end, its filling, a crossing with a column line,
and its right end. -/
structure Stroke where
  left : Char
  fill : Char
  crossing : Char
  right : Char

/-- The upper edge. -/
def topEdge : Stroke := ⟨'┌', '─', '┬', '┐'⟩

/-- The line under the head row. -/
def headEdge : Stroke := ⟨'╞', '═', '╪', '╡'⟩

/-- The line between two body rows. -/
def rowEdge : Stroke := ⟨'├', '╌', '┼', '┤'⟩

/-- The lower edge. -/
def bottomEdge : Stroke := ⟨'└', '─', '┴', '┘'⟩

/-- The widest that a column can be, with its padding or without. -/
def maxWidth : Nat := 65535

/-- The lines of a cell. -/
def cellLines (cell : String) : List String :=
  (cell.splitOn "\n").flatMap fun l => (Text.wrap maxWidth l.toList).map String.ofList

/-- The width of a cell's widest line, or of the widest column. -/
def cellWidth (cell : String) : Nat :=
  min maxWidth (((cell.splitOn "\n").map fun l => Text.columns l.toList).foldl max 0)

/-- The widths of the columns. -/
def widths (t : Table) : List Nat :=
  t.rows.foldl (fun ws row => List.zipWith max ws (row.map cellWidth)) (t.head.map cellWidth)

/-- A line across columns of these widths. -/
def Stroke.draw (s : Stroke) (widths : List Nat) : String :=
  let spans := widths.map fun w => String.ofList (List.replicate (min maxWidth (w + 2)) s.fill)
  s.left.toString ++ s.crossing.toString.intercalate spans ++ s.right.toString

/-- A text filled up with spaces to a width. -/
def padded (width : Nat) (text : String) : String :=
  text ++ String.ofList (List.replicate (width - Text.columns text.toList) ' ')

/-- One line of a row. -/
def line (widths : List Nat) (texts : List String) : String :=
  "│ " ++ " ┆ ".intercalate (List.zipWith padded widths texts) ++ " │"

/-- The lines of a row, as many as its highest cell has. -/
def rowLines (widths : List Nat) (row : List String) : List String :=
  let cells := row.map cellLines
  let height := (cells.map List.length).foldl max 0
  (List.range height).map fun i => line widths (cells.map fun lines => (lines[i]?).getD "")

/-- The body rows with dashed lines between them. -/
def bodyLines (widths : List Nat) : List (List String) → List String
  | [] => []
  | [row] => rowLines widths row
  | row :: rows => rowLines widths row ++ rowEdge.draw widths :: bodyLines widths rows

/-- The lines of a table. -/
def lines (t : Table) : List String :=
  let ws := t.widths
  topEdge.draw ws :: rowLines ws t.head ++ headEdge.draw ws :: bodyLines ws t.rows ++
    [bottomEdge.draw ws]

/-- A table as text. -/
def render (t : Table) : String :=
  "\n".intercalate t.lines

end Table

end SerialLink
