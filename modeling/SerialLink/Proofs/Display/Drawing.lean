import Mathlib.Data.List.Forall2
import SerialLink.Display.Table

/-!
# Drawn tables

A table is drawn line by line: an upper edge, the head row, an edge under it, the body rows with an
edge between each two, and a lower edge (`Table.Drawn`). The lines of a cell stand one below the
other in the column of the cell, each filled up with spaces, and none is broken that is narrow
enough for a column. A table whose rows are as long as its head is drawn like that (`drawn_render`).
-/

namespace SerialLink.Table

/-! ## Drawings -/

/-- A line across some columns. -/
inductive Edge (s : Stroke) (columns : Nat) : String → Prop where
  | of {lengths : List Nat} (each : lengths.length = columns) :
      Edge s columns (s.left.toString ++ s.crossing.toString.intercalate
        (lengths.map fun n => String.ofList (List.replicate n s.fill)) ++ s.right.toString)

/-- A line with one text in each column. -/
inductive Line (texts : List String) : String → Prop where
  | of {fills : List Nat} (each : fills.length = texts.length) :
      Line texts ("│ " ++ " ┆ ".intercalate
        (List.zipWith (fun text n => text ++ String.ofList (List.replicate n ' ')) texts fills) ++
        " │")

/-- The lines that a cell is drawn in: those of its text, where one that is too wide for a column
may be broken. -/
inductive Lines (cell : String) : List String → Prop where
  | of {parts : List (List String)}
      (whole : List.Forall₂ (fun l part => Text.columns l.toList ≤ 65535 → part = [l])
        (cell.splitOn "\n") parts) : Lines cell parts.flatten

/-- The lines of a row: those of its cells next to each other, as many as its highest cell has. -/
inductive Row (cells : List String) : List String → Prop where
  | of {columns : List (List String)} {lines : List String}
      (each : List.Forall₂ Lines cells columns)
      (height : lines.length = (columns.map List.length).foldl max 0)
      (holds : ∀ (i : Nat) (h : i < lines.length),
        Line (columns.map fun column => (column[i]?).getD "") lines[i]) : Row cells lines

/-- The lines of some rows. -/
inductive Body (columns : Nat) : List (List String) → List String → Prop where
  | none : Body columns [] []
  | last {row lines : List String} (drawn : Row row lines) : Body columns [row] lines
  | more {row next : List String} {rows : List (List String)} {lines later : List String}
      {edge : String} (drawn : Row row lines) (between : Edge ⟨'├', '╌', '┼', '┤'⟩ columns edge)
      (below : Body columns (next :: rows) later) :
      Body columns (row :: next :: rows) (lines ++ edge :: later)

/-- The drawing of a table. -/
inductive Drawn (t : Table) : String → Prop where
  | of {upper under lower : String} {head body : List String}
      (top : Edge ⟨'┌', '─', '┬', '┐'⟩ t.head.length upper) (named : Row t.head head)
      (middle : Edge ⟨'╞', '═', '╪', '╡'⟩ t.head.length under)
      (filled : Body t.head.length t.rows body)
      (bottom : Edge ⟨'└', '─', '┴', '┘'⟩ t.head.length lower) :
      Drawn t ("\n".intercalate (upper :: head ++ under :: body ++ [lower]))

/-! ## What `render` draws -/

variable {widths : List Nat}

theorem edge_draw (s : Stroke) (widths : List Nat) : Edge s widths.length (s.draw widths) := by
  have drawn :=
    @Edge.of s widths.length (widths.map fun w => min maxWidth (w + 2)) (List.length_map _)
  rw [List.map_map] at drawn
  exact drawn

theorem zipWith_padded (widths : List Nat) (texts : List String) :
    List.zipWith padded widths texts =
      List.zipWith (fun text n => text ++ String.ofList (List.replicate n ' ')) texts
        (List.zipWith (fun w text => w - Text.columns text.toList) widths texts) := by
  induction texts generalizing widths with
  | nil => simp
  | cons text texts ih =>
    cases widths with
    | nil => rfl
    | cons w widths =>
      rw [List.zipWith_cons_cons, List.zipWith_cons_cons, List.zipWith_cons_cons, ih, padded]

theorem line_line {texts : List String} (each : texts.length = widths.length) :
    Line texts (line widths texts) := by
  rw [line, zipWith_padded]
  exact .of (by simp [each])

/-- A line that is narrow enough is not broken. -/
theorem lines_cellLines (cell : String) : Lines cell (cellLines cell) := by
  rw [cellLines, List.flatMap_def]
  refine .of (List.forall₂_map_right_iff.2 (List.forall₂_same.2 fun l _ fits => ?_))
  have whole : Text.wrap maxWidth l.toList = [l.toList] := Text.wrap_of_columns_le fits
  rw [whole, List.map_singleton, String.ofList_toList]

theorem row_rowLines {row : List String} (length : row.length = widths.length) :
    Row row (rowLines widths row) := by
  have each : List.Forall₂ Lines row (row.map cellLines) :=
    List.forall₂_map_right_iff.2 (List.forall₂_same.2 fun cell _ => lines_cellLines cell)
  rw [rowLines]
  refine .of each (by rw [List.length_map, List.length_range]) fun i below => ?_
  rw [List.getElem_map, List.getElem_range]
  exact line_line (by simp [length])

theorem body_bodyLines {rows : List (List String)}
    (length : ∀ row ∈ rows, row.length = widths.length) :
    Body widths.length rows (bodyLines widths rows) := by
  induction rows with
  | nil => exact .none
  | cons row rows ih =>
    have drawn := row_rowLines (length row List.mem_cons_self)
    cases rows with
    | nil => exact .last drawn
    | cons next rows =>
      exact .more drawn (edge_draw rowEdge widths)
        (ih fun row later => length row (List.mem_cons_of_mem _ later))

/-- There are as many columns as cells in the head row. -/
theorem length_widths {t : Table} (length : ∀ row ∈ t.rows, row.length = t.head.length) :
    t.widths.length = t.head.length := by
  have kept (rows : List (List String)) (ws : List Nat) (start : ws.length = t.head.length)
      (length : ∀ row ∈ rows, row.length = t.head.length) :
      (rows.foldl (fun ws row => List.zipWith max ws (row.map cellWidth)) ws).length =
        t.head.length := by
    induction rows generalizing ws with
    | nil => exact start
    | cons row rows ih =>
      refine ih _ ?_ fun row later => length row (List.mem_cons_of_mem _ later)
      rw [List.length_zipWith, List.length_map, start, length row List.mem_cons_self, Nat.min_self]
  exact kept t.rows _ (List.length_map _) length

/-- What `render` makes of a table is a drawing of it. -/
theorem drawn_render {t : Table} (length : ∀ row ∈ t.rows, row.length = t.head.length) :
    t.Drawn t.render := by
  have columns := length_widths length
  have edges (s : Stroke) : Edge s t.head.length (s.draw t.widths) := columns ▸ edge_draw s t.widths
  have body := body_bodyLines fun row member => (length row member).trans columns.symm
  rw [columns] at body
  exact .of (edges topEdge) (row_rowLines columns.symm) (edges headEdge) body (edges bottomEdge)

end SerialLink.Table
