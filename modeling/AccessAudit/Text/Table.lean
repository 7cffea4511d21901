/-
**Tables in plain text.**

A table has a line of headers, a line of dashes and a line for each row. Every line begins and ends
with two blanks and has two blanks between its cells, and a cell is filled up with blanks to the
width of its column. Cells beyond the last column are left out, and missing ones are empty.

The width of a column is the greatest among its header and its cells. Of a cell it counts the
visible characters; of a header it counts the bytes that the visible characters take in UTF-8,
which for headers in ASCII is the same.

* `columnWidth`: the width of a column;
* `pad`: a cell filled up to a width;
* `render`: the table.
-/
import AccessAudit.Text.Ansi

namespace AccessAudit.Text.Table

/-- On which side of its column a cell stands. -/
inductive Side where
  | left
  | right
  deriving DecidableEq, Repr

/-- A column of a table. -/
structure Column where
  header : String
  side : Side := .left
  deriving DecidableEq, Repr

/-- How many visible characters a cell has. -/
def cellWidth (cell : String) : Nat :=
  (visible cell).length

/-- How many bytes the visible characters of a header take. -/
def headerWidth (header : String) : Nat :=
  (visible header).utf8ByteSize

/-- The cell of a row in a column, empty when the row is too short. -/
def cellAt (row : List String) (index : Nat) : String :=
  row.getD index ""

/-- The width of the column at an index. -/
def columnWidth (rows : List (List String)) (index : Nat) (column : Column) : Nat :=
  rows.foldl (fun width row => max width (cellWidth (cellAt row index)))
    (headerWidth column.header)

/-- A text of blanks. -/
def blanks (n : Nat) : String :=
  String.ofList (List.replicate n ' ')

/-- A cell filled up to a width on the side away from where it stands. A cell that is wider stays
as it is. -/
def pad (side : Side) (width : Nat) (cell : String) : String :=
  let filling := blanks (width - cellWidth cell)
  match side with
  | .left => cell ++ filling
  | .right => filling ++ cell

/-- A line of cells that are filled up already. -/
def line (cells : List String) : String :=
  "  " ++ "  ".intercalate cells ++ "  \n"

/-- The columns of a table with the width and the index of each. -/
def layout (columns : List Column) (rows : List (List String)) : List (Column × Nat × Nat) :=
  columns.zipIdx.map fun (column, index) => (column, columnWidth rows index column, index)

/-- The table of these columns and rows. -/
def render (columns : List Column) (rows : List (List String)) : String :=
  let layout := layout columns rows
  let headers := layout.map fun (column, width, _) => pad column.side width column.header
  let dashes := layout.map fun (_, width, _) => String.ofList (List.replicate width '-')
  let body := rows.map fun row =>
    line (layout.map fun (column, width, index) => pad column.side width (cellAt row index))
  line headers ++ line dashes ++ String.join body

end AccessAudit.Text.Table
