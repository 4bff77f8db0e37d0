import TextTable.Position
import TextTable.Row.Basic

/-!
# Tables

A table is a list of rows. Its first row is the header. The second row is the delimiter row when it
is written as one (`delimiter?`); it states the alignment of the columns and holds no text. The
header's cells are the columns that a table counts (`headerWidth`); other rows may be shorter or
wider.
-/

namespace TextTable

/-- A table, row by row. -/
structure Table where
  rows : List Row
deriving DecidableEq

namespace Table

/-- The number of rows. -/
def height (t : Table) : Nat := t.rows.length

/-- The first row. -/
def header? (t : Table) : Option Row := t.rows.head?

/-- The second row, when it is a delimiter row. -/
def delimiter? (t : Table) : Option Row := t.rows[1]?.filter Row.isDelimiter

/-- The rows below the header and the delimiter row. -/
def body (t : Table) : List Row := t.rows.drop (if t.delimiter?.isSome then 2 else 1)

/-- The rows that hold text: all but the delimiter row. -/
def textRows (t : Table) : List Row := t.header?.toList ++ t.body

/-- The number of columns that the header has. -/
def headerWidth (t : Table) : Nat := (t.header?.map Row.width).getD 0

/-- The text before the first pipe of the header. -/
def marginLeft (t : Table) : Text := (t.header?.map Row.marginLeft).getD []

/-- The alignment of a column, as the delimiter row states it. -/
def alignmentAt (t : Table) (column : Nat) : Alignment :=
  ((t.delimiter?.bind (·.cells[column]?)).bind Cell.alignment?).join

/-- The alignments of the header's columns. -/
def alignments (t : Table) : List Alignment := (List.range t.headerWidth).map t.alignmentAt

/-- The row at an index, where a negative index is outside the table. -/
def row? (t : Table) (row : Int) : Option Row :=
  if 0 ≤ row then t.rows[row.toNat]? else none

/-- The cell in a row and a column. -/
def cell? (t : Table) (row column : Int) : Option Cell := (t.row? row).bind (·.cell? column)

/-- The cell that a focus is in. -/
def focusedCell? (t : Table) (f : Focus) : Option Cell := t.cell? f.row f.column

/-- The lines that a table is written as. -/
def lines (t : Table) : List Text := t.rows.map Row.text

end Table

end TextTable
