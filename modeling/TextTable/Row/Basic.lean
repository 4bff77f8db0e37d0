import TextTable.Cell
import TextTable.Signed

/-!
# Rows

A row is its cells, with the text before its first pipe and the text behind its last one. A row
without cells has no pipe, and its `text` is its left margin.
-/

namespace TextTable

/-- A row of a table. -/
structure Row where
  cells : List Cell
  /-- the text before the first pipe -/
  marginLeft : Text := []
  /-- the text behind the last pipe -/
  marginRight : Text := []
deriving DecidableEq

namespace Row

/-- A row of `width` empty cells. -/
def blank (width : Nat) : Row := ⟨List.replicate width Cell.empty, [], []⟩

/-- The number of cells. -/
def width (r : Row) : Nat := r.cells.length

/-- The cell in a column, where columns count from 0 and a negative one is outside the row. -/
def cell? (r : Row) (column : Int) : Option Cell :=
  if 0 ≤ column then r.cells[column.toNat]? else none

/-- The row with the cell at a signed position replaced. -/
def setCell? (r : Row) (column : Int) (c : Cell) : Option Row :=
  (Signed.set? r.cells column c).map fun cells => { r with cells }

/-- Each cell followed by a pipe. -/
def cellsText (cells : List Cell) : Text := cells.flatMap fun c => c.raw ++ ['|']

/-- The line that a row is written as. -/
def text (r : Row) : Text :=
  if r.cells = [] then r.marginLeft
  else r.marginLeft ++ '|' :: cellsText r.cells ++ r.marginRight

/-- All cells of the row are written as delimiter cells, and there is one. -/
def isDelimiter (r : Row) : Bool := !r.cells.isEmpty && r.cells.all Cell.isDelimiter

end Row

end TextTable
