import TextTable.Table.Basic

/-!
# Positions and foci

Where a place on the screen is in a table (`focusAt?`), and the other way round (`positionOf?`). The
first row of the table is on the row `top` of the document. A column up to the first pipe of its row
is in the margin. After that, each cell owns the columns of its text and the pipe behind it, and all
that follows the last pipe belongs to the column after the last cell.
-/

namespace TextTable

namespace Row

/-- The cell that the column `x`, counted from the start of the first cell, belongs to, and the
offset into that cell. -/
def locate : List Cell → Nat → Nat × Nat
  | [], x => (0, x)
  | c :: cells, x =>
    if x ≤ c.raw.length then (0, x)
    else
      let (column, offset) := locate cells (x - (c.raw.length + 1))
      (column + 1, offset)

/-- The screen column where a cell begins, or where the text behind the last pipe does. -/
def columnStart (r : Row) (column : Nat) : Nat :=
  r.marginLeft.length + 1 + (cellsText (r.cells.take column)).length

end Row

namespace Table

/-- The focus of a position; there is none off the rows of the table. -/
def focusAt? (t : Table) (p : Position) (top : Int) : Option Focus :=
  (t.row? (p.row - top)).map fun r =>
    if p.column < r.marginLeft.length + 1 then ⟨p.row - top, -1, p.column⟩
    else
      let (column, offset) := Row.locate r.cells (p.column - (r.marginLeft.length + 1)).toNat
      ⟨p.row - top, column, offset⟩

/-- The position of a focus; there is none off the rows of the table. -/
def positionOf? (t : Table) (f : Focus) (top : Int) : Option Position :=
  (t.row? f.row).map fun r =>
    if f.column < 0 then ⟨f.row + top, f.offset⟩
    else ⟨f.row + top, r.columnStart f.column.toNat + f.offset⟩

/-- The span of the content of the cell that a focus is in, if there is any content. -/
def contentSpan? (t : Table) (f : Focus) (top : Int) : Option Span :=
  (t.row? f.row).bind fun r =>
    (r.cell? f.column).bind fun c =>
      if c.content = [] then none
      else
        let start := r.columnStart f.column.toNat + c.paddingLeft
        some ⟨⟨f.row + top, start⟩, ⟨f.row + top, start + c.content.length⟩⟩

end Table

end TextTable
