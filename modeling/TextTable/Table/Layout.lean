import TextTable.Table.Basic
import TextTable.Width

/-!
# Laying out tables

The layout of a table (`format`) gives every cell the space around its content that the style asks
for, and all rows the left margin of the header. In the normal format every column is as wide as its
widest content and its delimiter cell has as many dashes (`formatNormal`); in the weak one every
content stands between two spaces (`formatWeak`). Contents never change.
-/

namespace TextTable

/-- What the normal format has to know of a column. -/
structure Column where
  width : Nat
  alignment : Alignment

namespace Table

/-! ## Columns -/

/-- The number of cells of the widest row. -/
def breadth (t : Table) : Nat := (t.rows.map Row.width).foldr max 0

/-- The number of screen columns of the content in a column of a row. -/
def contentWidth (o : WidthOptions) (column : Nat) (r : Row) : Nat :=
  (r.cells[column]?.map fun c => o.width c.content).getD 0

/-- The least width that the delimiter row demands of a column. -/
def delimiterDemand (s : Style) (t : Table) (column : Nat) : Nat :=
  if column < (t.delimiter?.map Row.width).getD 0 then s.minDelimiterWidth else 0

/-- The width of a column: that of its widest content, or what the delimiter row demands. -/
def columnWidth (s : Style) (t : Table) (column : Nat) : Nat :=
  (t.textRows.map (contentWidth s.widthOptions column)).foldr max (t.delimiterDemand s column)

/-- The columns of the table. -/
def columns (s : Style) (t : Table) : List Column :=
  (List.range t.breadth).map fun j => ⟨t.columnWidth s j, t.alignmentAt j⟩

/-! ## The normal format -/

/-- The side to which the text cells of a column go. -/
def bodySide (s : Style) (c : Column) : Side := c.alignment.getD s.defaultAlignment

/-- The side to which the header cell of a column goes. -/
def headerSide (s : Style) (c : Column) : Side :=
  match s.headerAlignment with
  | .follow => bodySide s c
  | .fixed side => side

/-- A text row in the normal format, with the side of each column's cell. -/
def alignRow (s : Style) (side : Column → Side) (margin : Text) (columns : List Column) (r : Row) :
    Row :=
  { cells := List.zipWith
      (fun column c => ⟨(side column).pad s.widthOptions column.width c.content⟩) columns r.cells
    marginLeft := margin }

/-- The delimiter row in the normal format. -/
def alignDelimiter (margin : Text) (columns : List Column) (r : Row) : Row :=
  { cells := List.zipWith
      (fun column _ => Cell.delimiter column.alignment column.width) columns r.cells
    marginLeft := margin }

/-- The table in the normal format. -/
def formatNormal (s : Style) (t : Table) : Table :=
  let columns := t.columns s
  ⟨t.header?.toList.map (alignRow s (headerSide s) t.marginLeft columns)
    ++ t.delimiter?.toList.map (alignDelimiter t.marginLeft columns)
    ++ t.body.map (alignRow s (bodySide s) t.marginLeft columns)⟩

/-! ## The weak format -/

/-- A text row in the weak format. -/
def spaceRow (margin : Text) (r : Row) : Row :=
  { cells := r.cells.map fun c => ⟨' ' :: c.content ++ [' ']⟩, marginLeft := margin }

/-- The delimiter row in the weak format. -/
def spaceDelimiter (s : Style) (margin : Text) (r : Row) : Row :=
  { cells := r.cells.map fun c => Cell.delimiter c.alignment?.join s.minDelimiterWidth
    marginLeft := margin }

/-- The table in the weak format. -/
def formatWeak (s : Style) (t : Table) : Table :=
  ⟨t.header?.toList.map (spaceRow t.marginLeft)
    ++ t.delimiter?.toList.map (spaceDelimiter s t.marginLeft)
    ++ t.body.map (spaceRow t.marginLeft)⟩

/-! ## Both formats -/

/-- The laid out table. Where the header has no cells, there is nothing to lay out, and each row is
the bare margin. -/
def format (s : Style) (t : Table) : Table :=
  if t.headerWidth = 0 then ⟨t.rows.map fun _ => { cells := [], marginLeft := t.marginLeft }⟩
  else match s.formatType with
    | .normal => t.formatNormal s
    | .weak => t.formatWeak s

/-! ## The cursor in a laid out table -/

/-- The offset of a focus in the table `after`, the layout of the table `before`. A focus that moved
to another cell goes to the start of its content; one that stayed keeps its place in the content. A
focus in no cell goes to the end of the margin, or of the line's last pipe. -/
def offsetAfter (f : Focus) (before after : Table) (moved : Bool) : Int :=
  match after.focusedCell? f, moved, before.focusedCell? f with
  | some c, true, _ => c.rawOffset 0
  | some c, false, some b => c.rawOffset (min (b.contentOffset f.offset) c.content.length)
  | _, _, _ => if f.column < 0 then after.marginLeft.length else 0

end Table

end TextTable
