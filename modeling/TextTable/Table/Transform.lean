import TextTable.Options.Basic
import TextTable.Table.Basic

/-!
# Changing the structure of tables

Rows and columns are put in, taken out and moved, and the alignment of a column is set (`insertRow`,
`insertColumn` and so on). Positions are signed (see `TextTable.Signed`); one that has to exist and
does not is a fault. The delimiter row is neither taken out nor moved, and a row that is too short
for a change of columns stays as it is.
-/

namespace TextTable

namespace Table

/-! ## Cells -/

/-- The table with a cell replaced. -/
def setCell (t : Table) (row column : Int) (c : Cell) : Except Fault Table :=
  Fault.ofMissing do
    let r ← Signed.get? t.rows row
    return ⟨← Signed.set? t.rows row (← r.setCell? column c)⟩

/-! ## Alignment -/

/-- The table with the alignment of a column set. Without a delimiter row, and for a column that the
header does not have, nothing changes. -/
def setAlignment (s : Style) (t : Table) (column : Int) (a : Alignment) : Table :=
  match t.delimiter? with
  | none => t
  | some d =>
    if 0 ≤ column ∧ column < t.headerWidth then
      let missing := column.toNat + 1 - d.width
      let cells := d.cells ++ List.replicate missing (Cell.delimiter none s.minDelimiterWidth)
      let cells := cells.set column.toNat (Cell.delimiter a s.minDelimiterWidth)
      ⟨t.rows.set 1 { d with cells }⟩
    else t

/-! ## Rows -/

/-- The table with a row put in before a position. -/
def insertRow (t : Table) (i : Int) (r : Row) : Table := ⟨Signed.insert t.rows i r⟩

/-- The table without a row; row 1 is the delimiter row and stays. -/
def deleteRow (t : Table) (i : Int) : Except Fault Table :=
  if i = 1 then .ok t else (Fault.ofMissing (Signed.erase? t.rows i)).map Table.mk

/-- The table with a row moved to another place; nothing is moved from or to row 1. -/
def moveRow (t : Table) (source target : Int) : Except Fault Table :=
  if source = 1 ∨ target = 1 ∨ source = target then .ok t
  else (Fault.ofMissing (Signed.move? t.rows source target)).map Table.mk

/-! ## Columns -/

/-- The row with a cell put in before a position. -/
def insertCell (i : Int) (r : Row) (c : Cell) : Row := { r with cells := Signed.insert r.cells i c }

/-- The table with a column put in before a position. The column has a cell for each row but row 1,
which gets a delimiter cell. -/
def insertColumn (s : Style) (t : Table) (i : Int) (column : List Cell) : Except Fault Table :=
  let needed := if t.height ≤ 1 then t.height else t.height - 1
  if column.length < needed then .error .outOfRange
  else
    let cells := column.take 1 ++ Cell.delimiter none s.minDelimiterWidth :: column.drop 1
    .ok ⟨List.zipWith (insertCell i) t.rows cells⟩

/-- The row without the cell at a position; a position behind the row's last cell is no fault. -/
def deleteCell (i : Int) (r : Row) : Except Fault Row :=
  if i < r.width then
    (Fault.ofMissing (Signed.erase? r.cells i)).map fun cells => { r with cells }
  else .ok r

/-- The table without a column; the last column of a header stays. -/
def deleteColumn (t : Table) (i : Int) : Except Fault Table :=
  if t.headerWidth ≤ 1 then .ok t else (t.rows.mapM (deleteCell i)).map Table.mk

/-- The row with a cell moved to another place, if it has both places. -/
def moveCell (source target : Int) (r : Row) : Except Fault Row :=
  if source < r.width ∧ target < r.width then
    (Fault.ofMissing (Signed.move? r.cells source target)).map fun cells => { r with cells }
  else .ok r

/-- The table with a column moved to another place. -/
def moveColumn (t : Table) (source target : Int) : Except Fault Table :=
  if source = target then .ok t else (t.rows.mapM (moveCell source target)).map Table.mk

end Table

end TextTable
