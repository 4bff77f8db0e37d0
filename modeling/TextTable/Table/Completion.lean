import TextTable.Options.Basic
import TextTable.Table.Basic

/-!
# Completing tables

A table is complete when its second row is a delimiter row and no row is shorter than the header. To
`complete` a table, a missing delimiter row is put in and short rows get more cells. The right
margin of a short row becomes the first of these cells, so that nothing that stood behind its last
pipe is lost.
-/

namespace TextTable

/-- A row with at least `width` cells: a short row gets `first`, and then as many `rest` as it still
lacks. -/
def Row.padTo (r : Row) (width : Nat) (first rest : Cell) : Row :=
  if r.width < width then
    { cells := r.cells ++ first :: List.replicate (width - r.width - 1) rest
      marginLeft := r.marginLeft }
  else r

namespace Table

/-- A text row with at least `width` cells. -/
def completeText (width : Nat) (r : Row) : Row := r.padTo width ⟨r.marginRight⟩ Cell.empty

/-- The delimiter row of a table with `width` columns, if `given` is the one it has. The right
margin of a short one is replaced by dashes of the same length. -/
def completeDelimiter (s : Style) (width : Nat) (given : Option Row) : Row :=
  let dashes n := Cell.delimiter none n
  match given with
  | some r =>
    r.padTo width (dashes (max s.minDelimiterWidth (r.marginRight.length - 2)))
      (dashes s.minDelimiterWidth)
  | none => { cells := List.replicate width (dashes s.minDelimiterWidth) }

/-- The complete table. A table without rows has no header to complete, and stays as it is. -/
def complete (s : Style) (t : Table) : Table :=
  match t.rows with
  | [] => t
  | header :: _ =>
    let w := header.width
    ⟨header :: completeDelimiter s w t.delimiter? :: t.body.map (completeText w)⟩

/-- Completing the table puts in a delimiter row. -/
def lacksDelimiter (t : Table) : Bool := t.delimiter?.isNone

/-- The complete table, which a table without rows does not have. -/
def complete? (s : Style) (t : Table) : Except Fault Table :=
  if t.rows = [] then .error .emptyTable else .ok (t.complete s)

end Table

/-- Where a focus on a table is once the table is complete: the rows below the header move down when
a delimiter row is put in. -/
def Focus.completed (f : Focus) (t : Table) : Focus :=
  if t.lacksDelimiter ∧ 0 < f.row then f.withRow (f.row + 1) else f

end TextTable
