import TextTable.Table.Basic
import TextTable.Text.Quoted

/-!
# Tables on display

How a cell, a row and a table are shown to a developer: the word for what it is, and behind it the
text that it is written as, quoted.
-/

namespace TextTable

/-- The display of a cell. -/
def Cell.display (c : Cell) : Text := "TableCell(".toList ++ Text.quoted c.raw ++ [')']

/-- The display of a row. -/
def Row.display (r : Row) : Text := "TableRow(".toList ++ Text.quoted r.text ++ [')']

/-- The display of a table. -/
def Table.display (t : Table) : Text :=
  "Table([".toList ++ Text.joined ", ".toList (t.lines.map Text.quoted) ++ "])".toList

end TextTable
