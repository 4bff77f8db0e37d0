import TextTable.Margin
import TextTable.Row.Parts
import TextTable.Table.Basic

/-!
# Reading tables

A row is read from the parts of its line (`Row.ofLine`). The first part is the left margin if
nothing but margin characters are in it, and the last part is the right margin if it is blank and
not the only one left; the parts between are cells. Every line can be read: one without pipes is a
single cell, or a margin.
-/

namespace TextTable

/-- Separates a left margin from the parts of a line. -/
def Margin.separate (m : Margin) : List Text → Text × List Text
  | [] => ([], [])
  | part :: parts => if part.all m.contains then (part, parts) else ([], part :: parts)

/-- Separates the parts of a line from a right margin. -/
def Row.separateEnd (parts : List Text) : List Text × Text :=
  match parts.getLast? with
  | none => (parts, [])
  | some last =>
    if 1 < parts.length ∧ last.all Unicode.isBlank then (parts.dropLast, last) else (parts, [])

/-- Reads a row. -/
def Row.ofLine (m : Margin) (line : Text) : Row :=
  let (marginLeft, parts) := m.separate (Row.parts line)
  let (cells, marginRight) := Row.separateEnd parts
  { cells := cells.map Cell.mk, marginLeft, marginRight }

/-- Reads a table, a row from each line. -/
def Table.ofLines (m : Margin) (lines : List Text) : Table := ⟨lines.map (Row.ofLine m)⟩

end TextTable
