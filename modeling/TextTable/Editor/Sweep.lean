import TextTable.Editor.Workspace

/-!
# Laying out a whole document

A `sweep` goes through the document from its first row on, gathers the lines of each table, and lays
it out as soon as the table has ended (`formatBlock`). Tables that get a delimiter row push the rest
of the document down, so rows are looked up in the document as it stands. The cursor keeps its
place: in its cell if it is in a table, on its line if it is not.
-/

namespace TextTable

namespace Editor

/-- Lays out one table, whose lines stand from the row `first` on. Gives the number of rows that the
table has gained, and the position of what was at `p`. -/
def formatBlock (o : Options) (first : Int) (lines : List Text) (p : Position) :
    Edit (Int × Position) := do
  let table := Table.ofLines o.margin lines
  let complete := table.complete o.toStyle
  let formatted := complete.format o.toStyle
  exchange first lines formatted.lines
  let gain : Int := (formatted.lines.length : Int) - lines.length
  match table.focusAt? p first with
  | some f =>
    let f := f.completed table
    let f := f.withOffset (Table.offsetAfter f complete formatted false)
    return (gain, (formatted.positionOf? f first).getD p)
  | none =>
    return (gain, if first + lines.length ≤ p.row then ⟨p.row + gain, p.column⟩ else p)

/-- Lays out the tables from a row on. `count` is the number of rows from there to the end of the
document; `lines` are the lines just above the row that belong to the table being gathered, and `p`
is where the cursor is by now. -/
def sweepFrom (o : Options) : (count : Nat) → (row : Int) → (lines : List Text) → Position →
    Edit Position
  | 0, row, lines, p =>
    if lines = [] then pure p
    else Prod.snd <$> formatBlock o (row - lines.length) lines p
  | count + 1, row, lines, p => do
    let e ← get
    if e.isTableRow o.margin row then
      sweepFrom o count (row + 1) (lines ++ (e.line? row).toList) p
    else if lines = [] then
      sweepFrom o count (row + 1) [] p
    else
      let (gain, p) ← formatBlock o (row - lines.length) lines p
      sweepFrom o count (row + gain + 1) [] p

/-- Lays out all tables of the document. -/
def sweep (o : Options) : Edit Unit := do
  let e ← get
  let p ← sweepFrom o e.lines.length 0 [] e.cursor
  setCursor p

end Editor

namespace Workspace

/-- Lays out all tables of the document, in one transaction, and ends the session. -/
def formatAll (o : Options) : EStateM Fault Workspace Unit := fun w =>
  match Editor.transact (Editor.sweep o) w.editor with
  | .error fault editor => .error fault { w with editor }
  | .ok _ editor => .ok () ⟨editor, none⟩

end Workspace

end TextTable
