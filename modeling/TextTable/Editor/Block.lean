import TextTable.Editor.Basic
import TextTable.Table.Coordinates
import TextTable.Table.Reader

/-!
# The table under the cursor

A table in a document is a run of table lines that the editor accepts, as long as possible. The
table under the cursor is the run around the cursor's row (`block?`).
-/

namespace TextTable

/-- The table around the cursor, as it stands in the document. -/
structure Block where
  /-- the row of the table's first line -/
  first : Int
  lines : List Text
  table : Table
  /-- where the cursor is in the table -/
  focus : Focus

namespace Block

/-- The row behind the last line of the table. -/
def next (b : Block) : Int := b.first + b.lines.length

/-- The position where the table begins. -/
def start (b : Block) : Position := ⟨b.first, 0⟩

end Block

namespace Editor

/-- The row can belong to a table: it is accepted and has a table line. -/
def isTableRow (e : Editor) (m : Margin) (row : Int) : Bool :=
  e.accepts row && (e.line? row).any m.isTableLine

/-- The cursor is on a row that belongs to a table. -/
def cursorInTable (e : Editor) (m : Margin) : Except Fault Bool :=
  if e.accepts e.cursor.row then
    match e.line? e.cursor.row with
    | some line => .ok (m.isTableLine line)
    | none => .error .outOfRange
  else .ok false

/-- The number of rows `row`, `row + step`, … with a property before the first one without it, of at
most as many as the last argument says. -/
def runLength (p : Int → Bool) (step row : Int) : Nat → Nat
  | 0 => 0
  | n + 1 => if p row then runLength p step (row + step) n + 1 else 0

/-- The block of `count` lines from the row `first` on. -/
def linesFrom (e : Editor) (first : Int) (count : Nat) : List Text :=
  (List.range count).filterMap fun (i : Nat) => e.line? (first + i)

/-- The table under the cursor, if there is one. -/
def block? (e : Editor) (m : Margin) : Except Fault (Option Block) :=
  (e.cursorInTable m).map fun inTable =>
    if inTable then
      let row := e.cursor.row
      let above := runLength (e.isTableRow m) (-1) (row - 1) row.toNat
      let below := runLength (e.isTableRow m) 1 (row + 1) (e.lastRow - row).toNat
      let first := row - above
      let lines := e.linesFrom first (above + 1 + below)
      let table := Table.ofLines m lines
      (table.focusAt? e.cursor first).map fun focus => { first, lines, table, focus }
    else none

end Editor

end TextTable
