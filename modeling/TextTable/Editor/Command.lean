import TextTable.Editor.Session
import TextTable.Table.Completion
import TextTable.Table.Layout
import TextTable.Table.Transform

/-!
# Commands

What the commands on the table under the cursor do, apart from the document: from the complete
table, the focus in it and the session, each command makes a plan (`Command.plan`). A `Plan` says
what the table becomes, where the cursor goes, and what is remembered. The written table is the
layout of the planned one.
-/

namespace TextTable

/-- A command on the table under the cursor. -/
inductive Command
  /-- lay out the table -/
  | format
  /-- go to the line below the table -/
  | escape
  /-- set the alignment of the focused column -/
  | alignColumn (a : Alignment)
  /-- select the content of the focused cell -/
  | selectCell
  /-- go some rows and columns on, within the table -/
  | moveFocus (rows columns : Int)
  /-- go to the next cell; from the last column on, to a new one -/
  | nextCell
  /-- go to the cell before, also from the first column of a row -/
  | previousCell
  /-- go to the next row; from the last row on, to a new one -/
  | nextRow
  /-- put in an empty row -/
  | insertRow
  /-- take out the focused row -/
  | deleteRow
  /-- move the focused row by some rows -/
  | moveRow (rows : Int)
  /-- put in an empty column -/
  | insertColumn
  /-- take out the focused column -/
  | deleteColumn
  /-- move the focused column by some columns -/
  | moveColumn (columns : Int)
deriving DecidableEq

/-- Where the cursor goes. -/
inductive Landing
  /-- To a focus in the written table. If `moved`, it goes to the start of the cell's content; else
  it keeps the place that its offset means in the cell of `basis`. If `selected`, the content is
  selected. -/
  | cell (f : Focus) (basis : Table) (moved selected : Bool)
  /-- To the line below the table. -/
  | below

/-- What becomes of the session. -/
inductive Memory
  | keep
  | forget
  /-- the move is recorded -/
  | record
deriving DecidableEq

/-- What a command is going to do. -/
structure Plan where
  table : Table
  landing : Landing
  memory : Memory := .forget

namespace Command

/-! ## Targets of moves -/

/-- The row some rows on from `row`, in a table of the given height. A move from one side of the
delimiter row to the other does not count it. -/
def rowTarget (height : Nat) (row rows : Int) : Int :=
  let skip := if row < 1 ∧ 1 ≤ row + rows then 1 else if 1 < row ∧ row + rows ≤ 1 then -1 else 0
  min (max (row + rows + skip) 0) (if height ≤ 2 then 0 else height - 1)

/-- The column some columns on from `column`, within a header of the given width. A column off the
header stays if the move leads further away. -/
def columnTarget (width : Nat) (column columns : Int) : Int :=
  if (column < 0 ∧ columns < 0) ∨ ((width : Int) - 1 < column ∧ 0 < columns) then column
  else min (max (column + columns) 0) (width - 1)

/-- The focus that lies some rows and columns on. A move to another row brings a focus behind the
last column back to it. -/
def moveTarget (t : Table) (f : Focus) (rows columns : Int) : Focus :=
  let g := if rows = 0 then f else
    (f.withRow (rowTarget t.height f.row rows)).withColumn (min f.column (t.headerWidth - 1))
  if columns = 0 then g else g.withColumn (columnTarget t.headerWidth g.column columns)

/-- The focus one cell back. The row before the first body row is the header. -/
def previousTarget (t : Table) (f : Focus) : Focus :=
  let last : Int := t.headerWidth - 1
  if f.row = 1 then ⟨0, last, f.offset⟩
  else if 0 < f.column then f.withColumn (min (f.column - 1) last)
  else if f.row = 0 then f
  else ⟨if f.row = 2 then 0 else f.row - 1, last, f.offset⟩

/-- The column is one of the header's. -/
def inHeader (t : Table) (column : Int) : Bool := 0 ≤ column && column < t.headerWidth

/-- The table with an empty row at its end if it has no row `row` yet. -/
def growTo (t : Table) (row : Int) : Table :=
  if (t.height : Int) - 1 < row then t.insertRow t.height (Row.blank t.headerWidth) else t

/-- A column of empty cells, for every row but the delimiter row. -/
def blankColumn (t : Table) : List Cell := List.replicate (t.height - 1) Cell.empty

/-! ## Plans -/

/-- Memory of a command that may leave the cursor in its cell: only a move ends the session. -/
def forgetIf (moved : Bool) : Memory := if moved then .forget else .keep

/-- Memory of the moves that a session is made of. -/
def recordIf (o : Options) : Memory := if o.smartCursor then .record else .keep

/-- Plans the move to the next cell. -/
def planNextCell (o : Options) (t : Table) (f : Focus) : Except Fault Plan :=
  let last : Int := t.headerWidth - 1
  if f.row = 1 ∨ (f.row = 0 ∧ last ≤ f.column) then
    let column := if f.row = 1 ∧ o.smartCursor ∧ inHeader t f.column then f.column else 0
    let grown := growTo t 2
    .ok ⟨grown, .cell ⟨2, column, 0⟩ grown true true, recordIf o⟩
  else
    (if last < f.column + 1 then t.insertColumn o.toStyle t.headerWidth (blankColumn t)
      else .ok t).map fun grown =>
        let target := f.withColumn (min (f.column + 1) (grown.headerWidth - 1))
        ⟨grown, .cell target grown true true, recordIf o⟩

/-- Plans the move to the next row. -/
def planNextRow (o : Options) (s : Option Session) (t : Table) (f : Focus) : Plan :=
  let row := if f.row = 0 then 2 else f.row + 1
  let column := match o.smartCursor, Session.startColumn? s with
    | true, some column => column
    | true, none => if inHeader t f.column then f.column else 0
    | false, _ => 0
  let grown := growTo t row
  ⟨grown, .cell ⟨row, column, f.offset⟩ grown true true, recordIf o⟩

/-- Plans taking out the focused row. -/
def planDeleteRow (t : Table) (f : Focus) : Except Fault Plan :=
  if 1 < f.row then
    (t.deleteRow f.row).map fun altered =>
      let row :=
        if (altered.height : Int) - 1 < f.row then if f.row = 2 then 0 else f.row - 1 else f.row
      ⟨altered, .cell (f.withRow row) altered true true, .forget⟩
  else .ok ⟨t, .cell f t false false, .forget⟩

/-- Plans moving the focused row. -/
def planMoveRow (t : Table) (f : Focus) (rows : Int) : Except Fault Plan :=
  if 1 < f.row then
    let target := min (max (f.row + rows) 2) ((t.height : Int) - 1)
    (t.moveRow f.row target).map fun altered =>
      ⟨altered, .cell (f.withRow target) altered false false, .forget⟩
  else .ok ⟨t, .cell f t false false, .forget⟩

/-- The focus in a row of text: from the delimiter row it goes to the header. -/
def offDelimiter (f : Focus) : Focus := if f.row = 1 then f.withRow 0 else f

/-- Plans putting in a column. -/
def planInsertColumn (o : Options) (t : Table) (f : Focus) : Except Fault Plan :=
  let column := min (max f.column 0) t.headerWidth
  (t.insertColumn o.toStyle column (blankColumn t)).map fun altered =>
    ⟨altered, .cell ((offDelimiter f).withColumn column) altered true false, .forget⟩

/-- Plans taking out the focused column. -/
def planDeleteColumn (t : Table) (f : Focus) : Except Fault Plan :=
  let f := offDelimiter f
  if inHeader t f.column then
    (t.deleteColumn f.column).map fun altered =>
      let moved := decide (1 < t.headerWidth)
      let target := f.withColumn (min f.column ((altered.headerWidth : Int) - 1))
      ⟨altered, .cell target altered moved moved, .forget⟩
  else .ok ⟨t, .cell f t false false, .forget⟩

/-- Plans moving the focused column. -/
def planMoveColumn (t : Table) (f : Focus) (columns : Int) : Except Fault Plan :=
  if inHeader t f.column then
    let target := min (max (f.column + columns) 0) ((t.headerWidth : Int) - 1)
    (t.moveColumn f.column target).map fun altered =>
      ⟨altered, .cell (f.withColumn target) altered false false, .forget⟩
  else .ok ⟨t, .cell f t false false, .forget⟩

/-- The plan of a command for a complete table, with the focus in it and the session so far. -/
def plan (o : Options) (s : Option Session) (t : Table) (f : Focus) : Command → Except Fault Plan
  | .format => .ok ⟨t, .cell f t false false, .forget⟩
  | .escape => .ok ⟨t, .below, .forget⟩
  | .alignColumn a => .ok ⟨t.setAlignment o.toStyle f.column a, .cell f t false false, .forget⟩
  | .selectCell => .ok ⟨t, .cell f t false true, .forget⟩
  | .moveFocus rows columns =>
    let target := moveTarget t f rows columns
    let moved := !target.sameCell f
    .ok ⟨t, .cell target t moved moved, forgetIf moved⟩
  | .nextCell => planNextCell o t f
  | .previousCell =>
    let target := previousTarget t f
    let moved := !target.sameCell f
    .ok ⟨t, .cell target t moved moved, forgetIf moved⟩
  | .nextRow => .ok (planNextRow o s t f)
  | .insertRow =>
    let target := (if f.row ≤ 1 then f.withRow 2 else f).withColumn 0
    let grown := t.insertRow target.row (Row.blank t.headerWidth)
    .ok ⟨grown, .cell target grown true false, .forget⟩
  | .deleteRow => planDeleteRow t f
  | .moveRow rows => planMoveRow t f rows
  | .insertColumn => planInsertColumn o t f
  | .deleteColumn => planDeleteColumn t f
  | .moveColumn columns => planMoveColumn t f columns

/-- The command looks at the session, and so has it checked first. -/
def checksSession : Command → Bool
  | .nextCell | .nextRow => true
  | _ => false

end Command

end TextTable
