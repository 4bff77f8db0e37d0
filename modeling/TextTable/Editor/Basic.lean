import TextTable.Fault
import TextTable.Position
import TextTable.Script.Basic
import TextTable.Signed

/-!
# The text editor

An `Editor` holds a document, a cursor and perhaps a selection. Every modification of the document
is logged, before it is made. Rows are signed positions in the document (see `TextTable.Signed`).

An editor may refuse one of its operations altogether (`permit`); a refused operation stops with a
fault and leaves no trace. An operation that stops for another reason stays in the log. A
*transaction* undoes all that was done in it when it is stopped (`transact`).
-/

namespace TextTable

/-- The operations that change an editor. -/
inductive Operation
  | setCursor
  | select
  | insertLine
  | deleteLine
  | replaceLines
deriving DecidableEq

/-- A modification of the document. -/
inductive Change
  | insert (row : Int) (line : Text)
  | delete (row : Int)
  /-- the rows from `start` up to but not including `stop` are replaced -/
  | replace (start stop : Int) (lines : List Text)
deriving DecidableEq

/-- The state of an editor. -/
structure Editor where
  lines : List Text
  cursor : Position
  selection : Option Span := none
  /-- the rows whose lines are never part of a table -/
  rejected : List Int := []
  /-- the operation that is refused, if any -/
  refused : Option Operation := none
  /-- all modifications of the document, in order -/
  log : List Change := []
  /-- how many transactions were begun -/
  transactions : Nat := 0
deriving DecidableEq

/-- Something that is done to an editor and may stop with a fault. -/
abbrev Edit (α : Type) : Type := EStateM Fault Editor α

namespace Editor

/-! ## Questions -/

/-- The last row of the document; `-1` when it has no lines. -/
def lastRow (e : Editor) : Int := e.lines.length - 1

/-- The line on a row. -/
def line? (e : Editor) (row : Int) : Option Text := Signed.get? e.lines row

/-- The line on a row may be part of a table. -/
def accepts (e : Editor) (row : Int) : Bool := !e.rejected.contains row

/-! ## Operations -/

/-- Goes on only if the operation is not refused. -/
def permit (operation : Operation) : Edit Unit := do
  if (← get).refused = some operation then throw .readOnly

/-- Puts the cursor on a position, without a selection. -/
def setCursor (p : Position) : Edit Unit := do
  permit .setCursor
  modify fun e => { e with cursor := p, selection := none }

/-- Selects a span and puts the cursor at its end. -/
def select (span : Span) : Edit Unit := do
  permit .select
  modify fun e => { e with cursor := span.stop, selection := some span }

/-- Adds a modification to the log. -/
def record (change : Change) : Edit Unit :=
  modify fun e => { e with log := e.log ++ [change] }

/-- Puts a line in before a row. -/
def insertLine (row : Int) (line : Text) : Edit Unit := do
  permit .insertLine
  record (.insert row line)
  modify fun e => { e with lines := Signed.insert e.lines row line }

/-- Removes the line on a row, which has to exist. -/
def deleteLine (row : Int) : Edit Unit := do
  permit .deleteLine
  record (.delete row)
  match Signed.erase? (← get).lines row with
  | some lines => modify fun e => { e with lines }
  | none => throw .outOfRange

/-- Puts lines in the place of the rows from `start` up to but not including `stop`. -/
def replaceLines (start stop : Int) (lines : List Text) : Edit Unit := do
  permit .replaceLines
  record (.replace start stop lines)
  modify fun e => { e with lines := Signed.replaceRange e.lines start stop lines }

/-! ## Transactions -/

/-- Does something in one transaction. If it stops, the editor is as it was before, except that the
transaction was begun. -/
def transact {α : Type} (action : Edit α) : Edit α := fun e =>
  let begun := { e with transactions := e.transactions + 1 }
  match action begun with
  | .ok a after => .ok a after
  | .error fault _ => .error fault begun

end Editor

end TextTable
