import TextTable.Editor.Block
import TextTable.Editor.Command
import TextTable.Editor.Replay

/-!
# Running commands

A `Workspace` is an editor together with the session of its smart cursor. A command on the table
under the cursor reads the table, completes it, plans, and writes the layout of the planned table
back, with the cursor in its new place, all in one transaction (`run`, `Plan.carryOut`). Where there
is no table, a command does nothing.

A command that is stopped leaves the document as it was. The session may have ended by then, because
it is checked before anything is written, but it never remembers a move that was not made.
-/

namespace TextTable

/-- An editor and the session of its smart cursor. -/
structure Workspace where
  editor : Editor
  session : Option Session := none
deriving DecidableEq

namespace Editor

/-! ## Writing a table -/

/-- Puts the cursor on a focus of a table that begins on the row `top`, and selects the content
there if asked to and if there is any. -/
def land (top : Int) (t : Table) (f : Focus) (selected : Bool) : Edit Unit :=
  match if selected then t.contentSpan? f top else none with
  | some span => select span
  | none =>
    match t.positionOf? f top with
    | some p => setCursor p
    | none => pure ()

/-- Puts the cursor behind the margin of a line, which is put in if the document ends before it. -/
def landBelow (m : Margin) (row : Int) : Edit Unit := do
  let e ← get
  if e.lastRow < row then
    insertLine row []
    setCursor ⟨row, 0⟩
  else match e.line? row with
    | some line => setCursor ⟨row, m.leading line⟩
    | none => throw .outOfRange

end Editor

namespace Landing

/-- The focus that the cursor has in the written table, if it is in it. -/
def focus? (formatted : Table) : Landing → Option Focus
  | .cell f basis moved _ => some (f.withOffset (Table.offsetAfter f basis formatted moved))
  | .below => none

/-- The content of the focused cell is to be selected. -/
def selected : Landing → Bool
  | .cell _ _ _ selected => selected
  | .below => false

end Landing

namespace Plan

/-- The table that is written. -/
def written (p : Plan) (o : Options) : Table := p.table.format o.toStyle

/-- Writes the planned table in the place of a block, and puts the cursor where the plan says. -/
def carryOut (p : Plan) (o : Options) (b : Block) : Edit Unit := do
  Editor.exchange b.first b.lines (p.written o).lines
  match p.landing.focus? (p.written o) with
  | some f => Editor.land b.first (p.written o) f p.landing.selected
  | none => Editor.landBelow o.margin (if b.table.lacksDelimiter then b.next + 1 else b.next)

/-- The session once the plan is carried out, for a block whose focus in the complete table was
`start`. -/
def remember (p : Plan) (o : Options) (b : Block) (start : Focus) (s : Option Session) :
    Option Session :=
  match p.memory, p.landing.focus? (p.written o) with
  | .forget, _ => none
  | .record, some last => Session.record s b.start start last (p.written o).headerWidth
  | _, _ => s

end Plan

namespace Workspace

/-- What a command does to the table `b` under the cursor. -/
def runOn (o : Options) (c : Command) (b : Block) (w : Workspace) :
    EStateM.Result Fault Workspace Unit :=
  let session := if c.checksSession then Session.check w.session b.start b.focus else w.session
  let start := b.focus.completed b.table
  match c.plan o session (b.table.complete o.toStyle) start with
  | .error fault => .error fault { w with session }
  | .ok p =>
    match Editor.transact (p.carryOut o b) w.editor with
    | .error fault editor => .error fault ⟨editor, session⟩
    | .ok _ editor => .ok () ⟨editor, p.remember o b start session⟩

/-- Runs a command on the table under the cursor. -/
def run (o : Options) (c : Command) : EStateM Fault Workspace Unit := fun w =>
  match w.editor.block? o.margin with
  | .error fault => .error fault w
  | .ok none => .ok () w
  | .ok (some b) => runOn o c b w

/-- Sets the alignment of the focused column by name. A name that no alignment has is a fault, if
the focus is in a column of the header; else there is nothing to set, and the table is laid out. -/
def runAlignColumn (o : Options) (name : Text) : EStateM Fault Workspace Unit := fun w =>
  match Alignment.ofName name with
  | .ok a => run o (.alignColumn a) w
  | .error fault =>
    match w.editor.block? o.margin with
    | .ok (some b) =>
      if Command.inHeader b.table b.focus.column then .error fault w else run o .format w
    | _ => run o .format w

/-- Ends the session. -/
def endSession (w : Workspace) : Workspace := { w with session := none }

end Workspace

end TextTable
