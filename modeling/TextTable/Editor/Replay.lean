import TextTable.Editor.Basic
import TextTable.Script.Shortest

/-!
# Replaying scripts

A script is replayed on a block of the document, edit by edit (`replay`). A block is exchanged for
other lines by touching only the lines that differ, as long as few of them do (`exchange`).
-/

namespace TextTable

/-- An entry of a script from outside: an edit, or something that is none. -/
inductive ScriptEntry
  | edit (e : LineEdit)
  | unknown (name : Text)
deriving DecidableEq

namespace Editor

/-- Makes one edit of the block that begins on the row `base`. -/
def replayEdit (base : Int) : LineEdit → Edit Unit
  | .insert row line => insertLine (base + row) line
  | .delete row => deleteLine (base + row)
  | .replace row lines => replaceLines (base + row) (base + row + lines.length) lines

/-- Makes all edits of a script, on the block that begins on the row `base`. -/
def replay (base : Int) (script : Script) : Edit Unit := script.forM (replayEdit base)

/-- Makes all edits of a script from outside, up to the first entry that is no edit. -/
def replayEntries (base : Int) (entries : List ScriptEntry) : Edit Unit :=
  entries.forM fun
    | .edit e => replayEdit base e
    | .unknown name => throw (.unknownCommand name)

/-- The most single-line edits by which a block is exchanged; if more are needed, it is replaced
whole. -/
def exchangeLimit : Int := 3

/-- Puts the lines `new` in the place of the lines `old`, which stand from the row `first` on. -/
def exchange (first : Int) (old new : List Text) : Edit Unit :=
  match Script.shortest? old new exchangeLimit with
  | some script => replay first script
  | none => replaceLines first (first + old.length) new

end Editor

end TextTable
