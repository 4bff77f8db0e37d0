import TextTable.Text.Basic

/-!
# Scripts of line edits

A script turns one block of lines into another by edits of single lines. Rows count from the start
of the block, and each edit means the block as the edits before it have left it (`Script.outcome?`).
-/

namespace TextTable

/-- An edit of lines. -/
inductive LineEdit
  /-- puts a line in before a row -/
  | insert (row : Int) (line : Text)
  /-- removes a row -/
  | delete (row : Int)
  /-- puts lines in the place of as many rows, from `row` on -/
  | replace (row : Int) (lines : List Text)
deriving DecidableEq

/-- A sequence of line edits. -/
abbrev Script := List LineEdit

namespace LineEdit

/-- The number of single-line edits that an edit stands for. -/
def distance : LineEdit → Nat
  | .insert _ _ => 1
  | .delete _ => 1
  | .replace _ lines => lines.length

/-- What an edit makes of a block. All rows that it names have to exist, but for the row behind the
last one, before which a line can be put in. -/
def outcome? (block : List Text) : LineEdit → Option (List Text)
  | .insert row line =>
    if 0 ≤ row ∧ row ≤ block.length then
      some (block.take row.toNat ++ line :: block.drop row.toNat)
    else none
  | .delete row =>
    if 0 ≤ row ∧ row < block.length then some (block.eraseIdx row.toNat) else none
  | .replace row lines =>
    if 0 ≤ row ∧ row + lines.length ≤ block.length then
      some (block.take row.toNat ++ lines ++ block.drop (row.toNat + lines.length))
    else none

end LineEdit

namespace Script

/-- The number of single-line edits of a script. -/
def distance : Script → Nat
  | [] => 0
  | edit :: rest => edit.distance + distance rest

/-- What a script makes of a block. -/
def outcome? (block : List Text) (s : Script) : Option (List Text) :=
  s.foldlM LineEdit.outcome? block

end Script

end TextTable
