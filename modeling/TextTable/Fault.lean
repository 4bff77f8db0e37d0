import TextTable.Text.Quoted

/-!
# What can go wrong

The causes for which an operation stops without a result, and their wording.
-/

namespace TextTable

/-- Why an operation stopped. -/
inductive Fault
  /-- a row or column that does not exist -/
  | outOfRange
  /-- a table without rows was to be completed -/
  | emptyTable
  /-- no alignment has this name -/
  | unknownAlignment (name : Text)
  /-- no format has this name -/
  | unknownFormat (name : Text)
  /-- no line edit has this name -/
  | unknownCommand (name : Text)
  /-- the editor refused a modification -/
  | readOnly
deriving DecidableEq

/-- The value, if there is one; else a position did not exist. -/
def Fault.ofMissing {α : Type} : Option α → Except Fault α
  | some a => .ok a
  | none => .error .outOfRange

/-- The wording of a fault; a position that does not exist has none. -/
def Fault.message? : Fault → Option Text
  | .outOfRange => none
  | .emptyTable => some "Empty table".toList
  | .unknownAlignment name => some ("Unknown alignment: ".toList ++ name)
  | .unknownFormat name => some ("Unknown format type: ".toList ++ name)
  | .unknownCommand name => some ("Unknown edit command: ".toList ++ Text.quoted name)
  | .readOnly => some "read-only".toList

end TextTable
