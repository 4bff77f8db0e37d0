import TextTable.Fault

/-!
# Alignments

A column is aligned to one of three sides or not at all. Alignment is written into the delimiter row
by colons (`delimiterText`): at the left end of a delimiter cell for left, at the right end for
right, at both for center, and at neither for a column without alignment.
-/

namespace TextTable

/-- A side that text is aligned to. -/
inductive Side
  | left
  | right
  | center
deriving DecidableEq

/-- The alignment of a column, where `none` leaves the choice to the options. -/
abbrev Alignment := Option Side

namespace Side

/-- The name of a side. -/
def name : Side → Text
  | .left => "left".toList
  | .right => "right".toList
  | .center => "center".toList

/-- The side with a name. -/
def ofName? (name : Text) : Option Side :=
  if name = "left".toList then some .left
  else if name = "right".toList then some .right
  else if name = "center".toList then some .center
  else none

end Side

namespace Alignment

/-- The name of an alignment. -/
def name : Alignment → Text
  | none => "none".toList
  | some side => side.name

/-- The alignment with a name. -/
def ofName? (name : Text) : Option Alignment :=
  if name = "none".toList then some none else (Side.ofName? name).map some

/-- The alignment with a name, or the fault that there is none. -/
def ofName (name : Text) : Except Fault Alignment :=
  match ofName? name with
  | some a => .ok a
  | none => .error (.unknownAlignment name)

/-- A delimiter cell of this alignment begins with a colon. -/
def colonLeft (a : Alignment) : Bool := a = some .left || a = some .center

/-- A delimiter cell of this alignment ends with a colon. -/
def colonRight (a : Alignment) : Bool := a = some .right || a = some .center

/-- The alignment that a delimiter cell with these colons has. -/
def ofColons : (left right : Bool) → Alignment
  | true, true => some .center
  | true, false => some .left
  | false, true => some .right
  | false, false => none

/-- The text of a delimiter cell: `width` dashes between two characters, each a colon or a space. -/
def delimiterText (a : Alignment) (width : Nat) : Text :=
  (if a.colonLeft then ':' else ' ') :: List.replicate width '-'
    ++ [if a.colonRight then ':' else ' ']

end Alignment

end TextTable
