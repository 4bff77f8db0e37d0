import TextTable.Alignment

/-!
# Options

What the user may choose: how the width of a text is measured, how a table is drawn, which
characters may stand before a table's first pipe, and whether the cursor remembers its column.

Drawing a table needs only its `Style`. The `Options` extend a style with what the editor needs, and
promise at least one dash in every delimiter cell: without a dash a written delimiter row would not
be read back as one.
-/

namespace TextTable

/-- How the width of a text is measured. The two sets are in increasing order; an override is a
character's own text, so a longer text in a set has no effect. -/
structure WidthOptions where
  /-- measure the composed normal form -/
  normalize : Bool := true
  /-- characters of two columns, whatever the standard says -/
  wideOverrides : List Text := []
  /-- characters of one column, unless they are in the other set -/
  narrowOverrides : List Text := []
  /-- characters of ambiguous width take two columns -/
  ambiguousIsWide : Bool := false
deriving DecidableEq

/-- How much of a table's layout is made. -/
inductive FormatType
  /-- columns are aligned -/
  | normal
  /-- each cell is set between two spaces, and columns are not aligned -/
  | weak
deriving DecidableEq

/-- How header cells are aligned. -/
inductive HeaderAlignment
  /-- like the other cells of their column -/
  | follow
  /-- all to one side -/
  | fixed (side : Side)
deriving DecidableEq

/-- How a table is drawn. -/
structure Style where
  formatType : FormatType := .normal
  /-- the least number of dashes in a delimiter cell -/
  minDelimiterWidth : Nat := 3
  /-- where the cells of a column without alignment go -/
  defaultAlignment : Side := .left
  headerAlignment : HeaderAlignment := .follow
  widthOptions : WidthOptions := {}
deriving DecidableEq

/-- All options of the editor. -/
structure Options extends Style where
  /-- texts whose characters may stand, like white space, before a table's first pipe -/
  leftMarginChars : List Text := []
  /-- moves to the next cell and the next row come back to the column where they began -/
  smartCursor : Bool := false
  /-- a delimiter cell has a dash -/
  minDelimiterWidth_pos : 0 < minDelimiterWidth := by decide
deriving DecidableEq

namespace FormatType

/-- The name of a format. -/
def name : FormatType → Text
  | .normal => "normal".toList
  | .weak => "weak".toList

/-- The format with a name. -/
def ofName? (name : Text) : Option FormatType :=
  if name = "normal".toList then some .normal
  else if name = "weak".toList then some .weak
  else none

end FormatType

namespace HeaderAlignment

/-- The name of a header alignment. -/
def name : HeaderAlignment → Text
  | .follow => "follow".toList
  | .fixed side => side.name

/-- The header alignment with a name. -/
def ofName? (name : Text) : Option HeaderAlignment :=
  if name = "follow".toList then some .follow else (Side.ofName? name).map .fixed

end HeaderAlignment

end TextTable
