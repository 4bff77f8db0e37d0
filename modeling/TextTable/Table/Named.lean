import TextTable.Table.Completion
import TextTable.Table.Layout
import TextTable.Table.Transform

/-!
# Styles by name

A style may be given by the names of its choices, unchecked. A name that no choice has is a fault,
but only where the name is needed: a table that has no use for it is laid out all the same. The name
`none` is an alignment, and text of that alignment goes to the left.
-/

namespace TextTable

/-- Where text of an alignment goes when nothing else decides. -/
def Alignment.side (a : Alignment) : Side := a.getD .left

namespace Alignment

/-- The text of a delimiter cell, by the name of its alignment. No number of dashes below 0 is
needed. -/
def namedDelimiterText (name : Text) (width : Int) : Except Fault Text :=
  (ofName name).map fun a => a.delimiterText width.toNat

/-- Sets a text into `w` columns, by the name of its alignment, which a text that is too wide does
not need. -/
def namedPad (name : Text) (o : WidthOptions) (w : Int) (t : Text) : Except Fault Text :=
  if (o.width t : Int) ≤ w then (ofName name).map fun a => a.side.pad o w.toNat t
  else .ok (Side.left.pad o 0 t)

end Alignment

/-- A style whose choices are names, and whose number of dashes is unchecked. -/
structure NamedStyle where
  formatType : Text
  minDelimiterWidth : Int
  defaultAlignment : Text
  headerAlignment : Text
  widthOptions : WidthOptions

namespace NamedStyle

/-- A style, by the names of its choices. -/
def ofStyle (s : Style) : NamedStyle where
  formatType := s.formatType.name
  minDelimiterWidth := s.minDelimiterWidth
  defaultAlignment := s.defaultAlignment.name
  headerAlignment := s.headerAlignment.name
  widthOptions := s.widthOptions

/-- The part of the style that needs no names. -/
def plain (s : NamedStyle) : Style :=
  { minDelimiterWidth := s.minDelimiterWidth.toNat, widthOptions := s.widthOptions }

/-- The header alignment that the style names. -/
def header (s : NamedStyle) : Except Fault HeaderAlignment :=
  match HeaderAlignment.ofName? s.headerAlignment with
  | some h => .ok h
  | none => (Alignment.ofName s.headerAlignment).map fun a => .fixed a.side

end NamedStyle

namespace Table

/-- Some text cell that a default alignment could move is in a column without alignment. -/
def needsDefault (h : HeaderAlignment) (t : Table) : Bool :=
  (if h = .follow then t.textRows else t.body).any fun r =>
    (List.range r.width).any fun j => (t.alignmentAt j).isNone

/-- The table in the normal format, with the alignments of a style by name. -/
def formatNormalNamed (s : NamedStyle) (t : Table) : Except Fault Table :=
  s.header.bind fun h =>
    let drawn := { s.plain with formatType := .normal, headerAlignment := h }
    match Alignment.ofName s.defaultAlignment with
    | .ok a => .ok (t.format { drawn with defaultAlignment := a.side })
    | .error fault => if t.needsDefault h then .error fault else .ok (t.format drawn)

/-- The table laid out in a style by name. -/
def formatNamed (s : NamedStyle) (t : Table) : Except Fault Table :=
  if t.headerWidth = 0 then .ok (t.format s.plain)
  else match FormatType.ofName? s.formatType with
    | some .normal => t.formatNormalNamed s
    | some .weak => .ok (t.format { s.plain with formatType := .weak })
    | none => .error (.unknownFormat s.formatType)

/-- The table with the alignment of a column set by name. -/
def setAlignmentNamed (s : Style) (t : Table) (column : Int) (name : Text) : Except Fault Table :=
  match Alignment.ofName name with
  | .ok a => .ok (t.setAlignment s column a)
  | .error fault =>
    if t.delimiter?.isSome ∧ 0 ≤ column ∧ column < t.headerWidth then .error fault else .ok t

end Table

end TextTable
