import TextTable.Options.Basic
import TextTable.Options.Value

/-!
# Writing options

The plain value that options are written as: an object with every field, in either spelling of the
field names.
-/

namespace TextTable

/-- Texts as a list of plain values. -/
def Value.ofTexts (ts : List Text) : Value := .list (ts.map .text)

/-- Writes how widths are measured. -/
def WidthOptions.toValue (s : Spelling) (o : WidthOptions) : Value :=
  .object
    [(s.apply "normalize".toList, .bool o.normalize),
     (s.apply "wideOverrides".toList, .ofTexts o.wideOverrides),
     (s.apply "narrowOverrides".toList, .ofTexts o.narrowOverrides),
     (s.apply "treatAmbiguousAsWide".toList, .bool o.ambiguousIsWide)]

/-- Writes all options. -/
def Options.toValue (s : Spelling) (o : Options) : Value :=
  .object
    [(s.apply "leftMarginChars".toList, .ofTexts o.leftMarginChars),
     (s.apply "formatType".toList, .text o.formatType.name),
     (s.apply "minDelimiterWidth".toList, .number o.minDelimiterWidth 0),
     (s.apply "defaultAlignment".toList, .text o.defaultAlignment.name),
     (s.apply "headerAlignment".toList, .text o.headerAlignment.name),
     (s.apply "textWidthOptions".toList, o.widthOptions.toValue s),
     (s.apply "smartCursor".toList, .bool o.smartCursor)]

end TextTable
