import TextTable.Options.Basic
import TextTable.Unicode.EastAsianWidth
import TextTable.Unicode.Normalization

/-!
# Widths and padding

The width of a text (`WidthOptions.width`) is the number of screen columns it takes: two for a wide
character and one for any other, with the ambiguous ones, and the exceptions to all this, up to the
options. Marks and control characters count like any other character.
-/

namespace TextTable

open Unicode (widthClass nfc)

namespace WidthOptions

/-- The number of columns of a character. -/
def charWidth (o : WidthOptions) (c : Char) : Nat :=
  if o.wideOverrides.any (· = [c]) then 2
  else if o.narrowOverrides.any (· = [c]) then 1
  else match widthClass c with
    | .wide => 2
    | .ambiguous => if o.ambiguousIsWide then 2 else 1
    | .narrow => 1

/-- The number of columns of the characters of a text, one by one. -/
def charsWidth (o : WidthOptions) : Text → Nat
  | [] => 0
  | c :: rest => o.charWidth c + o.charsWidth rest

/-- The text that is measured. -/
def measured (o : WidthOptions) (t : Text) : Text := if o.normalize then nfc t else t

/-- The number of columns of a text. ASCII characters are narrow, so that without wide exceptions an
ASCII text is as wide as it is long. -/
def width (o : WidthOptions) (t : Text) : Nat :=
  let m := o.measured t
  if m.all (·.toNat < 0x80) && o.wideOverrides.isEmpty then m.length
  else o.charsWidth m

end WidthOptions

namespace Side

/-- How much of `space` free columns goes to the left of a text. -/
def spaceBefore (side : Side) (space : Nat) : Nat :=
  match side with
  | .left => 0
  | .right => space
  | .center => space / 2

/-- Sets a text into `w` columns, with one space more at each end. A text that is wider than `w` is
kept whole. -/
def pad (side : Side) (o : WidthOptions) (w : Nat) (t : Text) : Text :=
  let space := w - o.width t
  let before := side.spaceBefore space
  ' ' :: Text.spaces before ++ t ++ Text.spaces (space - before) ++ [' ']

end Side

end TextTable
