import TextTable.Options.Basic
import TextTable.Text.Sorted

/-!
# Margins

A line of the document is a table line (`isTableLine`) when nothing but margin stands before its
first pipe: white space, and the characters that the options admit there, such as the mark of a
quotation. The three characters that have a meaning inside a row are `reserved`: a text that is one
of them adds nothing to the margin. A longer text adds all of its characters, reserved or not.
-/

namespace TextTable

open Unicode (isBlank)

/-- Which characters may stand in a margin besides white space, as the options give them. -/
structure Margin where
  texts : List Text

namespace Margin

/-- The texts that add nothing to a margin: a pipe, a backslash and a backtick, each by itself. -/
def reserved : List Text := [['|'], ['\\'], ['`']]

/-- The texts that add their characters. -/
def admitted (m : Margin) : List Text := m.texts.filter (· ∉ reserved)

/-- `c` may stand in the margin. -/
def contains (m : Margin) (c : Char) : Bool := isBlank c || m.admitted.any (·.contains c)

/-- The length of the longest margin that a line begins with. -/
def leading (m : Margin) (line : Text) : Nat := (line.takeWhile m.contains).length

/-- Nothing but margin stands before some pipe of the line. -/
def isTableLine (m : Margin) : Text → Bool
  | [] => false
  | c :: rest => c = '|' || (m.contains c && m.isTableLine rest)

/-! ## The margin as a pattern -/

/-- The characters that are written with a backslash inside a pattern. -/
def patternSpecials : Text :=
  "\t\n\x0b\x0c\r #$&()*+-.?[\\]^\x7b|\x7d~".toList

/-- A character inside a pattern. -/
def escapeInPattern (c : Char) : Text := if c ∈ patternSpecials then ['\\', c] else [c]

/-- A search pattern for a margin: any number of characters of one class, in which `\s` stands for
the white space. -/
def pattern (m : Margin) : Text :=
  "[\\s".toList ++ m.admitted.flatMap (·.flatMap escapeInPattern) ++ "]*".toList

end Margin

/-- The margin that the options describe. -/
def Options.margin (o : Options) : Margin := ⟨o.leftMarginChars⟩

end TextTable
