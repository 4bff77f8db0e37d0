import TextTable.Unicode.Blank

/-!
# Texts

A text is the list of its characters. Every length, offset and column of the library counts
characters, so positions in a text are positions in a list, and cutting a text is taking and
dropping.
-/

namespace TextTable

/-- A text, character by character. -/
abbrev Text := List Char

namespace Text

open Unicode (isBlank)

/-- The text without its leading white space. -/
def trimStart (t : Text) : Text := t.dropWhile isBlank

/-- The text without its trailing white space. -/
def trimEnd (t : Text) : Text := (t.reverse.dropWhile isBlank).reverse

/-- The text without white space at either end. -/
def trim (t : Text) : Text := trimEnd (trimStart t)

/-- `n` spaces. -/
def spaces (n : Nat) : Text := List.replicate n ' '

/-- Texts with a separator between each two. -/
def joined (separator : Text) (ts : List Text) : Text := (ts.intersperse separator).flatten

end Text

end TextTable
