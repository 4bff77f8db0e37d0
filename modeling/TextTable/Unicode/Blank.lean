import TextTable.Unicode.Ranges

/-!
# Blank characters

The characters that count as white space (`isBlank`): around the content of a cell, in the margins
of a line, and around a number that is given as text. The zero width space and the byte order mark
are not among them.
-/

namespace TextTable.Unicode

/-- The white space code points, 29 in number. -/
def blankRanges : List (Nat × Nat) :=
  [(0x9, 0xD), (0x1C, 0x20), (0x85, 0x85), (0xA0, 0xA0), (0x1680, 0x1680), (0x2000, 0x200A),
   (0x2028, 0x2029), (0x202F, 0x202F), (0x205F, 0x205F), (0x3000, 0x3000)]

/-- `c` is white space. -/
def isBlank (c : Char) : Bool := inRanges blankRanges c

end TextTable.Unicode
