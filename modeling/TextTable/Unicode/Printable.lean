import TextTable.Unicode.Ranges
import TextTable.Unicode.Unassigned

/-!
# Printable characters

A character is printable when it shows on screen as itself: it is assigned, it is no control or
format character, no private or surrogate one, and no separator other than the plain space. All
others are written as escapes in a quoted text.
-/

namespace TextTable.Unicode

/-- The assigned code points that are not printable. -/
def unprintableRanges : List (Nat × Nat) :=
  [(0x0, 0x1F), (0x7F, 0xA0), (0xAD, 0xAD), (0x600, 0x605), (0x61C, 0x61C), (0x6DD, 0x6DD),
   (0x70F, 0x70F), (0x890, 0x891), (0x8E2, 0x8E2), (0x1680, 0x1680), (0x180E, 0x180E),
   (0x2000, 0x200F), (0x2028, 0x202F), (0x205F, 0x206F), (0x3000, 0x3000), (0xE000, 0xF8FF),
   (0xFEFF, 0xFEFF), (0xFFF9, 0xFFFB), (0x110BD, 0x110BD), (0x110CD, 0x110CD), (0x13430, 0x13438),
   (0x1BCA0, 0x1BCA3), (0x1D173, 0x1D17A), (0xE0001, 0xE007F), (0xF0000, 0x10FFFD)]

/-- `c` shows on screen as itself. -/
def isPrintable (c : Char) : Bool := !(inRanges unprintableRanges c || isUnassigned c)

end TextTable.Unicode
