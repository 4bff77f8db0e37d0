import TextTable.Text.Basic
import TextTable.Unicode.Printable

/-!
# Quoted texts

The written form of a text between quotes (`quoted`), in which every character that cannot be
printed, and the quote itself, is an escape. Single quotes are used unless the text holds a single
quote and no double one.
-/

namespace TextTable.Text

open Unicode (isPrintable)

/-- The last hexadecimal digits of a number, as many as asked for, in small letters. -/
def hexDigits : (count n : Nat) → Text
  | 0, _ => []
  | count + 1, n => hexDigits count (n / 16) ++ [Nat.digitChar (n % 16)]

/-- The escape of a code point: two, four or eight hexadecimal digits, as many as it needs. -/
def codeEscape (n : Nat) : Text :=
  if n < 0x100 then '\\' :: 'x' :: hexDigits 2 n
  else if n < 0x10000 then '\\' :: 'u' :: hexDigits 4 n
  else '\\' :: 'U' :: hexDigits 8 n

/-- How a character is written between two of the quotes `mark`. -/
def escapeChar (mark c : Char) : Text :=
  if c = mark ∨ c = '\\' then ['\\', c]
  else if c = '\t' then ['\\', 't']
  else if c = '\n' then ['\\', 'n']
  else if c = '\r' then ['\\', 'r']
  else if isPrintable c then [c]
  else codeEscape c.toNat

/-- The quote that a text is written with. -/
def quoteMark (t : Text) : Char := if '\'' ∈ t ∧ '"' ∉ t then '"' else '\''

/-- The text between quotes. -/
def quoted (t : Text) : Text :=
  quoteMark t :: t.flatMap (escapeChar (quoteMark t)) ++ [quoteMark t]

end TextTable.Text
