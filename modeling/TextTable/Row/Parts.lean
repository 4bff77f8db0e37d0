import TextTable.Text.Basic

/-!
# The parts of a line

A pipe divides a line into `parts` unless it is protected. A backslash protects the character behind
it, and a code span protects all of its characters: a run of backticks, the text behind it, and the
next run of exactly as many backticks. A run that no such run follows is no fence; its first
backtick is a plain character, and the rest of the run is looked at again.

Protection is expressed by one number: how many of the following characters are `held`, that is,
taken over without a look. So cutting a line is one pass over its characters (`partsHolding`).
-/

namespace TextTable.Row

/-- The number of characters up to the end of the first run of exactly `fence` backticks, where
`run` backticks have just been passed. -/
def spanEnd? (fence : Nat) : Nat → Text → Option Nat
  | run, [] => if run = fence then some 0 else none
  | run, c :: rest =>
    if c = '`' then (spanEnd? fence (run + 1) rest).map (· + 1)
    else if run = fence then some 0
    else (spanEnd? fence 0 rest).map (· + 1)

/-- The number of backticks that a text begins with. -/
def backticks (t : Text) : Nat := (t.takeWhile (· = '`')).length

/-- How many characters of `rest` are held by the character `c` before it. -/
def held (c : Char) (rest : Text) : Nat :=
  if c = '\\' then 1
  else if c = '`' then
    match spanEnd? (backticks rest + 1) 0 (rest.drop (backticks rest)) with
    | some n => backticks rest + n
    | none => 0
  else 0

/-- Puts a character before the first part. -/
def intoFirst (c : Char) : List Text → List Text
  | [] => [[c]]
  | part :: parts => (c :: part) :: parts

/-- The parts of a text whose first `n` characters are held. -/
def partsHolding : Nat → Text → List Text
  | _, [] => [[]]
  | n + 1, c :: rest => intoFirst c (partsHolding n rest)
  | 0, c :: rest =>
    if c = '|' then [] :: partsHolding 0 rest
    else intoFirst c (partsHolding (held c rest) rest)

theorem partsHolding_ne_nil (n : Nat) (t : Text) : partsHolding n t ≠ [] := by
  have into (c : Char) (ps : List Text) : intoFirst c ps ≠ [] := by cases ps <;> simp [intoFirst]
  cases t with
  | nil => cases n <;> simp [partsHolding]
  | cons c rest =>
    cases n with
    | zero =>
      by_cases h : c = '|'
      · simp [partsHolding, h]
      · simpa [partsHolding, h] using into _ _
    | succ n => simpa [partsHolding] using into _ _

/-- The parts of a text between the pipes that divide it. A text without such a pipe is one part. -/
def parts (t : Text) : List Text := partsHolding 0 t

end TextTable.Row
