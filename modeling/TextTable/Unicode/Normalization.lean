import TextTable.Unicode.CanonicalMappings
import TextTable.Unicode.CombiningClass

/-!
# Canonical composition

The composed normal form of a text (`nfc`): characters are taken apart as far as the canonical
mappings go (`decompose`), the marks behind each base are put into the order of their combining
classes (`orderMarks`), and then each base takes up the marks and letters that make one character
with it (`compose`). Texts that mean the same come out the same, so that their widths agree.

Hangul syllables are not in the tables: their parts follow from their code points
(`syllableParts?`).
-/

namespace TextTable.Unicode

/-! ## Hangul syllables -/

/-- The first precomposed syllable. -/
def hangulBase : Nat := 0xAC00
/-- The first leading consonant. -/
def leadBase : Nat := 0x1100
/-- The first vowel. -/
def vowelBase : Nat := 0x1161
/-- The place before the first trailing consonant, which stands for none. -/
def trailBase : Nat := 0x11A7

/-- The number of leading consonants. -/
def leadCount : Nat := 19
/-- The number of vowels. -/
def vowelCount : Nat := 21
/-- The number of trailing consonants, "none" included. -/
def trailCount : Nat := 28

/-- The consonants and the vowel of a precomposed syllable. -/
def syllableParts? (c : Char) : Option (List Char) :=
  let n := c.toNat
  if hangulBase ≤ n ∧ n < hangulBase + leadCount * vowelCount * trailCount then
    let s := n - hangulBase
    let lead := Char.ofNat (leadBase + s / (vowelCount * trailCount))
    let vowel := Char.ofNat (vowelBase + s % (vowelCount * trailCount) / trailCount)
    let trail := s % trailCount
    some (if trail = 0 then [lead, vowel] else [lead, vowel, Char.ofNat (trailBase + trail)])
  else none

/-- The syllable that a leading consonant makes with a vowel, or an open syllable with a trailing
consonant. -/
def syllable? (a b : Char) : Option Char :=
  let m := a.toNat
  let n := b.toNat
  if leadBase ≤ m ∧ m < leadBase + leadCount ∧ vowelBase ≤ n ∧ n < vowelBase + vowelCount then
    some (Char.ofNat (hangulBase + ((m - leadBase) * vowelCount + (n - vowelBase)) * trailCount))
  else if hangulBase ≤ m ∧ m < hangulBase + leadCount * vowelCount * trailCount ∧
      (m - hangulBase) % trailCount = 0 ∧ trailBase < n ∧ n < trailBase + trailCount then
    some (Char.ofNat (m + (n - trailBase)))
  else none

/-! ## Decomposition -/

/-- Takes a character apart; `depth` bounds how often the first of a pair is taken apart again. -/
def decomposeWithin : Nat → Char → List Char
  | 0, c => [c]
  | depth + 1, c =>
    match pairMappings.find? (·.1 = c.toNat) with
    | some (_, a, b) =>
      decomposeWithin depth (Char.ofNat a) ++ decomposeWithin depth (Char.ofNat b)
    | none =>
      match singletonMappings.find? (·.1 = c.toNat) with
      | some (_, a) => decomposeWithin depth (Char.ofNat a)
      | none => [c]

/-- The full canonical decomposition of a character. No chain of mappings in the tables is longer
than four steps. -/
def decompose (c : Char) : List Char :=
  match syllableParts? c with
  | some parts => parts
  | none => if c.toNat < 0xC0 then [c] else decomposeWithin 4 c

/-! ## Order of marks -/

/-- Puts a mark before the first character that it may not pass. -/
def insertMark (c : Char) : List Char → List Char
  | [] => [c]
  | d :: rest =>
    if 0 < combiningClass d ∧ combiningClass d < combiningClass c then d :: insertMark c rest
    else c :: d :: rest

/-- Sorts each run of marks by combining class; marks of one class keep their order. -/
def orderMarks (t : List Char) : List Char := t.foldr insertMark []

/-! ## Composition -/

/-- The one character that a pair makes. -/
def composite? (a b : Char) : Option Char :=
  match syllable? a b with
  | some c => some c
  | none =>
    (pairMappings.find? fun (c, x, y) =>
        x = a.toNat && y = b.toNat && !compositionExclusions.contains c).map
      fun (c, _) => Char.ofNat c

/-- Composes the rest of a text onto the base `base`. Between the base and the rest stand the marks
`between`, last first, which the base could not take up; a character behind a mark of its own class
or a higher one is out of the base's reach. -/
def composeOnto (base : Char) (between : List Char) : List Char → List Char
  | [] => base :: between.reverse
  | c :: rest =>
    let reached := match between with
      | [] => true
      | d :: _ => decide (combiningClass d < combiningClass c)
    match if reached then composite? base c else none with
    | some whole => composeOnto whole between rest
    | none =>
      if combiningClass c = 0 then base :: between.reverse ++ composeOnto c [] rest
      else composeOnto base (c :: between) rest

/-- Composes a text whose marks are in order. -/
def compose : List Char → List Char
  | [] => []
  | c :: rest => composeOnto c [] rest

/-- The composed normal form of a text. Below U+0300 there is nothing to compose and nothing to
reorder, so such a text is returned as it is. -/
def nfc (t : List Char) : List Char :=
  if t.all (·.toNat < 0x300) then t else compose (orderMarks (t.flatMap decompose))

end TextTable.Unicode
