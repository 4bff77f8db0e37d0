import TextTable.Alignment

/-!
# Cells

A cell is the text between two pipes, kept as it stands so that a place in the cell is a place on
the screen. Its `content` is that text without the white space around it, and its `value` is what
the content means: a pipe inside a cell is written behind a backslash (`ofValue`).
-/

namespace TextTable

/-- The text between two pipes. -/
structure Cell where
  raw : Text
deriving DecidableEq

namespace Cell

/-- A cell without any text. -/
def empty : Cell := ⟨[]⟩

/-! ## Content -/

/-- The text of a cell without the white space around it. -/
def content (c : Cell) : Text := Text.trim c.raw

/-- The number of blanks before the content. A blank cell has one of its blanks there, if any. -/
def paddingLeft (c : Cell) : Nat :=
  if c.content = [] then min 1 c.raw.length else (c.raw.takeWhile Unicode.isBlank).length

/-- The number of blanks behind the content. -/
def paddingRight (c : Cell) : Nat := c.raw.length - c.content.length - c.paddingLeft

/-- The offset into the content that a raw offset stands for; one outside the content stands for its
nearer end. -/
def contentOffset (c : Cell) (r : Int) : Nat := min (r - c.paddingLeft).toNat c.content.length

/-- The raw offset of an offset into the content. -/
def rawOffset (c : Cell) (q : Int) : Int := q + c.paddingLeft

/-! ## Value -/

/-- Writes each pipe behind a backslash. -/
def escapePipes (t : Text) : Text := t.flatMap fun c => if c = '|' then ['\\', '|'] else [c]

/-- Drops the backslash before each pipe that has one. -/
def unescapePipes : Text → Text
  | '\\' :: '|' :: rest => '|' :: unescapePipes rest
  | c :: rest => c :: unescapePipes rest
  | [] => []

/-- The cell that holds a value. -/
def ofValue (value : Text) : Cell := ⟨escapePipes value⟩

/-- The value that a cell holds. -/
def value (c : Cell) : Text := unescapePipes c.content

/-! ## Delimiter cells -/

/-- A row of dashes with a colon or not at either end. -/
def isDelimiterText (t : Text) : Bool :=
  let bar := if t.head? = some ':' then t.drop 1 else t
  let dashes := bar.takeWhile (· = '-')
  let rest := bar.dropWhile (· = '-')
  dashes ≠ [] && (rest = [] || rest = [':'])

/-- The cell is written as a delimiter cell. -/
def isDelimiter (c : Cell) : Bool := isDelimiterText c.content

/-- The alignment that a delimiter cell states; other cells state none. -/
def alignment? (c : Cell) : Option Alignment :=
  if c.isDelimiter then
    some (Alignment.ofColons (c.content.head? = some ':') (c.content.getLast? = some ':'))
  else none

/-- The delimiter cell of an alignment with `width` dashes. -/
def delimiter (a : Alignment) (width : Nat) : Cell := ⟨a.delimiterText width⟩

end Cell

end TextTable
