import TextTable.Text.Basic

/-!
# Settings as data

Settings come from outside as a tree of plain values. A field of an object is spelled in one of two
ways: in camel case, or in snake case, where each capital is a small letter behind an underscore
(`Spelling.apply`).
-/

namespace TextTable

/-- A power of ten. -/
def powerOfTen : Nat → Nat
  | 0 => 1
  | n + 1 => 10 * powerOfTen n

/-- A plain value. -/
inductive Value
  | null
  | bool (b : Bool)
  /-- the number `digits / powerOfTen places` -/
  | number (digits : Int) (places : Nat)
  | text (t : Text)
  | list (items : List Value)
  | object (fields : List (Text × Value))

/-- How the names of fields are spelled. -/
inductive Spelling
  | camel
  | snake
deriving DecidableEq

/-- A field name, given in camel case, in a spelling. -/
def Spelling.apply : Spelling → Text → Text
  | .camel, name => name
  | .snake, name => name.flatMap fun c => if c.isUpper then ['_', c.toLower] else [c]

/-- The field of an object that has a name, with the name as it was spelled. Camel case is looked
for first, and then hides the other spelling. -/
def Value.field? (fields : List (Text × Value)) (name : Text) : Option (Text × Value) :=
  match fields.find? (·.1 = Spelling.camel.apply name) with
  | some entry => some entry
  | none => fields.find? (·.1 = Spelling.snake.apply name)

end TextTable
