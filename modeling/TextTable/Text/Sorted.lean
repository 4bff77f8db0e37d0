import TextTable.Text.Basic

/-!
# Sets of texts

A set of texts is kept as the list of its members in increasing order, each once (`sortedSet`);
texts are compared character by character, by code point. Two such lists hold the same texts exactly
when they are equal, so that values built from them can be compared.
-/

namespace TextTable.Text

/-- Adds a member to a set. -/
def insertSorted (t : Text) : List Text → List Text
  | [] => [t]
  | u :: rest =>
    if t < u then t :: u :: rest
    else if t = u then u :: rest
    else u :: insertSorted t rest

/-- The set of the texts in a list. -/
def sortedSet (ts : List Text) : List Text := ts.foldr insertSorted []

end TextTable.Text
