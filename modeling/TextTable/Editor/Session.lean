import TextTable.Position

/-!
# Sessions of the smart cursor

A session begins with a move to the next cell or the next row and lasts as long as such moves follow
each other, each from where the last one ended (`check`). It remembers where the first move began
(`record`), so that moves to the next row can return to that column. No session is `none`.
-/

namespace TextTable

/-- What is remembered between moves. -/
structure Session where
  /-- the position where the table begins -/
  tableStart : Position
  /-- where the first move began -/
  start : Focus
  /-- where the last move ended -/
  last : Focus
deriving DecidableEq

namespace Session

/-- The column to which moves to the next row return. -/
def startColumn? (s : Option Session) : Option Int := s.map (·.start.column)

/-- Ends the session if the table or the cursor is not where the last move left it. -/
def check (s : Option Session) (tableStart : Position) (f : Focus) : Option Session :=
  s.filter fun s => s.tableStart = tableStart && f.sameCell s.last

/-- The place where a move begins, as a session remembers it: off the columns of the header, it is
the first column of its row. -/
def homeOf (start : Focus) (headerWidth : Int) : Focus :=
  if start.column < 0 ∨ headerWidth - 1 < start.column then ⟨start.row, 0, 0⟩ else start

/-- The session after a move; the first move begins one. -/
def record (s : Option Session) (tableStart : Position) (start last : Focus) (headerWidth : Int) :
    Option Session :=
  match s with
  | some s => some { s with last }
  | none => some ⟨tableStart, homeOf start headerWidth, last⟩

end Session

end TextTable
