/-!
# Positions, spans and foci

Two ways to say where the cursor is. A *position* is a place on the screen: a row of the document
and a column of its line. A *focus* is a place in a table, whatever its layout: a row, a cell of
that row, and an offset into the cell. All of them are integers, for a place outside the document is
a legitimate question; the first row, column and offset are 0.
-/

namespace TextTable

/-- A place on the screen. -/
structure Position where
  row : Int
  column : Int
deriving DecidableEq

/-- The places from `start` up to but not including `stop`. -/
structure Span where
  start : Position
  stop : Position
deriving DecidableEq

/-- A place in a table. Row `-1` is above the table, and column `-1` is the margin before a row's
first pipe, where the offset counts from the start of the line. -/
structure Focus where
  row : Int
  column : Int
  offset : Int := 0
deriving DecidableEq

namespace Focus

/-- Both foci are in the same cell. -/
def sameCell (f g : Focus) : Bool := f.row = g.row && f.column = g.column

/-- The focus in another row. -/
def withRow (f : Focus) (row : Int) : Focus := { f with row }

/-- The focus in another column. -/
def withColumn (f : Focus) (column : Int) : Focus := { f with column }

/-- The focus at another offset. -/
def withOffset (f : Focus) (offset : Int) : Focus := { f with offset }

end Focus

end TextTable
