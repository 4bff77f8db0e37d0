import TextTable.Script.Basic

/-!
# Shortest scripts

The search for the fewest line edits that turn `old` into `new`. It fills a grid row by row: the
place `(i, j)` holds the best *trail* that turns the first `i` old lines into the first `j` new
ones, or nothing if every trail costs more than the limit. The last place holds the answer. Trails
that cost too much are dropped as soon as they do, so of a wide grid only a band around the diagonal
is alive.

Where two trails cost the same, replacing is preferred to deleting, and deleting to inserting, at
each place anew. This makes the answer unique. It need not give it the most replacements that a
shortest script can have, since the places before may then have to make up for a replacement.
-/

namespace TextTable.Script

/-! ## Trails -/

/-- What is done with the next old line or the next new one. -/
inductive Step
  | keep
  | replace (line : Text)
  | delete
  | insert (line : Text)
deriving DecidableEq

/-- A way through the lines, with its cost: one for each step that keeps nothing. -/
structure Trail where
  cost : Nat
  /-- the steps taken, the last one first -/
  steps : List Step
deriving DecidableEq

namespace Trail

/-- The trail that has not begun. -/
def start : Trail := ⟨0, []⟩

/-- Goes on by a step that keeps the line. -/
def keep (t : Trail) : Trail := ⟨t.cost, .keep :: t.steps⟩

/-- Goes on by a step that costs something. -/
def spend (step : Step) (t : Trail) : Trail := ⟨t.cost + 1, step :: t.steps⟩

/-- The cheaper of two trails; the first one when they cost the same. -/
def cheaper : Option Trail → Option Trail → Option Trail
  | some t, some u => if t.cost ≤ u.cost then some t else some u
  | some t, none => some t
  | none, u => u

/-- The trail, unless it costs more than the limit. -/
def within (limit : Nat) (t : Option Trail) : Option Trail := t.filter (·.cost ≤ limit)

end Trail

/-! ## The grid -/

open Trail

/-- The place for the old line `a` and the new line `b`, from the places before both, before `a`,
and before `b`. Two equal lines are always kept: no other step can be cheaper. -/
def place (limit : Nat) (a b : Text) (before above left : Option Trail) : Option Trail :=
  if a = b then before.map keep
  else within limit
    (cheaper (cheaper (before.map (spend (.replace b))) (above.map (spend .delete)))
      (left.map (spend (.insert b))))

/-- The places of a row from the second on. -/
def rowRest (limit : Nat) (a : Text) (before left : Option Trail) :
    List (Option Trail) → List Text → List (Option Trail)
  | above :: aboves, b :: bs =>
    let here := place limit a b before above left
    here :: rowRest limit a above here aboves bs
  | _, _ => []

/-- The row for one more old line, from the row above it. -/
def nextRow (limit : Nat) (new : List Text) (row : List (Option Trail)) (a : Text) :
    List (Option Trail) :=
  match row with
  | [] => []
  | before :: aboves =>
    let first := within limit (before.map (spend .delete))
    first :: rowRest limit a before first aboves new

/-- The row for no old line: all new lines are put in. -/
def firstRow (limit : Nat) (t : Option Trail) : List Text → List (Option Trail)
  | [] => [t]
  | b :: bs => t :: firstRow limit (within limit (t.map (spend (.insert b)))) bs

/-- The best trail through all lines that costs no more than the limit. -/
def bestTrail? (limit : Nat) (old new : List Text) : Option Trail :=
  (old.foldl (nextRow limit new) (firstRow limit (some start) new)).getLast?.join

/-! ## From trails to scripts -/

/-- Puts a replacement of one row before a script; it joins a replacement of the row behind it. -/
def consReplace (row : Nat) (line : Text) : Script → Script
  | .replace next lines :: rest =>
    if next = row + 1 then .replace row (line :: lines) :: rest
    else .replace row [line] :: .replace next lines :: rest
  | s => .replace row [line] :: s

/-- The edits of a trail's steps, in order, where the first step is at `row`. -/
def ofSteps (row : Nat) : List Step → Script
  | [] => []
  | .keep :: rest => ofSteps (row + 1) rest
  | .replace line :: rest => consReplace row line (ofSteps (row + 1) rest)
  | .delete :: rest => .delete row :: ofSteps row rest
  | .insert line :: rest => .insert row line :: ofSteps (row + 1) rest

/-- A script of the fewest edits that turn `old` into `new`, if no more than `most` are needed. A
negative `most` sets no limit. -/
def shortest? (old new : List Text) (most : Int) : Option Script :=
  let limit := if most < 0 then old.length + new.length else most.toNat
  (bestTrail? limit old new).map fun t => ofSteps 0 t.steps.reverse

end TextTable.Script
