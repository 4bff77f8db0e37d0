import TextTable.Script.Shortest

/-!
# Searching in a band

The search for a shortest script, with nothing but the costs of places in its table. The place
`(i, j)` costs as many edits as turn the first `i` old lines into the first `j` new ones. It is
filled only if `i` and `j` are no further apart than the limit, since all other places cost more
than that, and the search gives up after a row in which every place does. The steps are read off
from the full table, from its last place back to its first one, with the same preferences as those
of the trails.

A place outside of the band may be on a cheapest way to one inside, so a cost beyond the limit can
be too high. It is never read off, since no way back from an allowed cost passes a higher one.
-/

namespace TextTable.Script.Banded

/-! ## Costs -/

/-- The lower of two costs, where `none` is higher than all. -/
def lower : Option Nat → Option Nat → Option Nat
  | some c, some d => some (min c d)
  | some c, none => some c
  | none, d => d

/-- The cost of a place for the old line `a` and the new line `b`, from the costs of the places
before both, before `a`, and before `b`. -/
def cost (a b : Text) (before above left : Option Nat) : Option Nat :=
  lower (lower (if a = b then before else before.map (· + 1)) (above.map (· + 1)))
    (left.map (· + 1))

/-! ## The table -/

/-- The row for no old line, from the place `j` on. -/
def firstRow (limit : Nat) : (j : Nat) → (new : List Text) → List (Option Nat)
  | j, [] => [if j ≤ limit then some j else none]
  | j, _ :: bs => (if j ≤ limit then some j else none) :: firstRow limit (j + 1) bs

/-- The places of the row `i` from the place `j` on, which is behind the first of the new lines. -/
def rowRest (limit i : Nat) (a : Text) : (j : Nat) → (before left : Option Nat) →
    List (Option Nat) → List Text → List (Option Nat)
  | j, before, left, above :: aboves, b :: bs =>
    let here := if i ≤ j + limit ∧ j ≤ i + limit then cost a b before above left else none
    here :: rowRest limit i a (j + 1) above here aboves bs
  | _, _, _, _, _ => []

/-- The row `i`, from the row above it. -/
def nextRow (limit i : Nat) (a : Text) (new : List Text) (row : List (Option Nat)) :
    List (Option Nat) :=
  match row with
  | [] => []
  | before :: aboves =>
    let first := if i ≤ limit then some i else none
    first :: rowRest limit i a 1 before first aboves new

/-- The cost is higher than the limit. -/
def exceeds (limit : Nat) (c : Option Nat) : Bool := c.all (limit < ·)

/-- The table with the row for one more old line, the last row first, unless all costs in that row
are too high. -/
def addRow? (limit : Nat) (new : List Text) (table : List (List (Option Nat))) (a : Text) :
    Option (List (List (Option Nat))) :=
  let row := nextRow limit table.length a new (table.headD [])
  if row.all (exceeds limit) then none else some (row :: table)

/-- All rows of the table, the last one first. -/
def table? (limit : Nat) (old new : List Text) : Option (List (List (Option Nat))) :=
  old.foldlM (addRow? limit new) [firstRow limit 0 new]

/-- The cost of the place `(i, j)` in a table that has the last row first. -/
def costAt (table : List (List (Option Nat))) (i j : Nat) : Option Nat :=
  (table.reverse[i]?.bind (·[j]?)).join

/-! ## The way back -/

/-- The steps from the first place to the one behind some old and new lines, the last step first.
Both lists begin with the line next to the place. -/
def back (costAt : Nat → Nat → Option Nat) : (old new : List Text) → List Step
  | [], [] => []
  | _ :: as, [] => .delete :: back costAt as []
  | [], b :: bs => .insert b :: back costAt [] bs
  | a :: as, b :: bs =>
    let here := costAt (as.length + 1) (bs.length + 1)
    if a = b ∧ costAt as.length bs.length = here then .keep :: back costAt as bs
    else if (costAt as.length bs.length).map (· + 1) = here then .replace b :: back costAt as bs
    else if (costAt as.length (bs.length + 1)).map (· + 1) = here then
      .delete :: back costAt as (b :: bs)
    else .insert b :: back costAt (a :: as) bs
termination_by old new => old.length + new.length

/-- A script of the fewest edits that turn `old` into `new`, if no more than `most` are needed. A
negative `most` sets no limit. -/
def shortest? (old new : List Text) (most : Int) : Option Script :=
  let all := old.length + new.length
  let limit := if most < 0 then all else min most.toNat all
  if old.length ≤ new.length + limit ∧ new.length ≤ old.length + limit then
    (table? limit old new).bind fun table =>
      if exceeds limit (costAt table old.length new.length) then none
      else some (ofSteps 0 (back (costAt table) old.reverse new.reverse).reverse)
  else none

end TextTable.Script.Banded
