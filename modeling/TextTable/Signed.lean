/-!
# Signed positions in a list

Rows and columns that come from outside may be negative, and then count from the end of the list:
`-1` is its last element. Reading, replacing or removing needs a position that exists; inserting and
cutting move a position that lies outside to the nearer end of the list.
-/

namespace TextTable.Signed

variable {α : Type}

/-- The index that a position names in a list of `n` elements, if there is one. -/
def index? (n : Nat) (i : Int) : Option Nat :=
  let j := if i < 0 then i + n else i
  if 0 ≤ j ∧ j < n then some j.toNat else none

/-- The gap between elements that a position names in a list of `n` elements. -/
def gap (n : Nat) (i : Int) : Nat :=
  let j := if i < 0 then i + n else i
  min j.toNat n

/-- A position that counts from the start is an index, if there is an element. -/
@[simp] theorem index?_natCast {n k : Nat} (h : k < n) : index? n k = some k := by
  have hk : ¬ (k : Int) < 0 := by omega
  simp [index?, hk, h]

theorem gap_le (n : Nat) (i : Int) : gap n i ≤ n := Nat.min_le_right _ _

/-- A position that counts from the start is a gap, up to the one at the end. -/
@[simp] theorem gap_natCast {n k : Nat} (h : k ≤ n) : gap n k = k := by
  have hk : ¬ (k : Int) < 0 := by omega
  simp [gap, hk, h]

/-- The element at a position. -/
def get? (xs : List α) (i : Int) : Option α := (index? xs.length i).bind (xs[·]?)

/-- The list with the element at a position replaced. -/
def set? (xs : List α) (i : Int) (x : α) : Option (List α) :=
  (index? xs.length i).map (xs.set · x)

/-- The list without the element at a position. -/
def erase? (xs : List α) (i : Int) : Option (List α) :=
  (index? xs.length i).map xs.eraseIdx

/-- The list with one more element, put before the position. -/
def insert (xs : List α) (i : Int) (x : α) : List α :=
  xs.take (gap xs.length i) ++ x :: xs.drop (gap xs.length i)

@[simp] theorem length_insert (xs : List α) (i : Int) (x : α) :
    (insert xs i x).length = xs.length + 1 := by
  have := gap_le xs.length i
  simp only [insert, List.length_append, List.length_take, List.length_cons, List.length_drop]
  omega

/-- The list with the element at one position moved to another position of the remaining list. -/
def move? (xs : List α) (source target : Int) : Option (List α) :=
  (get? xs source).bind fun x => (erase? xs source).map fun rest => insert rest target x

/-- The list with the elements from `start` up to `stop` replaced; when `stop` lies before `start`,
nothing is removed and the new elements go in at `start`. -/
def replaceRange (xs : List α) (start stop : Int) (ys : List α) : List α :=
  xs.take (gap xs.length start) ++ ys
    ++ xs.drop (max (gap xs.length start) (gap xs.length stop))

end TextTable.Signed
