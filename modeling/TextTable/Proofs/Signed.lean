import Mathlib.Data.List.InsertIdx
import TextTable.Signed

/-!
# Signed positions inside a list

A position that counts from the start is an index (`get?_natCast`, `insert_natCast`,
`erase?_natCast`, `move?_natCast`). One that lies inside the middle part of a list leaves the parts
around it alone (`insert_middle`, `erase?_middle`, `replaceRange_middle`).
-/

namespace TextTable.Signed

variable {α : Type}

@[simp] theorem get?_natCast (xs : List α) (k : Nat) : get? xs k = xs[k]? := by
  rw [get?]
  by_cases h : k < xs.length
  · simp [h]
  · have hnone : index? xs.length (k : Int) = none := by
      have hk : ¬ (k : Int) < 0 := by omega
      rw [index?, if_neg hk]
      exact if_neg (by omega)
    rw [hnone, List.getElem?_eq_none (Nat.le_of_not_lt h)]
    rfl

/-- An index up to the length is where the element goes. -/
theorem insert_natCast {k : Nat} {xs : List α} (h : k ≤ xs.length) (x : α) :
    insert xs k x = xs.insertIdx k x := by
  rw [insert, gap_natCast h]
  induction k generalizing xs with
  | zero => rfl
  | succ k ih =>
    obtain ⟨y, ys, rfl⟩ := List.exists_cons_of_length_pos (Nat.zero_lt_of_lt h)
    rw [List.take_succ_cons, List.drop_succ_cons, List.cons_append, List.insertIdx_succ_cons,
      ih (Nat.le_of_succ_le_succ h)]

theorem erase?_natCast {xs : List α} {k : Nat} (h : k < xs.length) :
    erase? xs k = some (xs.eraseIdx k) := by
  simp [erase?, h]

/-- To move an element is to take it out and to put it in among the others. -/
theorem move?_natCast {xs : List α} {k l : Nat} (hk : k < xs.length) (hl : l < xs.length) :
    move? xs k l = some ((xs.eraseIdx k).insertIdx l xs[k]) := by
  have hl' : l ≤ (xs.eraseIdx k).length := by
    rw [List.length_eraseIdx_of_lt hk]
    omega
  simp [move?, List.getElem?_eq_getElem hk, erase?_natCast hk, insert_natCast hl']

section Middle

variable (above block below : List α)

/-- Putting in an element inside the middle part, or at its end. -/
theorem insert_middle {k : Nat} (h : k ≤ block.length) (x : α) :
    insert (above ++ block ++ below) ((above.length + k : Nat) : Int) x =
      above ++ (block.take k ++ x :: block.drop k) ++ below := by
  have hgap : above.length + k ≤ (above ++ block ++ below).length := by
    rw [List.length_append, List.length_append]
    omega
  rw [insert, gap_natCast hgap, List.append_assoc, List.take_length_add_append,
    List.drop_length_add_append, List.take_append_of_le_length h, List.drop_append_of_le_length h]
  simp only [List.append_assoc, List.cons_append]

/-- Taking out an element of the middle part. -/
theorem erase?_middle {k : Nat} (h : k < block.length) :
    erase? (above ++ block ++ below) ((above.length + k : Nat) : Int) =
      some (above ++ block.eraseIdx k ++ below) := by
  have hindex : above.length + k < (above ++ block ++ below).length := by
    rw [List.length_append, List.length_append]
    omega
  rw [erase?, index?_natCast hindex, Option.map_some, List.append_assoc,
    List.eraseIdx_append_of_length_le (Nat.le_add_right _ _), Nat.add_sub_cancel_left,
    List.eraseIdx_append_of_lt_length h, List.append_assoc]

/-- Replacing some elements of the middle part. -/
theorem replaceRange_middle {k n : Nat} (h : k + n ≤ block.length) (ys : List α) :
    replaceRange (above ++ block ++ below) ((above.length + k : Nat) : Int)
        ((above.length + (k + n) : Nat) : Int) ys =
      above ++ (block.take k ++ ys ++ block.drop (k + n)) ++ below := by
  have hstop : above.length + (k + n) ≤ (above ++ block ++ below).length := by
    rw [List.length_append, List.length_append]
    omega
  rw [replaceRange, gap_natCast hstop, gap_natCast (by omega), Nat.max_eq_right (by omega),
    List.append_assoc above, List.take_length_add_append, List.drop_length_add_append,
    List.take_append_of_le_length (by omega), List.drop_append_of_le_length h]
  simp only [List.append_assoc]

end Middle

end TextTable.Signed
