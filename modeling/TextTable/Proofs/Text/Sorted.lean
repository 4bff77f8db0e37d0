import Mathlib.Data.Char
import Mathlib.Data.List.Lex
import TextTable.Text.Sorted

/-!
# Sets of texts are increasing

A list that was made a set is in increasing order (`sortedSet_increasing`), since each text is
inserted before the first one that is greater. An increasing list is the set that it stands for
already, so that making a set of it leaves it as it is (`sortedSet_of_increasing`).
-/

namespace TextTable.Text

variable {t u : Text} {ts : List Text}

/-! ## Inserting -/

/-- A text that is there already is not inserted twice. -/
theorem mem_insertSorted : u ∈ insertSorted t ts ↔ u = t ∨ u ∈ ts := by
  induction ts with
  | nil => simp [insertSorted]
  | cons v rest ih =>
    rw [insertSorted]
    split
    · exact List.mem_cons
    · split
      · next heq =>
        subst heq
        simp
      · rw [List.mem_cons, ih, List.mem_cons]
        exact or_left_comm

/-- Inserting keeps the order. -/
theorem insertSorted_increasing (t : Text) (h : ts.Pairwise (· < ·)) :
    (insertSorted t ts).Pairwise (· < ·) := by
  induction ts with
  | nil => exact List.pairwise_singleton _ _
  | cons v rest ih =>
    obtain ⟨hhead, hrest⟩ := List.pairwise_cons.mp h
    rw [insertSorted]
    split
    · next hlt =>
      refine List.pairwise_cons.mpr ⟨fun u hu => ?_, h⟩
      rcases List.mem_cons.mp hu with rfl | hu
      · exact hlt
      · exact lt_trans hlt (hhead u hu)
    · next hnlt =>
      split
      · exact h
      · next hne =>
        have hgt : v < t := lt_of_le_of_ne (not_lt.mp hnlt) (Ne.symm hne)
        refine List.pairwise_cons.mpr ⟨fun u hu => ?_, ih hrest⟩
        rcases mem_insertSorted.mp hu with rfl | hu
        · exact hgt
        · exact hhead u hu

/-- A text before all others is inserted at the front. -/
theorem insertSorted_of_lt (h : ∀ u ∈ ts, t < u) : insertSorted t ts = t :: ts := by
  cases ts with
  | nil => rfl
  | cons v rest => rw [insertSorted, if_pos (h v List.mem_cons_self)]

/-! ## Sets -/

/-- Any list becomes an increasing one. -/
theorem sortedSet_increasing (ts : List Text) : (sortedSet ts).Pairwise (· < ·) := by
  induction ts with
  | nil => exact List.Pairwise.nil
  | cons t rest ih => exact insertSorted_increasing t ih

/-- An increasing list is a set already. -/
theorem sortedSet_of_increasing (h : ts.Pairwise (· < ·)) : sortedSet ts = ts := by
  induction ts with
  | nil => rfl
  | cons t rest ih =>
    obtain ⟨hhead, hrest⟩ := List.pairwise_cons.mp h
    change insertSorted t (sortedSet rest) = t :: rest
    rw [ih hrest, insertSorted_of_lt hhead]

end TextTable.Text
