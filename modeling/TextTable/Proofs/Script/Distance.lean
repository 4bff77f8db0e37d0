import TextTable.Proofs.Script.Reach

/-!
# How far two blocks are apart

The edit distance of two blocks is the number of lines that have to be put in, taken out or replaced
to turn one into the other. It is that of Levenshtein (`levenshtein`), and it can be told from the
first lines on. The best trail between two blocks costs as much (`cost_best`), and no script is
shorter (`levenshtein_le`). So the search finds a shortest script unless the distance is beyond its
limit, and it is the same script for all limits (`shortest?_eq`).
-/

namespace TextTable.Script

open Trail

/-! ## The edit distance -/

/-- The edit distance of two blocks: between equal first lines nothing is done, and otherwise the
first old line is replaced or taken out, or the first new one is put in. -/
def levenshtein : (old new : List Text) → Nat
  | [], bs => bs.length
  | a :: as, [] => (a :: as).length
  | a :: as, b :: bs =>
    if a = b then levenshtein as bs
    else min (min (levenshtein as bs) (levenshtein as (b :: bs))) (levenshtein (a :: as) bs) + 1
termination_by old new => old.length + new.length

/-- All lines have to be taken out. -/
@[simp]
theorem levenshtein_nil_right (lines : List Text) : levenshtein lines [] = lines.length := by
  cases lines with
  | nil => rw [levenshtein]
  | cons a lines => rw [levenshtein]

@[simp] theorem levenshtein_self (lines : List Text) : levenshtein lines lines = 0 := by
  induction lines with
  | nil =>
    rw [levenshtein]
    rfl
  | cons a lines ih => rw [levenshtein, if_pos rfl, ih]

/-- The distance is not more than the edits that reach the new lines. -/
theorem levenshtein_le {c k : Nat} {old new : List Text} (h : Reaches c k old new) :
    levenshtein old new ≤ c := by
  induction old, new using levenshtein.induct generalizing c k with
  | case1 bs =>
    have := h.length_le
    rw [levenshtein]
    rw [List.length_nil] at this
    omega
  | case2 a as =>
    have := h.length_le
    rw [levenshtein]
    rw [List.length_nil] at this
    omega
  | case3 as a bs ih =>
    rw [levenshtein, if_pos rfl]
    exact ih h.tail
  | case4 a as b bs hne ihreplace ihdelete ihinsert =>
    rw [levenshtein, if_neg hne]
    cases h with
    | keep => exact absurd rfl hne
    | replace _ _ h =>
      have := ihreplace h
      omega
    | delete _ h =>
      have := ihdelete h
      omega
    | insert _ h =>
      have := ihinsert h
      omega

@[simp] theorem cost_spend (step : Step) (t : Trail) : (t.spend step).cost = t.cost + 1 := rfl

/-- The cheaper of two trails is preferred. -/
@[simp] theorem cost_prefer (t u : Trail) : (prefer t u).cost = min t.cost u.cost := by
  rw [prefer]
  split <;> omega

/-- The best trail costs what the distance of its lines is. -/
@[simp] theorem cost_best (old new : List Text) : (best old new).cost = levenshtein old new := by
  induction old, new using best.induct with
  | case1 =>
    rw [best, levenshtein]
    rfl
  | case2 a as ih =>
    simp [best, ih]
  | case3 b bs ih =>
    simp [best, levenshtein, ih]
  | case4 as a bs ih =>
    rw [best, levenshtein, if_pos rfl, if_pos rfl, keep, ih]
  | case5 a as b bs hne ihbefore ihabove ihleft =>
    rw [best, levenshtein, if_neg hne, if_neg hne, cost_prefer, cost_prefer, cost_spend, cost_spend,
      cost_spend, ihbefore, ihabove, ihleft]
    omega

/-- Different lines at the start cost an edit, whichever way is best. -/
theorem levenshtein_of_ne {a b : Text} (hne : a ≠ b) (as bs : List Text) :
    levenshtein (a :: as) (b :: bs) =
      min (min (levenshtein as bs) (levenshtein as (b :: bs))) (levenshtein (a :: as) bs) + 1 := by
  rw [levenshtein, if_neg hne]

/-- Between unequal lines, the best trail replaces the line if that is part of some cheapest way;
otherwise it deletes the old line if that is, and otherwise it inserts the new one. -/
theorem best_of_ne {a b : Text} (hne : a ≠ b) (as bs : List Text) :
    best (a :: as) (b :: bs) =
      if levenshtein as bs + 1 = levenshtein (a :: as) (b :: bs) then
        (best as bs).spend (.replace b)
      else if levenshtein as (b :: bs) + 1 = levenshtein (a :: as) (b :: bs) then
        (best as (b :: bs)).spend .delete
      else (best (a :: as) bs).spend (.insert b) := by
  have hleast := levenshtein_of_ne hne as bs
  rw [best, if_neg hne, prefer, cost_prefer, prefer, cost_spend, cost_spend, cost_spend, cost_best,
    cost_best, cost_best]
  split
  · split
    · rw [if_pos (by omega)]
    · rw [if_neg (by omega), if_pos (by omega)]
  · rw [if_neg (by omega), if_neg (by omega)]

/-- The steps of the best trail cost what the trail costs. -/
@[simp] theorem stepsCost_best (old new : List Text) :
    stepsCost (best old new).steps = (best old new).cost := by
  have hkeep : ∀ {t : Trail}, stepsCost t.steps = t.cost →
      stepsCost t.keep.steps = t.keep.cost := by
    intro t h
    simp [keep, h, Step.cost]
  have hspend : ∀ {step : Step} {t : Trail}, step.cost = 1 → stepsCost t.steps = t.cost →
      stepsCost (t.spend step).steps = (t.spend step).cost := by
    intro step t hstep h
    simp [spend, h, hstep, Nat.add_comm]
  exact best_induction (P := fun _ _ t => stepsCost t.steps = t.cost) rfl (fun _ h => hkeep h)
    (fun _ _ h => hspend rfl h) (fun _ h => hspend rfl h) (fun _ h => hspend rfl h) old new

/-- The best trail is a way to reach the new lines at the cost of the distance. -/
theorem reaches_best (old new : List Text) :
    Reaches (levenshtein old new) (stepsShifts (best old new).steps) old new := by
  rw [← cost_best, ← stepsCost_best]
  exact (turns_best old new).reaches

/-- To replace the first line is one way, as it is to take it out or to put it in. -/
theorem levenshtein_replace_le (a b : Text) (as bs : List Text) :
    levenshtein (a :: as) (b :: bs) ≤ levenshtein as bs + 1 :=
  levenshtein_le ((reaches_best as bs).replace a b)

theorem levenshtein_delete_le (a : Text) (as new : List Text) :
    levenshtein (a :: as) new ≤ levenshtein as new + 1 :=
  levenshtein_le ((reaches_best as new).delete a)

theorem levenshtein_insert_le (b : Text) (old bs : List Text) :
    levenshtein old (b :: bs) ≤ levenshtein old bs + 1 :=
  levenshtein_le ((reaches_best old bs).insert b)

/-- The distance is the same from the last lines on, since what can be reached one way can be
reached the other way. -/
@[simp] theorem levenshtein_reverse (old new : List Text) :
    levenshtein old.reverse new.reverse = levenshtein old new := by
  have hle : ∀ old new, levenshtein old.reverse new.reverse ≤ levenshtein old new :=
    fun old new => levenshtein_le (reaches_best old new).reverse
  have := hle old.reverse new.reverse
  rw [List.reverse_reverse, List.reverse_reverse] at this
  exact Nat.le_antisymm (hle old new) this

/-- The distance is no more than all lines of both blocks. -/
theorem levenshtein_le_add (old new : List Text) :
    levenshtein old new ≤ old.length + new.length := levenshtein_le (.all old new)

/-! ## What the search finds -/

/-- The script that the search finds if there is no limit. -/
def shortest (old new : List Text) : Script :=
  ofSteps 0 (best old.reverse new.reverse).steps.reverse

/-- The shortest script is as long as the distance. -/
@[simp] theorem distance_shortest (old new : List Text) :
    (shortest old new).distance = levenshtein old new := by
  simp [shortest, distance_ofSteps]

/-- Whatever the limit is, the search finds the same script or none. -/
theorem shortest?_eq (old new : List Text) (most : Int) :
    shortest? old new most =
      if most < 0 ∨ levenshtein old new ≤ most then some (shortest old new) else none := by
  have hcost : (best old.reverse new.reverse).cost = levenshtein old new := by
    simp
  have hall := levenshtein_le_add old new
  rw [shortest?, bestTrail?_eq, bestWithin, within_some, hcost, apply_ite (Option.map _)]
  by_cases h : most < 0 ∨ (levenshtein old new : Int) ≤ most
  · rw [if_pos h, if_pos (by split <;> omega)]
    rfl
  · rw [if_neg h, if_neg (by split <;> omega)]
    rfl

/-- The search fails if and only if it has a limit and the edit distance of the blocks is beyond it.
A script that it finds has as many single-line edits as the distance is, and no script that turns
the old block into the new one has fewer. -/
theorem shortest?_least (old new : List Text) (most : Int) :
    (shortest? old new most = none ↔ 0 ≤ most ∧ most < levenshtein old new) ∧
      (∀ s, shortest? old new most = some s → s.distance = levenshtein old new) ∧
      ∀ s, outcome? old s = some new → levenshtein old new ≤ s.distance := by
  refine ⟨?_, fun s hs => ?_, fun s hs => levenshtein_le (reaches_of_outcome? hs)⟩
  · rw [shortest?_eq]
    split
    · exact iff_of_false (Option.some_ne_none _) (by omega)
    · exact iff_of_true rfl (by omega)
  · rw [shortest?_eq, Option.ite_none_right_eq_some] at hs
    obtain rfl := Option.some.inj hs.2
    exact distance_shortest old new

end TextTable.Script
