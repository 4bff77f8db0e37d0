import TextTable.Proofs.Script.Distance

/-!
# Which of the shortest scripts is found

Of all ways that cost no more than the distance, the search takes the one that comes first when ways
are compared from the last line to the first, and a line is rather kept than replaced, rather
replaced than deleted, and rather deleted than inserted before (`Precedes`, `best_precedes`). To
replace where it is possible now may cost replacements later on, and so may to delete where another
way inserts. Up to a distance of two there is no room for this (`stepsShifts_best_least`): the
script found then replaces the most lines that a shortest script can (`shortest?_preferred`). From
three on there are blocks where it does not (`shortest?_not_most_replaced`).
-/

namespace TextTable.Script

open Trail

/-! ## The first of the cheapest ways -/

/-- The place of a step in the order of preference. -/
def Step.rank : Step → Nat
  | .keep => 0
  | .replace _ => 1
  | .delete => 2
  | .insert _ => 3

/-- The first steps are the second ones, or come before them in the order of preference where both
part. -/
def Precedes (steps others : List Step) : Prop :=
  steps = others ∨ List.Lex (fun s t => s.rank < t.rank) steps others

/-- Ways that begin with the same step are compared by the next ones. -/
theorem Precedes.cons (step : Step) {steps others : List Step} (h : Precedes steps others) :
    Precedes (step :: steps) (step :: others) := by
  rcases h with rfl | h
  · exact .inl rfl
  · exact .inr (.cons h)

theorem precedes_of_rank {step other : Step} (h : step.rank < other.rank)
    {steps others : List Step} : Precedes (step :: steps) (other :: others) := .inr (.rel h)

/-- No way between two blocks costs less than their distance. -/
theorem levenshtein_le_stepsCost {steps : List Step} {old new : List Text}
    (h : Turns steps old new) : levenshtein old new ≤ stepsCost steps := levenshtein_le h.reaches

/-- The best trail precedes all ways of the same cost. -/
theorem best_precedes {steps : List Step} {old new : List Text} (h : Turns steps old new)
    (hcost : stepsCost steps = levenshtein old new) : Precedes (best old new).steps steps := by
  -- by induction on the other way; what is left of it is cheapest between the lines that are left
  induction h with
  | done =>
    rw [best]
    exact .inl rfl
  | @keep steps as bs a h ih =>
    rw [stepsCost_cons, Step.cost, levenshtein, if_pos rfl, Nat.zero_add] at hcost
    rw [best, if_pos rfl]
    exact (ih hcost).cons .keep
  | @replace steps as bs a b h ih =>
    have hle := levenshtein_le_stepsCost h
    rw [stepsCost_cons, Step.cost] at hcost
    by_cases hab : a = b
    · rw [levenshtein, if_pos hab] at hcost
      omega
    · have hupper := levenshtein_replace_le a b as bs
      rw [best_of_ne hab, if_pos (by omega)]
      exact (ih (by omega)).cons (.replace b)
  | @delete steps as bs a h ih =>
    have hle := levenshtein_le_stepsCost h
    have hupper := levenshtein_delete_le a as bs
    rw [stepsCost_cons, Step.cost] at hcost
    cases bs with
    | nil =>
      rw [best]
      exact (ih (by omega)).cons .delete
    | cons b bs =>
      by_cases hab : a = b
      · rw [best, if_pos hab]
        exact precedes_of_rank (by simp only [Step.rank]; omega)
      · rw [best_of_ne hab]
        split
        · exact precedes_of_rank (by simp only [Step.rank]; omega)
        · rw [if_pos (by omega)]
          exact (ih (by omega)).cons .delete
  | @insert steps as bs b h ih =>
    have hle := levenshtein_le_stepsCost h
    have hupper := levenshtein_insert_le b as bs
    rw [stepsCost_cons, Step.cost] at hcost
    cases as with
    | nil =>
      rw [best]
      exact (ih (by omega)).cons (.insert b)
    | cons a as =>
      by_cases hab : a = b
      · rw [best, if_pos hab]
        exact precedes_of_rank (by simp only [Step.rank]; omega)
      · rw [best_of_ne hab]
        split
        · exact precedes_of_rank (by simp only [Step.rank]; omega)
        · split
          · exact precedes_of_rank (by simp only [Step.rank]; omega)
          · exact (ih (by omega)).cons (.insert b)

/-! ## The number of replacements -/

/-- Each step that shifts rows costs an edit. -/
theorem stepsShifts_le_stepsCost (steps : List Step) : stepsShifts steps ≤ stepsCost steps := by
  induction steps with
  | nil => exact Nat.le_refl _
  | cons step steps ih =>
    rw [stepsShifts_cons, stepsCost_cons]
    cases step <;> simp only [Step.shifts, Step.cost] <;> omega

/-- The best trail does not shift rows more often than it has edits. -/
theorem stepsShifts_best_le (old new : List Text) :
    stepsShifts (best old new).steps ≤ levenshtein old new := by
  rw [← cost_best, ← stepsCost_best]
  exact stepsShifts_le_stepsCost _

/-- Between blocks that are no more than two edits apart, the best trail shifts rows the fewest
times. -/
theorem stepsShifts_best_least {c k : Nat} {old new : List Text} (hnear : c ≤ 2)
    (hc : c = levenshtein old new) (h : Reaches c k old new) :
    stepsShifts (best old new).steps ≤ k := by
  induction old, new using best.induct generalizing c k with
  | case1 =>
    rw [best]
    exact Nat.zero_le k
  | case2 a as ih =>
    cases h with
    | delete _ h =>
      have hle := levenshtein_le h
      have hupper := levenshtein_delete_le a as []
      rw [best, spend, stepsShifts_cons, Step.shifts]
      have := ih (by omega) (by omega) h
      omega
  | case3 b bs ih =>
    cases h with
    | insert _ h =>
      have hle := levenshtein_le h
      have hupper := levenshtein_insert_le b [] bs
      rw [best, spend, stepsShifts_cons, Step.shifts]
      have := ih (by omega) (by omega) h
      omega
  | case4 as a bs ih =>
    rw [levenshtein, if_pos rfl] at hc
    rw [best, if_pos rfl, keep, stepsShifts_cons, Step.shifts, Nat.zero_add]
    exact ih hnear hc h.tail
  | case5 a as b bs hne ihbefore ihabove ihleft =>
    have hreplace := levenshtein_replace_le a b as bs
    have hdelete := levenshtein_delete_le a as (b :: bs)
    have hinsert := levenshtein_insert_le b (a :: as) bs
    rw [best_of_ne hne]
    split
    · -- the line is replaced, and at most one edit is left
      have hshifts := stepsShifts_best_le as bs
      rw [spend, stepsShifts_cons, Step.shifts]
      cases h with
      | keep => exact absurd rfl hne
      | replace _ _ h =>
        have := ihbefore (by omega) (by omega) h
        omega
      | delete _ h => omega
      | insert _ h => omega
    · split
      · have hshifts := stepsShifts_best_le as (b :: bs)
        rw [spend, stepsShifts_cons, Step.shifts]
        cases h with
        | keep => exact absurd rfl hne
        | replace _ _ h =>
          have := levenshtein_le h
          omega
        | delete _ h =>
          have := ihabove (by omega) (by omega) h
          omega
        | insert _ h =>
          -- one edit is too few to shift rows both here and, the other way round, later
          have hlen := h.length_le
          have hlen' := (reaches_best as (b :: bs)).length_le
          rw [List.length_cons] at hlen hlen'
          omega
      · rw [spend, stepsShifts_cons, Step.shifts]
        cases h with
        | keep => exact absurd rfl hne
        | replace _ _ h =>
          have := levenshtein_le h
          omega
        | delete _ h =>
          have := levenshtein_le h
          omega
        | insert _ h =>
          have hle := levenshtein_le h
          have := ihleft (by omega) (by omega) h
          omega

/-! ## Shortest scripts -/

/-- The script that is found shifts rows where its trail does. -/
theorem shifts_shortest (old new : List Text) :
    (shortest old new).shifts = stepsShifts (best old.reverse new.reverse).steps := by
  simp [shortest, shifts_ofSteps]

/-- A script that the search finds is made from a cheapest way. From the last line to the first,
this way precedes all ways of the same cost. If the script has no more than two single-line edits,
then no other script with as many edits that turns the old block into the new one replaces more
lines. -/
theorem shortest?_preferred {old new : List Text} {most : Int} {s : Script}
    (h : shortest? old new most = some s) :
    (∃ steps, Turns steps old new ∧ s = ofSteps 0 steps ∧ stepsCost steps = s.distance ∧
        ∀ others, Turns others old new → stepsCost others = s.distance →
          Precedes steps.reverse others.reverse) ∧
      (s.distance ≤ 2 → ∀ other, outcome? old other = some new → other.distance = s.distance →
        other.replaced ≤ s.replaced) := by
  rw [shortest?_eq, Option.ite_none_right_eq_some] at h
  obtain rfl := Option.some.inj h.2
  rw [distance_shortest, ← levenshtein_reverse]
  constructor
  · refine ⟨(best old.reverse new.reverse).steps.reverse, ?_, rfl, ?_, ?_⟩
    · have := (turns_best old.reverse new.reverse).reverse
      rwa [List.reverse_reverse, List.reverse_reverse] at this
    · simp
    · intro others hothers hcost
      rw [List.reverse_reverse]
      exact best_precedes hothers.reverse (by rw [stepsCost_reverse, hcost])
  · intro hnear other hother hdistance
    have hreaches := (reaches_of_outcome? hother).reverse
    rw [hdistance] at hreaches
    have hshifts := stepsShifts_best_least hnear rfl hreaches
    rw [← shifts_shortest] at hshifts
    have heq := distance_eq other
    have heq' := distance_eq (shortest old new)
    rw [distance_shortest, ← levenshtein_reverse] at heq'
    omega

/-- Two lines that change places are both replaced, although it costs the same to take out the first
one and put it in again behind the other. -/
theorem shortest?_preferred_swapped :
    let s : Script := [.replace 0 [['b'], ['a']]]
    shortest? [['a'], ['b']] [['b'], ['a']] (-1) = some s ∧
      (∃ steps, Turns steps [['a'], ['b']] [['b'], ['a']] ∧ s = ofSteps 0 steps ∧
        stepsCost steps = s.distance ∧
        ∀ others, Turns others [['a'], ['b']] [['b'], ['a']] → stepsCost others = s.distance →
          Precedes steps.reverse others.reverse) ∧
      ∀ other, outcome? [['a'], ['b']] other = some [['b'], ['a']] →
        other.distance = s.distance → other.replaced ≤ s.replaced := by
  intro s
  have hscript : shortest? [['a'], ['b']] [['b'], ['a']] (-1) = some s := by decide
  obtain ⟨hfirst, hmost⟩ := shortest?_preferred hscript
  exact ⟨hscript, hfirst, hmost (by decide)⟩

/-- Three edits apart, a script replaces two lines and the one that is found replaces none. Deleting
the last line is preferred to inserting one before it, and so all lines keep or shift. -/
theorem shortest?_not_most_replaced :
    let old : List Text := [['a'], ['b'], ['a']]
    let new : List Text := [['x'], ['y'], ['a'], ['b']]
    let s : Script := [.insert 0 ['x'], .insert 1 ['y'], .delete 4]
    let other : Script := [.replace 0 [['x'], ['y']], .insert 3 ['b']]
    shortest? old new (-1) = some s ∧ outcome? old other = some new ∧
      other.distance = s.distance ∧ s.replaced < other.replaced := by
  decide

end TextTable.Script
