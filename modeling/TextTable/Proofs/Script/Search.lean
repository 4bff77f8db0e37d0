import TextTable.Script.Shortest

/-!
# What the search finds

The search for a shortest script is read as a search for a way to turn one block into another. A
list of steps *turns* the old lines into the new ones when it goes through both of them to the end
(`Turns`).

Without a limit, the trail that the search prefers at a place can be told from the old lines above
the place and the new lines before it. This is the `best` trail, and it turns these lines into each
other (`turns_best`). With a limit, each place of the grid holds its best trail if the limit allows
its cost, and nothing otherwise (`place_eq`, `bestTrail?_eq`). So a limit takes answers away and
changes none.
-/

namespace TextTable.Script

open Trail

/-! ## Steps that turn lines into others -/

/-- The steps, the first one first, turn the first lines into the second ones. -/
inductive Turns : List Step → List Text → List Text → Prop
  | done : Turns [] [] []
  | keep {steps : List Step} {old new : List Text} (a : Text) :
      Turns steps old new → Turns (.keep :: steps) (a :: old) (a :: new)
  | replace {steps : List Step} {old new : List Text} (a b : Text) :
      Turns steps old new → Turns (.replace b :: steps) (a :: old) (b :: new)
  | delete {steps : List Step} {old new : List Text} (a : Text) :
      Turns steps old new → Turns (.delete :: steps) (a :: old) new
  | insert {steps : List Step} {old new : List Text} (b : Text) :
      Turns steps old new → Turns (.insert b :: steps) old (b :: new)

namespace Turns

variable {steps more : List Step} {old new old' new' : List Text}

/-- One way after another. -/
theorem append (h : Turns steps old new) (h' : Turns more old' new') :
    Turns (steps ++ more) (old ++ old') (new ++ new') := by
  induction h with
  | done => exact h'
  | keep a _ ih => exact .keep a ih
  | replace a b _ ih => exact .replace a b ih
  | delete a _ ih => exact .delete a ih
  | insert b _ ih => exact .insert b ih

/-- A way can be gone from its end to its beginning. -/
theorem reverse (h : Turns steps old new) : Turns steps.reverse old.reverse new.reverse := by
  induction h with
  | done => exact .done
  | keep a _ ih =>
    rw [List.reverse_cons, List.reverse_cons, List.reverse_cons]
    exact ih.append (.keep a .done)
  | replace a b _ ih =>
    rw [List.reverse_cons, List.reverse_cons, List.reverse_cons]
    exact ih.append (.replace a b .done)
  | delete a _ ih =>
    have := ih.append (.delete a .done)
    rw [List.append_nil] at this
    rwa [List.reverse_cons, List.reverse_cons]
  | insert b _ ih =>
    have := ih.append (.insert b .done)
    rw [List.append_nil] at this
    rwa [List.reverse_cons, List.reverse_cons]

end Turns

/-! ## Best trails -/

/-- The first of two trails, unless the second one is cheaper. -/
def Trail.prefer (t u : Trail) : Trail := if t.cost ≤ u.cost then t else u

/-- The trail that the search prefers, if there is no limit, at the place behind some old and some
new lines. Both lists begin with the line next to the place. -/
def best : (old new : List Text) → Trail
  | [], [] => start
  | _ :: as, [] => (best as []).spend .delete
  | [], b :: bs => (best [] bs).spend (.insert b)
  | a :: as, b :: bs =>
    if a = b then (best as bs).keep
    else prefer (prefer ((best as bs).spend (.replace b)) ((best as (b :: bs)).spend .delete))
      ((best (a :: as) bs).spend (.insert b))
termination_by old new => old.length + new.length

/-- What holds of all trails that are made step by step holds of the best ones. -/
theorem best_induction {P : (old new : List Text) → Trail → Prop} (hstart : P [] [] start)
    (hkeep : ∀ {as bs t} a, P as bs t → P (a :: as) (a :: bs) t.keep)
    (hreplace : ∀ {as bs t} a b, P as bs t → P (a :: as) (b :: bs) (t.spend (.replace b)))
    (hdelete : ∀ {as bs t} a, P as bs t → P (a :: as) bs (t.spend .delete))
    (hinsert : ∀ {as bs t} b, P as bs t → P as (b :: bs) (t.spend (.insert b)))
    (old new : List Text) : P old new (best old new) := by
  have hprefer : ∀ {t u : Trail} {as bs : List Text}, P as bs t → P as bs u →
      P as bs (prefer t u) := by
    intro t u as bs ht hu
    rw [prefer]
    split
    · exact ht
    · exact hu
  induction old, new using best.induct with
  | case1 =>
    rw [best]
    exact hstart
  | case2 a as ih =>
    rw [best]
    exact hdelete a ih
  | case3 b bs ih =>
    rw [best]
    exact hinsert b ih
  | case4 as a bs ih =>
    rw [best, if_pos rfl]
    exact hkeep a ih
  | case5 a as b bs hne ihbefore ihabove ihleft =>
    rw [best, if_neg hne]
    exact hprefer (hprefer (hreplace a b ihbefore) (hdelete a ihabove)) (hinsert b ihleft)

/-- The best trail turns the lines into each other, from the last ones to the first. -/
theorem turns_best (old new : List Text) : Turns (best old new).steps old new :=
  best_induction (P := fun as bs t => Turns t.steps as bs) .done .keep .replace .delete .insert
    old new

/-! ## Limits -/

section Limits

variable {limit : Nat} {t u : Option Trail}

@[simp] theorem within_some (limit : Nat) (t : Trail) :
    within limit (some t) = if t.cost ≤ limit then some t else none := by
  rw [within, Option.filter_some]
  simp only [decide_eq_true_eq]

/-- To keep a line costs nothing, so it can be done before the limit is asked or after. -/
theorem map_keep_within (limit : Nat) (t : Option Trail) :
    (within limit t).map keep = within limit (t.map keep) := by
  cases t with
  | none => rfl
  | some t =>
    rw [Option.map_some, within_some, within_some]
    exact apply_ite (Option.map keep) _ _ _

/-- What is too dear before a step is too dear after it. -/
theorem within_spend (limit : Nat) (step : Step) (t : Option Trail) :
    within limit ((within limit t).map (spend step)) = within limit (t.map (spend step)) := by
  cases t with
  | none => rfl
  | some t =>
    rw [within_some]
    split
    · rfl
    · next h =>
      rw [Option.map_none, Option.map_some, within_some, if_neg]
      · rfl
      · exact fun hle => h (Nat.le_of_succ_le hle)

@[simp] theorem cheaper_some (t u : Trail) : cheaper (some t) (some u) = some (prefer t u) := by
  rw [cheaper, prefer]
  split
  · rfl
  · rfl

/-- Of two trails, the limit leaves the cheaper one of those that it leaves. -/
theorem within_cheaper (limit : Nat) (t u : Option Trail) :
    within limit (cheaper t u) = cheaper (within limit t) (within limit u) := by
  rcases t with _ | t <;> rcases u with _ | u
  · rfl
  · rfl
  · rw [cheaper]
    cases within limit (some t) <;> rfl
  · rw [cheaper_some, within_some, within_some, within_some, prefer]
    by_cases ht : t.cost ≤ limit <;> by_cases hu : u.cost ≤ limit
    · rw [if_pos ht, if_pos hu, cheaper_some, prefer, if_pos]
      split
      · exact ht
      · exact hu
    · rw [if_pos ht, if_neg hu, if_pos (by omega : t.cost ≤ u.cost), if_pos ht]
      rfl
    · rw [if_neg ht, if_pos hu, if_neg (by omega : ¬ t.cost ≤ u.cost), if_pos hu]
      rfl
    · rw [if_neg ht, if_neg hu, if_neg]
      · rfl
      · split
        · exact ht
        · exact hu

end Limits

/-! ## Rows of the grid -/

/-- The best trail of a place, if the limit allows it. -/
def bestWithin (limit : Nat) (old new : List Text) : Option Trail :=
  within limit (some (best old new))

/-- A place holds its best trail when the three places before it do. -/
theorem place_eq (limit : Nat) (a b : Text) (as bs : List Text) :
    place limit a b (bestWithin limit as bs) (bestWithin limit as (b :: bs))
      (bestWithin limit (a :: as) bs) = bestWithin limit (a :: as) (b :: bs) := by
  rw [place, bestWithin, bestWithin, bestWithin, bestWithin, best]
  split
  · exact map_keep_within limit _
  · rw [within_cheaper, within_cheaper, within_spend, within_spend, within_spend,
      ← within_cheaper, ← within_cheaper, Option.map_some, Option.map_some, Option.map_some,
      cheaper_some, cheaper_some]

/-- The best trails of a row below the lines `old`, from the place behind the new lines `before` to
the place behind `rest`. -/
def bestRow (limit : Nat) (old : List Text) : (before rest : List Text) → List (Option Trail)
  | before, [] => [bestWithin limit old before]
  | before, b :: rest => bestWithin limit old before :: bestRow limit old (b :: before) rest

theorem bestRow_eq_cons (limit : Nat) (old before rest : List Text) :
    bestRow limit old before rest =
      bestWithin limit old before :: (bestRow limit old before rest).tail := by
  cases rest with
  | nil => rfl
  | cons b rest => rfl

/-- The last place of a row is the one behind all the new lines. -/
theorem getLast?_bestRow (limit : Nat) (old : List Text) {rest : List Text} :
    ∀ before, (bestRow limit old before rest).getLast? =
      some (bestWithin limit old (rest.reverse ++ before)) := by
  induction rest with
  | nil => exact fun before => rfl
  | cons b rest ih =>
    intro before
    rw [bestRow, bestRow_eq_cons, List.getLast?_cons_cons, ← bestRow_eq_cons, ih,
      List.reverse_cons, List.append_assoc, List.singleton_append]

theorem firstRow_eq (limit : Nat) {rest : List Text} :
    ∀ before, firstRow limit (bestWithin limit [] before) rest = bestRow limit [] before rest := by
  induction rest with
  | nil => exact fun before => rfl
  | cons b rest ih =>
    intro before
    have hnext : within limit ((bestWithin limit [] before).map (spend (.insert b))) =
        bestWithin limit [] (b :: before) := by
      rw [bestWithin, within_spend, bestWithin, best]
      rfl
    rw [firstRow, bestRow, hnext, ih]

/-- A row is filled with best trails when the row above is. -/
theorem rowRest_eq (limit : Nat) (a : Text) (old : List Text) {rest : List Text} :
    ∀ before, bestWithin limit (a :: old) before ::
      rowRest limit a (bestWithin limit old before) (bestWithin limit (a :: old) before)
        (bestRow limit old before rest).tail rest = bestRow limit (a :: old) before rest := by
  -- by induction on the new lines; the place that was just filled is to the left of the next one
  induction rest with
  | nil => exact fun before => rfl
  | cons b rest ih =>
    intro before
    rw [bestRow, bestRow, List.tail_cons, bestRow_eq_cons limit old, rowRest, place_eq, ih]

/-- From a row of best trails comes another one. -/
theorem nextRow_eq (limit : Nat) (a : Text) (old new : List Text) :
    nextRow limit new (bestRow limit old [] new) a = bestRow limit (a :: old) [] new := by
  have hfirst : within limit ((bestWithin limit old []).map (spend .delete)) =
      bestWithin limit (a :: old) [] := by
    rw [bestWithin, within_spend, bestWithin, best]
    rfl
  rw [bestRow_eq_cons, nextRow, hfirst, rowRest_eq]

/-- All rows are rows of best trails. -/
theorem foldl_nextRow_eq (limit : Nat) (new : List Text) {rest : List Text} :
    ∀ old, rest.foldl (nextRow limit new) (bestRow limit old [] new) =
      bestRow limit (rest.reverse ++ old) [] new := by
  induction rest with
  | nil => exact fun old => rfl
  | cons a rest ih =>
    intro old
    rw [List.foldl_cons, nextRow_eq, ih, List.reverse_cons, List.append_assoc,
      List.singleton_append]

/-! ## The answer -/

/-- The search finds the best trail through all lines, if the limit allows it. -/
theorem bestTrail?_eq (limit : Nat) (old new : List Text) :
    bestTrail? limit old new = bestWithin limit old.reverse new.reverse := by
  have hstart : some start = bestWithin limit [] [] := by
    have hfree : start.cost ≤ limit := Nat.zero_le limit
    simp [bestWithin, best, hfree]
  rw [bestTrail?, hstart, firstRow_eq, foldl_nextRow_eq, getLast?_bestRow, List.append_nil,
    List.append_nil]
  rfl

/-- The trail that the search finds turns the old lines into the new ones. -/
theorem turns_bestTrail? {limit : Nat} {old new : List Text} {t : Trail}
    (h : bestTrail? limit old new = some t) : Turns t.steps.reverse old new := by
  rw [bestTrail?_eq, bestWithin, within_some, Option.ite_none_right_eq_some] at h
  obtain rfl := Option.some.inj h.2
  have := (turns_best old.reverse new.reverse).reverse
  rwa [List.reverse_reverse, List.reverse_reverse] at this

/-- The trail that keeps `n` lines. -/
def kept (n : Nat) : Trail := ⟨0, List.replicate n .keep⟩

theorem best_self (lines : List Text) : best lines lines = kept lines.length := by
  induction lines with
  | nil => rw [best]; rfl
  | cons a lines ih =>
    rw [best, if_pos rfl, ih]
    rfl

/-- Between equal blocks the search keeps every line. -/
theorem bestTrail?_self (limit : Nat) (lines : List Text) :
    bestTrail? limit lines lines = some (kept lines.length) := by
  have hfree : (kept lines.length).cost ≤ limit := Nat.zero_le limit
  simp [bestTrail?_eq, bestWithin, best_self, hfree]

end TextTable.Script
