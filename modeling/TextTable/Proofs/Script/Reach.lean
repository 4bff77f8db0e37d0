import TextTable.Proofs.Script.Outcome

/-!
# What a number of edits reaches

A script may edit a line twice, put in a line and take it out again, and jump between rows. None of
this pays. What a script makes of a block is *reached* (`Reaches`) as well by going through the
lines once, with no more edits, and with no more of those that put in or take out a line and so
*shift* the rows below (`reaches_of_outcome?`). One pass after another is one pass again
(`Reaches.trans`), so this has to be seen for single edits only (`reaches_of_edit`).
-/

namespace TextTable

/-! ## Counting edits -/

namespace LineEdit

/-- The number of lines that an edit replaces. -/
def replaced : LineEdit → Nat
  | .insert _ _ => 0
  | .delete _ => 0
  | .replace _ lines => lines.length

/-- The number of times that an edit shifts the rows below. -/
def shifts : LineEdit → Nat
  | .insert _ _ => 1
  | .delete _ => 1
  | .replace _ _ => 0

end LineEdit

namespace Script

open Trail

/-- The number of lines that a script replaces. -/
def replaced : Script → Nat
  | [] => 0
  | edit :: rest => edit.replaced + replaced rest

/-- The number of times that a script shifts rows. -/
def shifts : Script → Nat
  | [] => 0
  | edit :: rest => edit.shifts + shifts rest

/-- Every single-line edit replaces a line or shifts rows. -/
theorem distance_eq (s : Script) : s.distance = s.replaced + s.shifts := by
  induction s with
  | nil => rfl
  | cons edit rest ih =>
    rw [distance, replaced, shifts, ih]
    cases edit <;> simp only [LineEdit.distance, LineEdit.replaced, LineEdit.shifts] <;> omega

namespace Step

/-- What a step costs. -/
def cost : Step → Nat
  | .keep => 0
  | .replace _ => 1
  | .delete => 1
  | .insert _ => 1

/-- The number of times that a step shifts rows. -/
def shifts : Step → Nat
  | .keep => 0
  | .replace _ => 0
  | .delete => 1
  | .insert _ => 1

end Step

/-- What is counted of steps, in all. -/
def total (count : Step → Nat) : List Step → Nat
  | [] => 0
  | step :: steps => count step + total count steps

theorem total_append (count : Step → Nat) (steps more : List Step) :
    total count (steps ++ more) = total count steps + total count more := by
  induction steps with
  | nil => exact (Nat.zero_add _).symm
  | cons step steps ih => rw [List.cons_append, total, total, ih, Nat.add_assoc]

theorem total_reverse (count : Step → Nat) (steps : List Step) :
    total count steps.reverse = total count steps := by
  induction steps with
  | nil => rfl
  | cons step steps ih =>
    rw [List.reverse_cons, total_append, ih, total, total, total, Nat.add_zero, Nat.add_comm]

/-- What steps cost together. -/
def stepsCost (steps : List Step) : Nat := total Step.cost steps

/-- The number of times that steps shift rows. -/
def stepsShifts (steps : List Step) : Nat := total Step.shifts steps

@[simp] theorem stepsCost_cons (step : Step) (steps : List Step) :
    stepsCost (step :: steps) = step.cost + stepsCost steps := rfl

@[simp] theorem stepsShifts_cons (step : Step) (steps : List Step) :
    stepsShifts (step :: steps) = step.shifts + stepsShifts steps := rfl

/-- The order of steps does not matter for what they cost. -/
@[simp] theorem stepsCost_reverse (steps : List Step) : stepsCost steps.reverse = stepsCost steps :=
  total_reverse Step.cost steps

@[simp] theorem stepsShifts_reverse (steps : List Step) :
    stepsShifts steps.reverse = stepsShifts steps := total_reverse Step.shifts steps

/-- A line that joins the replacement behind it is replaced all the same. -/
@[simp] theorem distance_consReplace (row : Nat) (line : Text) (s : Script) :
    distance (consReplace row line s) = distance s + 1 := by
  rcases consReplace_cases row line s with h | ⟨lines, rest, rfl, h⟩
  · rw [h, distance, LineEdit.distance, List.length_singleton, Nat.add_comm]
  · rw [h, distance, distance, LineEdit.distance, LineEdit.distance, List.length_cons,
      Nat.add_right_comm]

@[simp] theorem shifts_consReplace (row : Nat) (line : Text) (s : Script) :
    shifts (consReplace row line s) = shifts s := by
  rcases consReplace_cases row line s with h | ⟨lines, rest, rfl, h⟩
  · rw [h, shifts, LineEdit.shifts, Nat.zero_add]
  · rw [h, shifts, shifts]
    rfl

/-- The edits made from steps cost what the steps cost. -/
theorem distance_ofSteps {steps : List Step} :
    ∀ row, distance (ofSteps row steps) = stepsCost steps := by
  induction steps with
  | nil => exact fun row => rfl
  | cons step steps ih =>
    intro row
    rw [stepsCost_cons]
    cases step with
    | keep => rw [ofSteps, ih, Step.cost, Nat.zero_add]
    | replace line => simp [ofSteps, ih, Step.cost, Nat.add_comm]
    | delete => rw [ofSteps, distance, ih]; rfl
    | insert line => rw [ofSteps, distance, ih]; rfl

/-- The edits made from steps shift rows as often as the steps do. -/
theorem shifts_ofSteps {steps : List Step} :
    ∀ row, shifts (ofSteps row steps) = stepsShifts steps := by
  induction steps with
  | nil => exact fun row => rfl
  | cons step steps ih =>
    intro row
    rw [stepsShifts_cons]
    cases step with
    | keep => rw [ofSteps, ih, Step.shifts, Nat.zero_add]
    | replace line => simp [ofSteps, ih, Step.shifts]
    | delete => rw [ofSteps, shifts, ih]; rfl
    | insert line => rw [ofSteps, shifts, ih]; rfl

/-! ## Lines that are reached -/

/-- The new lines are reached from the old ones by no more than `c` edits, of which no more than `k`
shift rows, in one pass through the lines. -/
inductive Reaches : (c k : Nat) → (old new : List Text) → Prop
  | done {c k : Nat} : Reaches c k [] []
  | keep {c k : Nat} {old new : List Text} (a : Text) :
      Reaches c k old new → Reaches c k (a :: old) (a :: new)
  | replace {c k : Nat} {old new : List Text} (a b : Text) :
      Reaches c k old new → Reaches (c + 1) k (a :: old) (b :: new)
  | delete {c k : Nat} {old new : List Text} (a : Text) :
      Reaches c k old new → Reaches (c + 1) (k + 1) (a :: old) new
  | insert {c k : Nat} {old new : List Text} (b : Text) :
      Reaches c k old new → Reaches (c + 1) (k + 1) old (b :: new)

/-- Steps that turn one block into another reach it. -/
theorem Turns.reaches {steps : List Step} {old new : List Text} (h : Turns steps old new) :
    Reaches (stepsCost steps) (stepsShifts steps) old new := by
  have next : ∀ {step : Step} {steps : List Step} {old new : List Text},
      Reaches (stepsCost steps + step.cost) (stepsShifts steps + step.shifts) old new →
        Reaches (stepsCost (step :: steps)) (stepsShifts (step :: steps)) old new := by
    intro step steps old new h
    rwa [stepsCost_cons, stepsShifts_cons, Nat.add_comm, Nat.add_comm step.shifts]
  induction h with
  | done => exact .done
  | keep a _ ih => exact next (.keep a ih)
  | replace a b _ ih => exact next (.replace a b ih)
  | delete a _ ih => exact next (.delete a ih)
  | insert b _ ih => exact next (.insert b ih)

namespace Reaches

variable {c k c' k' : Nat} {old middle new old' new' : List Text}

/-- Edits that are not needed may be left over. -/
theorem mono (h : Reaches c k old new) (hc : c ≤ c') (hk : k ≤ k') : Reaches c' k' old new := by
  induction h generalizing c' k' with
  | done => exact .done
  | keep a _ ih => exact .keep a (ih hc hk)
  | replace a b _ ih =>
    obtain ⟨c', rfl⟩ := Nat.exists_eq_add_one_of_ne_zero (by omega : c' ≠ 0)
    exact .replace a b (ih (by omega) hk)
  | delete a _ ih =>
    obtain ⟨c', rfl⟩ := Nat.exists_eq_add_one_of_ne_zero (by omega : c' ≠ 0)
    obtain ⟨k', rfl⟩ := Nat.exists_eq_add_one_of_ne_zero (by omega : k' ≠ 0)
    exact .delete a (ih (by omega) (by omega))
  | insert b _ ih =>
    obtain ⟨c', rfl⟩ := Nat.exists_eq_add_one_of_ne_zero (by omega : c' ≠ 0)
    obtain ⟨k', rfl⟩ := Nat.exists_eq_add_one_of_ne_zero (by omega : k' ≠ 0)
    exact .insert b (ih (by omega) (by omega))

theorem refl (lines : List Text) : Reaches c k lines lines := by
  induction lines with
  | nil => exact .done
  | cons a lines ih => exact .keep a ih

/-- Blocks are reached one behind the other. -/
theorem append (h : Reaches c k old new) (h' : Reaches c' k' old' new') :
    Reaches (c + c') (k + k') (old ++ old') (new ++ new') := by
  induction h with
  | done => exact h'.mono (by omega) (by omega)
  | keep a _ ih => exact .keep a ih
  | replace a b _ ih => exact (ih.replace a b).mono (by omega) (by omega)
  | delete a _ ih => exact (ih.delete a).mono (by omega) (by omega)
  | insert b _ ih => exact (ih.insert b).mono (by omega) (by omega)

/-- What is reached can be reached from the last line on. -/
theorem reverse (h : Reaches c k old new) : Reaches c k old.reverse new.reverse := by
  induction h with
  | done => exact .done
  | keep a _ ih =>
    rw [List.reverse_cons, List.reverse_cons]
    exact ih.append (.keep a (.done : Reaches 0 0 [] []))
  | replace a b _ ih =>
    rw [List.reverse_cons, List.reverse_cons]
    exact ih.append (.replace a b (.done : Reaches 0 0 [] []))
  | delete a _ ih =>
    have := ih.append (.delete a (.done : Reaches 0 0 [] []))
    rwa [List.append_nil, ← List.reverse_cons] at this
  | insert b _ ih =>
    have := ih.append (.insert b (.done : Reaches 0 0 [] []))
    rwa [List.append_nil, ← List.reverse_cons] at this

/-- Two passes can be made one. A line that the first pass writes for the second one to read need
not be written. -/
theorem trans : ∀ {c k c' k' : Nat} {old middle new : List Text}, Reaches c k old middle →
    Reaches c' k' middle new → Reaches (c + c') (k + k') old new
  | _, _, _, _, _, _, _, .delete a h, h' => ((h.trans h').delete a).mono (by omega) (by omega)
  | _, _, _, _, _, _, _, h, .insert b h' => ((h.trans h').insert b).mono (by omega) (by omega)
  | _, _, _, _, _, _, _, .done, .done => .done
  | _, _, _, _, _, _, _, .keep a h, .keep _ h' => (h.trans h').keep a
  | _, _, _, _, _, _, _, .keep a h, .replace _ b h' => (h.trans h').replace a b
  | _, _, _, _, _, _, _, .keep a h, .delete _ h' => (h.trans h').delete a
  | _, _, _, _, _, _, _, .replace a b h, .keep _ h' =>
      ((h.trans h').replace a b).mono (by omega) (by omega)
  | _, _, _, _, _, _, _, .replace a _ h, .replace _ b h' =>
      ((h.trans h').replace a b).mono (by omega) (by omega)
  | _, _, _, _, _, _, _, .replace a _ h, .delete _ h' =>
      ((h.trans h').delete a).mono (by omega) (by omega)
  | _, _, _, _, _, _, _, .insert b h, .keep _ h' =>
      ((h.trans h').insert b).mono (by omega) (by omega)
  | _, _, _, _, _, _, _, .insert _ h, .replace _ b h' =>
      ((h.trans h').insert b).mono (by omega) (by omega)
  | _, _, _, _, _, _, _, .insert _ h, .delete _ h' => (h.trans h').mono (by omega) (by omega)
termination_by _ _ _ _ old middle new => old.length + middle.length + new.length

/-- Between equal lines nothing has to be done. -/
theorem tail {a : Text} (h : Reaches c k (a :: old) (a :: new)) : Reaches c k old new := by
  cases h with
  | keep _ h => exact h
  | replace _ _ h => exact h.mono (by omega) (by omega)
  | delete _ h =>
    -- the line that is taken out from the old lines is not put in again
    exact h.trans (.delete a (.refl new : Reaches 0 0 new new))
  | insert _ h =>
    exact (Reaches.trans (.insert a (.refl old : Reaches 0 0 old old)) h).mono (by omega) (by omega)

/-- Only edits that shift rows change the number of lines. -/
theorem length_le (h : Reaches c k old new) :
    new.length ≤ old.length + min c k ∧ old.length ≤ new.length + min c k := by
  induction h with
  | done => exact ⟨Nat.zero_le _, Nat.zero_le _⟩
  | keep a _ ih =>
    rw [List.length_cons, List.length_cons]
    omega
  | replace a b _ ih =>
    rw [List.length_cons, List.length_cons]
    omega
  | delete a _ ih =>
    rw [List.length_cons]
    omega
  | insert b _ ih =>
    rw [List.length_cons]
    omega

/-- All lines can be taken out, and others put in. -/
theorem all (old new : List Text) :
    Reaches (old.length + new.length) (old.length + new.length) old new := by
  induction old with
  | nil =>
    rw [List.length_nil, Nat.zero_add]
    induction new with
    | nil => exact .done
    | cons b new ih => exact .insert b ih
  | cons a old ih =>
    have hlen : (a :: old).length + new.length = old.length + new.length + 1 := by
      rw [List.length_cons, Nat.add_right_comm]
    rw [hlen]
    exact ih.delete a

/-- As many lines can be put in the place of others. -/
theorem replaceAll : ∀ {old new : List Text}, old.length = new.length →
    Reaches new.length 0 old new
  | [], [], _ => .done
  | a :: _, b :: _, h => .replace a b (replaceAll (Nat.succ.inj h))

end Reaches

/-! ## What scripts reach -/

/-- What one edit makes of a block is reached by as many single-line edits. -/
theorem reaches_of_edit {edit : LineEdit} {block block' : List Text}
    (h : edit.outcome? block = some block') :
    Reaches edit.distance edit.shifts block block' := by
  cases edit with
  | insert row line =>
    rw [LineEdit.outcome?, Option.ite_none_right_eq_some] at h
    obtain rfl := Option.some.inj h.2
    have hrest : Reaches 1 1 (block.drop row.toNat) (line :: block.drop row.toNat) :=
      .insert line (.refl _ : Reaches 0 0 _ _)
    have := (Reaches.refl (block.take row.toNat) : Reaches 0 0 _ _).append hrest
    rwa [List.take_append_drop] at this
  | delete row =>
    rw [LineEdit.outcome?, Option.ite_none_right_eq_some] at h
    obtain ⟨⟨hrow, hlt⟩, hblock⟩ := h
    obtain rfl := Option.some.inj hblock
    have hlt' : row.toNat < block.length := by omega
    have hrest : Reaches 1 1 (block.drop row.toNat) (block.drop (row.toNat + 1)) := by
      rw [List.drop_eq_getElem_cons hlt']
      exact .delete _ (.refl _ : Reaches 0 0 _ _)
    have := (Reaches.refl (block.take row.toNat) : Reaches 0 0 _ _).append hrest
    rwa [List.take_append_drop, ← List.eraseIdx_eq_take_drop_succ] at this
  | replace row lines =>
    rw [LineEdit.outcome?, Option.ite_none_right_eq_some] at h
    obtain ⟨⟨hrow, hlen⟩, hblock⟩ := h
    obtain rfl := Option.some.inj hblock
    have hmiddle : Reaches lines.length 0 ((block.drop row.toNat).take lines.length) lines :=
      .replaceAll (by rw [List.length_take, List.length_drop]; omega)
    have hbelow := hmiddle.append
      (Reaches.refl ((block.drop row.toNat).drop lines.length) : Reaches 0 0 _ _)
    have := (Reaches.refl (block.take row.toNat) : Reaches 0 0 _ _).append hbelow
    rw [List.take_append_drop, List.take_append_drop, List.drop_drop, ← List.append_assoc,
      Nat.zero_add, Nat.zero_add] at this
    exact this

/-- What a script makes of a block is reached in one pass, by no more edits and no more of those
that shift rows. -/
theorem reaches_of_outcome? {new : List Text} {s : Script} :
    ∀ {old : List Text}, outcome? old s = some new → Reaches s.distance s.shifts old new := by
  induction s with
  | nil =>
    intro old h
    obtain rfl := Option.some.inj h
    exact .refl old
  | cons edit s ih =>
    intro old h
    rw [outcome?_cons, Option.bind_eq_some_iff] at h
    obtain ⟨middle, hedit, hs⟩ := h
    exact (reaches_of_edit hedit).trans (ih hs)

end Script

end TextTable
