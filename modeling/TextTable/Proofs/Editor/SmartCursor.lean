import Mathlib.Data.List.Basic
import Mathlib.Data.List.Induction
import TextTable.Editor.Session

/-!
# Runs of the smart cursor

A smart cursor is reset, checked and told of moves, in any order (`Call`). What it remembers can be
told from the calls behind the last one that ended a session, whether there was a session to end or
not (`Ends`, `Parted`). The first move among these calls gives the table and the place to return to,
the last one gives the place that was come to, and checks leave no trace (`remembered`,
`Parted.run_eq`). Without a move among them, nothing is remembered.

The step is `after_remembered`, for one call that does not end the session, and the run is
`run_remembered`, for a list of such calls.
-/

namespace TextTable

namespace Session

/-! ## Homes and checks -/

/-- A place in a column of the header is remembered as it is, and any other one as the first column
of its row. -/
theorem homeOf_eq (start : Focus) (width : Int) : homeOf start width =
    if 0 ≤ start.column ∧ start.column < width then start else ⟨start.row, 0, 0⟩ := by
  rw [homeOf]
  split
  · rw [if_neg (by omega)]
  · rw [if_pos (by omega)]

/-- A session remembers the column where it began if it is one of the header. -/
@[simp] theorem homeOf_column (start : Focus) (width : Int) : (homeOf start width).column =
    if 0 ≤ start.column ∧ start.column < width then start.column else 0 := by
  rw [homeOf_eq]
  split <;> rfl

/-- A session that was checked passes the same check again. -/
theorem check_check (s : Option Session) (tableStart : Position) (f : Focus) :
    check (check s tableStart f) tableStart f = check s tableStart f := by
  rw [check, check, Option.filter_filter]
  simp only [Bool.and_self]

/-- A check ends the session or leaves it as it is. -/
theorem check_eq_or (s : Option Session) (tableStart : Position) (f : Focus) :
    check s tableStart f = s ∨ check s tableStart f = none := by
  rw [check]
  cases s with
  | none => exact Or.inl rfl
  | some s =>
    rw [Option.filter_some]
    split
    · exact Or.inl rfl
    · exact Or.inr rfl

/-- A check ends a session in another table, and one whose last move ended in another cell. -/
theorem check_some_eq_none_iff {s : Session} {tableStart : Position} {f : Focus} :
    check (some s) tableStart f = none ↔
      s.tableStart ≠ tableStart ∨ s.last.row ≠ f.row ∨ s.last.column ≠ f.column := by
  rw [check, Option.filter_eq_none_iff]
  simp only [Option.some.injEq, forall_eq', Focus.sameCell, Bool.and_eq_true, decide_eq_true_eq]
  rw [not_and_or, not_and_or, eq_comm (a := f.row), eq_comm (a := f.column)]

/-! ## Calls -/

/-- A move to the next cell or the next row, as it is recorded. -/
structure Move where
  /-- the position where the table begins -/
  tableStart : Position
  /-- where the move began -/
  start : Focus
  /-- where the move ended -/
  last : Focus
  /-- the number of columns of the header -/
  headerWidth : Int

/-- What a smart cursor is told. -/
inductive Call
  /-- the session is over -/
  | reset
  /-- the cursor is found in a table and in a cell of it -/
  | check (tableStart : Position) (f : Focus)
  /-- a move was made -/
  | record (m : Move)

/-- The moves that some calls record. -/
def moves (calls : List Call) : List Move :=
  calls.filterMap fun c => match c with
    | .record m => some m
    | _ => none

@[simp] theorem moves_append (calls calls' : List Call) :
    moves (calls ++ calls') = moves calls ++ moves calls' := List.filterMap_append

/-- Moves are found among the calls that record them. -/
theorem mem_moves_iff {calls : List Call} {m : Move} : m ∈ moves calls ↔ .record m ∈ calls := by
  rw [moves, List.mem_filterMap]
  constructor
  · rintro ⟨_ | _ | m', hc, hm⟩
    · cases hm
    · cases hm
    · obtain rfl := Option.some.inj hm
      exact hc
  · exact fun hc => ⟨_, hc, rfl⟩

/-- The session after a call. -/
def after (s : Option Session) : Call → Option Session
  | .reset => none
  | .check tableStart f => check s tableStart f
  | .record m => record s m.tableStart m.start m.last m.headerWidth

/-- The session after some calls, one after the other. -/
def run (s : Option Session) (calls : List Call) : Option Session := calls.foldl after s

/-- Further calls go on from what is remembered. -/
@[simp] theorem run_append (s : Option Session) (calls calls' : List Call) :
    run s (calls ++ calls') = run (run s calls) calls' := List.foldl_append

theorem run_concat (s : Option Session) (calls : List Call) (c : Call) :
    run s (calls ++ [c]) = after (run s calls) c := run_append s calls [c]

/-- A call that ends a session, if there is one: a reset, or a check that finds the cursor in
another table than that of the session, or in another row or column than where its last move ended.
-/
inductive Ends (s : Option Session) : Call → Prop
  | reset : Ends s .reset
  | check {s' : Session} {tableStart : Position} {f : Focus} (active : s = some s')
      (mismatch : s'.tableStart ≠ tableStart ∨ s'.last.row ≠ f.row ∨ s'.last.column ≠ f.column) :
      Ends s (.check tableStart f)

instance decidableEnds (s : Option Session) : (c : Call) → Decidable (Ends s c)
  | .reset => isTrue .reset
  | .record _ => isFalse nofun
  | .check tableStart f =>
    match s with
    | none => isFalse fun h => by cases h with | check active => cases active
    | some s =>
      decidable_of_iff
        (s.tableStart ≠ tableStart ∨ s.last.row ≠ f.row ∨ s.last.column ≠ f.column)
        ⟨.check rfl, fun h => by
          cases h with
          | check active mismatch =>
            cases active
            exact mismatch⟩

theorem Ends.after_eq {s : Option Session} {c : Call} (h : Ends s c) : after s c = none := by
  cases h with
  | reset => rfl
  | check active mismatch =>
    rw [active]
    exact check_some_eq_none_iff.mpr mismatch

/-- A check that ends nothing leaves no trace. -/
theorem check_of_not_ends {s : Option Session} {tableStart : Position} {f : Focus}
    (h : ¬ Ends s (.check tableStart f)) : check s tableStart f = s := by
  cases s with
  | none => rfl
  | some s =>
    refine (check_eq_or (some s) tableStart f).resolve_right fun hnone => ?_
    exact h (.check rfl (check_some_eq_none_iff.mp hnone))

/-! ## What is remembered -/

/-- No call ends a session on the way. -/
def Lasts : Option Session → List Call → Prop
  | _, [] => True
  | s, c :: calls => ¬ Ends s c ∧ Lasts (after s c) calls

instance decidableLasts : (s : Option Session) → (calls : List Call) → Decidable (Lasts s calls)
  | _, [] => isTrue trivial
  | s, c :: calls =>
    have := decidableLasts (after s c) calls
    inferInstanceAs (Decidable (¬ Ends s c ∧ Lasts (after s c) calls))

/-- A session lasts through one more call if that call does not end it. -/
theorem lasts_concat {s : Option Session} {calls : List Call} {c : Call} :
    Lasts s (calls ++ [c]) ↔ Lasts s calls ∧ ¬ Ends (run s calls) c := by
  induction calls generalizing s with
  | nil => simp [Lasts, run]
  | cons d calls ih =>
    rw [List.cons_append, Lasts, Lasts, ih, and_assoc]
    rfl

/-- The calls to a smart cursor without a session, parted behind the last one that ends a session.
-/
structure Parted (past recent : List Call) : Prop where
  /-- the past, if there is any, is over with its last call -/
  ended : ∀ earlier c, past = earlier ++ [c] → Ends (run none earlier) c
  /-- no call has ended a session since -/
  lasts : Lasts (run none past) recent

/-- All calls can be parted. -/
theorem exists_parted (calls : List Call) : ∃ past recent, calls = past ++ recent ∧
    Parted past recent := by
  induction calls using List.reverseRecOn with
  | nil => exact ⟨[], [], rfl, fun earlier c h => absurd h (by simp), trivial⟩
  | append_singleton calls c ih =>
    by_cases hends : Ends (run none calls) c
    · refine ⟨calls ++ [c], [], (List.append_nil _).symm, fun earlier d h => ?_, trivial⟩
      obtain ⟨rfl, hlast⟩ := List.append_inj' h rfl
      obtain rfl := List.singleton_inj.mp hlast
      exact hends
    · obtain ⟨past, recent, rfl, hparted⟩ := ih
      refine ⟨past, recent ++ [c], List.append_assoc .., hparted.ended, lasts_concat.mpr ?_⟩
      exact ⟨hparted.lasts, by rwa [← run_append]⟩

/-- What is remembered of moves that follow each other. -/
def remembered (ms : List Move) : Option Session :=
  match ms.head?, ms.getLast? with
  | some first, some latest =>
    some ⟨first.tableStart, homeOf first.start first.headerWidth, latest.last⟩
  | _, _ => none

/-- One more move is recorded in what the moves before it have left. -/
@[simp] theorem remembered_concat (ms : List Move) (m : Move) :
    remembered (ms ++ [m]) =
      record (remembered ms) m.tableStart m.start m.last m.headerWidth := by
  cases ms with
  | nil => rfl
  | cons first ms =>
    obtain ⟨latest, hlatest⟩ : ∃ latest, (first :: ms).getLast? = some latest :=
      ⟨_, List.getLast?_eq_some_getLast (List.cons_ne_nil _ _)⟩
    simp only [remembered, List.cons_append, List.head?_cons, hlatest, record]
    rw [← List.cons_append, List.getLast?_concat]

/-- Any move is remembered. -/
theorem remembered_eq_none_iff {ms : List Move} : remembered ms = none ↔ ms = [] := by
  cases ms with
  | nil => exact iff_of_true rfl rfl
  | cons first ms =>
    have hlatest := List.getLast?_eq_some_getLast (List.cons_ne_nil first ms)
    simp [remembered, hlatest]

/-- A call that ends nothing adds its move to what is remembered, if it records one. -/
theorem after_remembered {c : Call} (ms : List Move) (h : ¬ Ends (remembered ms) c) :
    after (remembered ms) c = remembered (ms ++ moves [c]) := by
  cases c with
  | reset => exact absurd .reset h
  | check tableStart f =>
    rw [after, check_of_not_ends h, show moves [.check tableStart f] = [] from rfl, List.append_nil]
  | record m => exact (remembered_concat ms m).symm

/-- As long as no call ends the session, what is remembered is what the moves say. -/
theorem run_remembered {calls : List Call} (ms : List Move) (h : Lasts (remembered ms) calls) :
    run (remembered ms) calls = remembered (ms ++ moves calls) := by
  -- on the calls, where `ms` are the moves of those that were made already
  induction calls generalizing ms with
  | nil => exact (congrArg remembered (List.append_nil ms)).symm
  | cons c calls ih =>
    obtain ⟨hends, hlasts⟩ := h
    have hstep := after_remembered ms hends
    have hmoves : moves (c :: calls) = moves [c] ++ moves calls := moves_append [c] calls
    rw [hstep] at hlasts
    calc run (remembered ms) (c :: calls) = run (after (remembered ms) c) calls := rfl
      _ = run (remembered (ms ++ moves [c])) calls := by rw [hstep]
      _ = remembered (ms ++ moves [c] ++ moves calls) := ih _ hlasts
      _ = remembered (ms ++ moves (c :: calls)) := by rw [hmoves, List.append_assoc]

/-- The past is forgotten. -/
theorem Parted.run_eq {past recent : List Call} (h : Parted past recent) :
    run none (past ++ recent) = remembered (moves recent) := by
  have hpast : run none past = remembered [] := by
    rcases List.eq_nil_or_concat' past with rfl | ⟨earlier, c, rfl⟩
    · rfl
    · rw [run_concat, (h.ended earlier c rfl).after_eq]
      rfl
  have hlasts := h.lasts
  rw [hpast] at hlasts
  rw [run_append, hpast]
  exact run_remembered [] hlasts

/-- Whatever a smart cursor without a session is told, the calls can be parted behind the last one
that ends a session. The smart cursor has no session if and only if no move is recorded behind it.
Otherwise the session is in the table of the first of these moves and returns to the place where
this move began, or to the first column of its row if that was no column of the header, and its last
move is the latest of them. -/
theorem run_since_last_end (calls : List Call) :
    (∃ past recent, calls = past ++ recent ∧ Parted past recent) ∧
      ∀ past recent, calls = past ++ recent → Parted past recent →
        (run none calls = none ↔ ∀ m, Call.record m ∉ recent) ∧
        ∀ s, run none calls = some s → ∃ first latest,
          (moves recent).head? = some first ∧ (moves recent).getLast? = some latest ∧
          s.tableStart = first.tableStart ∧
          s.start = (if 0 ≤ first.start.column ∧ first.start.column < first.headerWidth
            then first.start else ⟨first.start.row, 0, 0⟩) ∧
          s.last = latest.last := by
  refine ⟨exists_parted calls, ?_⟩
  rintro past recent rfl hparted
  rw [hparted.run_eq]
  constructor
  · -- nothing is remembered of no moves, and of no moves only
    rw [remembered_eq_none_iff, List.eq_nil_iff_forall_not_mem]
    exact forall_congr' fun m => not_congr mem_moves_iff
  · intro s hs
    rw [remembered] at hs
    split at hs
    · next first latest hfirst hlatest =>
      obtain rfl := Option.some.inj hs
      exact ⟨first, latest, hfirst, hlatest, rfl, homeOf_eq .., rfl⟩
    · cases hs

/-- The session of the first move is ended by a check that finds the cursor in another column. The
next move begins behind a header of two columns, and the check behind it finds the cursor where the
move ended. -/
theorem run_since_last_end_checked :
    let first : Move := ⟨⟨4, 0⟩, ⟨3, 2, 5⟩, ⟨4, 0, 0⟩, 2⟩
    let latest : Move := ⟨⟨0, 0⟩, ⟨4, 0, 1⟩, ⟨4, 1, 0⟩, 2⟩
    let past : List Call := [.record ⟨⟨4, 0⟩, ⟨2, 1, 0⟩, ⟨3, 1, 0⟩, 2⟩, .check ⟨4, 0⟩ ⟨3, 2, 0⟩]
    let recent : List Call := [.record first, .check ⟨4, 0⟩ ⟨4, 0, 7⟩, .record latest]
    Parted past recent ∧ (run none (past ++ recent) = none ↔ ∀ m, Call.record m ∉ recent) ∧
      run none (past ++ recent) = some ⟨⟨4, 0⟩, ⟨3, 0, 0⟩, ⟨4, 1, 0⟩⟩ ∧
      ∃ m m', (moves recent).head? = some m ∧ (moves recent).getLast? = some m' ∧
        ⟨4, 0⟩ = m.tableStart ∧
        ⟨3, 0, 0⟩ = (if 0 ≤ m.start.column ∧ m.start.column < m.headerWidth
          then m.start else ⟨m.start.row, 0, 0⟩) ∧
        ⟨4, 1, 0⟩ = m'.last := by
  intro first latest past recent
  have hparted : Parted past recent := by
    refine ⟨fun earlier c h => ?_, by decide⟩
    have hsplit : past.take 1 ++ past.drop 1 = earlier ++ [c] := h
    obtain ⟨rfl, hlast⟩ := List.append_inj' hsplit rfl
    obtain rfl := List.singleton_inj.mp hlast
    decide
  obtain ⟨-, hparts⟩ := run_since_last_end (past ++ recent)
  obtain ⟨hnone, hsome⟩ := hparts past recent rfl hparted
  exact ⟨hparted, hnone, rfl, hsome _ rfl⟩

end Session

end TextTable
