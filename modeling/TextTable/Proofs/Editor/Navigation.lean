import TextTable.Proofs.Editor.Shows

/-!
# Navigation

Without a smart cursor, the moves from cell to cell are those of a cursor in a grid. The rows of the
grid are counted without the delimiter row, which the cursor never is on (`tableRow_ne_one`), and
the columns are those of the header. The grid grows by a row or a column where a move leads off it.
What one move does is said by `makes_move` for its plan and by `move_follows` for the editor; by
induction, however many moves are made, what the editor shows stays in step with the grid, and the
cell under its cursor with the cursor of the grid, though each move reads the table again from the
document.
-/

namespace TextTable

/-- A grid with a cursor in one of its cells. The header is the row 0, and the body follows. -/
structure GridCursor where
  grid : Grid
  row : Nat
  column : Nat

/-- A move of a cursor from cell to cell. -/
inductive Move
  /-- some rows and columns on, as far as the grid goes -/
  | focus (rows columns : Int)
  /-- to the cell before, in reading order -/
  | previous
  /-- to the next cell -/
  | next
  /-- to the first cell of the next row -/
  | nextRow
deriving DecidableEq

/-- The command that asks for the move. -/
def Move.command : Move → Command
  | .focus rows columns => .moveFocus rows columns
  | .previous => .previousCell
  | .next => .nextCell
  | .nextRow => .nextRow

/-- The grid with a row of blank cells at its end if its body has less than `rows` rows. -/
def Grid.withRows (g : Grid) (rows : Nat) : Grid :=
  if g.body.length < rows then g.insertRow g.body.length else g

namespace GridCursor

/-- The number nearest to `x` that is less than `n`. -/
def clamp (x : Int) (n : Nat) : Nat := (min (max x 0) (n - 1)).toNat

/-- The number of rows, with the header. -/
def rows (s : GridCursor) : Nat := s.grid.body.length + 1

/-- The number of columns, which are those of the header. -/
def columns (s : GridCursor) : Nat := s.grid.header.length

/-- Where a move leads. From the last cell of the header, the next cell is the first one of the
body; from the last column of another row, it is in a new column. -/
def step (s : GridCursor) : Move → GridCursor
  | .focus rows columns =>
    ⟨s.grid, clamp (s.row + rows) s.rows, clamp (s.column + columns) s.columns⟩
  | .previous =>
    if 0 < s.column then ⟨s.grid, s.row, s.column - 1⟩
    else if 0 < s.row then ⟨s.grid, s.row - 1, s.columns - 1⟩
    else s
  | .next =>
    if s.column + 1 < s.columns then ⟨s.grid, s.row, s.column + 1⟩
    else if s.row = 0 then ⟨s.grid.withRows 1, 1, 0⟩
    else ⟨s.grid.insertColumn s.columns, s.row, s.columns⟩
  | .nextRow => ⟨s.grid.withRows (s.row + 1), s.row + 1, 0⟩

/-- The row of a table, which is counted with the delimiter row. -/
def tableRow (row : Nat) : Int := if row = 0 then 0 else row + 1

end GridCursor

/-- The focus is in this cell of a grid. -/
structure Focus.At (f : Focus) (row column : Nat) : Prop where
  row : f.row = GridCursor.tableRow row
  column : f.column = column

/-- The cursor is in a table that says `s.grid` once it is complete, in the cell of `s`. -/
def Editor.Follows (o : Options) (e : Editor) (s : GridCursor) : Prop :=
  s.column < s.columns ∧ ∃ f : Focus, e.Shows o s.grid f ∧ f.At s.row s.column

namespace GridCursor

@[simp] theorem tableRow_zero : tableRow 0 = 0 := rfl

@[simp] theorem tableRow_succ (row : Nat) : tableRow (row + 1) = row + 2 := by
  rw [tableRow, if_neg (Nat.succ_ne_zero row)]
  omega

theorem tableRow_ne_one (row : Nat) : tableRow row ≠ 1 := by
  rw [tableRow]
  split <;> omega

/-- Before the last column, the next cell is in the same row. -/
theorem step_next_along {s : GridCursor} (h : s.column + 1 < s.columns) :
    s.step .next = ⟨s.grid, s.row, s.column + 1⟩ := if_pos h

/-- Behind the header comes the first row of the body, which is made if need be. -/
theorem step_next_down {s : GridCursor} (h : ¬ s.column + 1 < s.columns) (hrow : s.row = 0) :
    s.step .next = ⟨s.grid.withRows 1, 1, 0⟩ := by
  rw [step, if_neg h, if_pos hrow]

/-- Behind the last column of the body a column is put in. -/
theorem step_next_out {s : GridCursor} (h : ¬ s.column + 1 < s.columns) (hrow : ¬ s.row = 0) :
    s.step .next = ⟨s.grid.insertColumn s.columns, s.row, s.columns⟩ := by
  rw [step, if_neg h, if_neg hrow]

theorem clamp_lt (x : Int) {n : Nat} (hn : 0 < n) : clamp x n < n := by
  rw [clamp]
  omega

/-- As many rows as it takes for the row to be one of the table. -/
theorem growTo_tableRow (g : Grid) (row : Nat) :
    g.growTo (tableRow (row + 1)) = g.withRows (row + 1) := by
  have hiff : (g.height : Int) - 1 < tableRow (row + 1) ↔ g.body.length < row + 1 := by
    rw [tableRow_succ, Grid.height]
    omega
  simp only [Grid.growTo, Grid.withRows, hiff]

@[simp] theorem header_withRows (g : Grid) (rows : Nat) : (g.withRows rows).header = g.header := by
  rw [Grid.withRows]
  split <;> rfl

end GridCursor

/-- A cursor in the grid is not on the delimiter row. -/
theorem Focus.At.row_ne_one {f : Focus} {row column : Nat} (h : f.At row column) : f.row ≠ 1 :=
  h.row ▸ GridCursor.tableRow_ne_one row

namespace Command

open GridCursor

/-! ## Targets -/

/-- A move by rows passes over the delimiter row. -/
theorem rowTarget_tableRow {row n : Nat} (hin : row < n) (rows : Int) :
    rowTarget (n + 1) (tableRow row) rows = tableRow (clamp (row + rows) n) := by
  have hlast : (if n + 1 ≤ 2 then (0 : Int) else (n + 1 : Nat) - 1) = tableRow (n - 1) := by
    rw [tableRow]
    split <;> split <;> omega
  simp only [rowTarget, hlast, tableRow, clamp]
  cases row with
  | zero => split <;> split <;> split <;> omega
  | succ row => split <;> split <;> split <;> omega

section Targets

variable {t : Table} {f : Focus} {s : GridCursor} (hf : f.At s.row s.column)
  (hwidth : t.headerWidth = s.columns) (hlt : s.column < s.columns)

include hf hwidth hlt

/-- By however many rows and columns the cursor is moved, it stays in the grid. -/
theorem moveTarget_at (hheight : t.height = s.rows + 1) (hin : s.row < s.rows)
    (rows columns : Int) :
    (moveTarget t f rows columns).At (clamp (s.row + rows) s.rows)
      (clamp (s.column + columns) s.columns) := by
  obtain ⟨hrow, hcolumn⟩ := hf
  -- the focus after the move by rows
  obtain ⟨g, hg, hgrow, hgcolumn⟩ : ∃ g, (if rows = 0 then f else
      (f.withRow (rowTarget t.height f.row rows)).withColumn
        (min f.column ((t.headerWidth : Int) - 1))) = g ∧
      g.At (clamp (s.row + rows) s.rows) s.column := by
    refine ⟨_, rfl, ?_⟩
    split
    · next hzero =>
      refine ⟨?_, hcolumn⟩
      rw [hrow, clamp, hzero]
      congr 1
      omega
    · rw [hheight, hrow, rowTarget_tableRow hin, hcolumn, hwidth]
      exact ⟨rfl, by dsimp only [Focus.withColumn]; omega⟩
  simp only [moveTarget, hg]
  split
  · next hzero =>
    refine ⟨hgrow, hgcolumn.trans ?_⟩
    rw [clamp, hzero]
    omega
  · refine ⟨hgrow, ?_⟩
    dsimp only [Focus.withColumn]
    rw [hgcolumn, hwidth, columnTarget, if_neg (by omega), clamp]
    omega

/-- Before the first column comes the last one of the row above, unless there is no row above. -/
theorem previousTarget_at :
    (previousTarget t f).At (s.step .previous).row (s.step .previous).column := by
  obtain ⟨grid, row, column⟩ := s
  obtain ⟨hrow, hcolumn⟩ := hf
  rw [previousTarget, if_neg (hrow ▸ tableRow_ne_one row), hcolumn, hwidth, step]
  dsimp only at *
  cases column with
  | zero =>
    rw [if_neg (by omega), if_neg (Nat.lt_irrefl 0), hrow]
    cases row with
    | zero => exact ⟨hrow, hcolumn⟩
    | succ row =>
      rw [tableRow_succ, if_neg (by omega), if_pos (Nat.succ_pos row)]
      constructor
      · rw [Nat.add_sub_cancel, tableRow]
        dsimp only
        split <;> split <;> omega
      · dsimp only
        omega
  | succ column =>
    rw [if_pos (by omega), if_pos (Nat.succ_pos column)]
    exact ⟨hrow, by dsimp only [Focus.withColumn]; omega⟩

end Targets

/-! ## Plans -/

section Plans

variable {o : Options} {t : Table} {f : Focus} {s : GridCursor} (ht : t.Sound o.margin)
  (hg : t.grid = s.grid) (hf : f.At s.row s.column) (hin : s.row < s.rows)
  (hlt : s.column < s.columns)

include ht hg hf hin

/-- The focus is in one of the rows of the table. -/
theorem focus_within : 0 ≤ f.row ∧ f.row < t.height := by
  have hheight : t.height = s.rows + 1 := by
    rw [ht.complete.height_eq, hg]
    rfl
  rw [hf.row, tableRow]
  split <;> omega

include hlt

/-- The plan for the next cell is one for a step along the row unless the row ends, and then one for
a step down from the header, and one for a step out of the grid from the body. -/
theorem makes_next :
    ∃ p target, planNextCell o t f = .ok p ∧ p.Makes o.margin t (s.step .next).grid target ∧
      target.At (s.step .next).row (s.step .next).column := by
  obtain ⟨hrow, hrow'⟩ := focus_within ht hg hf hin
  have hwidth : (t.grid.header.length : Int) = s.columns := by
    rw [hg]
    rfl
  have hcolumn := hf.column
  have hne := hf.row_ne_one
  by_cases hmore : s.column + 1 < s.columns
  · have halong : ¬ (f.row = 1 ∨ (f.row = 0 ∧ (t.grid.header.length : Int) - 1 ≤ f.column)) := by
      omega
    obtain ⟨p, hplan, hmakes⟩ := makes_nextCell_along ht hrow hrow' halong
    rw [if_neg (by omega), hg] at hmakes
    rw [step_next_along hmore]
    refine ⟨p, _, hplan, hmakes, hf.row, ?_⟩
    dsimp only [Focus.withColumn]
    rw [← hg]
    omega
  · by_cases htop : s.row = 0
    · have hzero : f.row = 0 := by
        rw [hf.row, htop, tableRow_zero]
      have hdown : f.row = 1 ∨ (f.row = 0 ∧ (t.grid.header.length : Int) - 1 ≤ f.column) := by
        omega
      obtain ⟨p, hplan, hmakes⟩ := makes_nextCell_down (o := o) ht hdown
      rw [if_neg fun h => hne h.1, hg] at hmakes
      rw [step_next_down hmore htop, ← growTo_tableRow]
      exact ⟨p, _, hplan, hmakes, rfl, rfl⟩
    · have hbody : f.row ≠ 0 := by
        rw [hf.row, tableRow, if_neg htop]
        omega
      have halong : ¬ (f.row = 1 ∨ (f.row = 0 ∧ (t.grid.header.length : Int) - 1 ≤ f.column)) := by
        omega
      obtain ⟨p, hplan, hmakes⟩ := makes_nextCell_along ht hrow hrow' halong
      rw [if_pos (by omega), hg] at hmakes
      rw [step_next_out hmore htop]
      refine ⟨p, _, hplan, hmakes, hf.row, ?_⟩
      dsimp only [Focus.withColumn]
      rw [← hg]
      omega

/-- The command of a move plans what the move does to the grid, and where its cursor goes. -/
theorem makes_move (hoff : o.smartCursor = false) (session : Option Session) (m : Move) :
    ∃ p target, m.command.plan o session t f = .ok p ∧
      p.Makes o.margin t (s.step m).grid target ∧ target.At (s.step m).row (s.step m).column := by
  obtain ⟨hrow, hrow'⟩ := focus_within ht hg hf hin
  have hheight : t.height = s.rows + 1 := by
    rw [ht.complete.height_eq, hg]
    rfl
  have hwidth : t.headerWidth = s.columns := by
    rw [Table.headerWidth_eq, hg]
    rfl
  cases m with
  | focus rows columns =>
    obtain ⟨hpos, hbelow⟩ := moveTarget_within hrow hrow' rows columns
    exact ⟨_, _, rfl, ⟨soundFor_stay ht hpos hbelow _ _ _, hg, rfl⟩,
      moveTarget_at hf hwidth hlt hheight hin rows columns⟩
  | previous =>
    obtain ⟨hpos, hbelow⟩ := previousTarget_within hrow hrow'
    have hgrid : t.grid = (s.step .previous).grid := by
      rw [hg, step]
      split
      · rfl
      · split <;> rfl
    exact ⟨_, _, rfl, ⟨soundFor_stay ht hpos hbelow _ _ _, hgrid, rfl⟩,
      previousTarget_at hf hwidth hlt⟩
  | next => exact makes_next ht hg hf hin hlt
  | nextRow =>
    have hmakes := makes_nextRow ht hrow hrow' session
    have hreturn : returnColumn o session s.grid f = 0 := by
      rw [returnColumn, hoff]
      rfl
    have hnext : (if f.row = 0 then 2 else f.row + 1) = tableRow (s.row + 1) := by
      rw [hf.row, tableRow_succ, tableRow]
      split <;> split <;> omega
    rw [hnext, hg, growTo_tableRow, hreturn] at hmakes
    exact ⟨_, _, rfl, hmakes, rfl, rfl⟩

end Plans

end Command

/-- No move leads out of the columns of the grid. -/
theorem GridCursor.step_column_lt {s : GridCursor} (hlt : s.column < s.columns) (m : Move) :
    (s.step m).column < (s.step m).columns := by
  have hpos : 0 < s.columns := by omega
  cases m with
  | focus rows columns => exact clamp_lt _ hpos
  | previous =>
    rw [step]
    split
    · exact (Nat.sub_le _ 1).trans_lt hlt
    · split
      · exact Nat.sub_one_lt_of_lt hpos
      · exact hlt
  | next =>
    rw [step]
    split
    · next hmore => exact hmore
    · split
      · dsimp only [columns]
        rwa [header_withRows]
      · dsimp only [columns]
        rw [Grid.length_header_insertColumn (Nat.le_refl _)]
        exact Nat.lt_succ_self _
  | nextRow =>
    dsimp only [step, columns]
    rwa [header_withRows]

namespace Workspace

open Editor

variable {o : Options} {w : Workspace} {s : GridCursor}

/-! ## Moves -/

/-- After a move, the editor follows the moved cursor. -/
theorem move_follows (hm : o.margin.Simple) (hoff : o.smartCursor = false) (h : w.editor.Open)
    (hs : w.editor.Follows o s) (m : Move) :
    ∃ w', run o m.command w = .ok () w' ∧ w'.editor.Open ∧ w'.editor.Follows o (s.step m) := by
  obtain ⟨hlt, f, hshows, hf⟩ := hs
  obtain ⟨above, block, below, f₀, hshown⟩ := hshows.exists_shownBy hm h
  have hin : s.row < s.rows := by
    have hrow := hshown.row.2
    rw [hf.row, GridCursor.tableRow, Grid.height] at hrow
    rw [GridCursor.rows]
    split at hrow <;> omega
  obtain ⟨p, target, hplan, hmakes, htarget⟩ :=
    Command.makes_move hshown.sound hshown.grid hf hin hlt hoff _ m
  obtain ⟨e', f', hrun, hopen, hshown', hreaches⟩ := run_shownBy hm h hshown hplan hmakes
  have hlt' := GridCursor.step_column_lt hlt m
  refine ⟨_, hrun, hopen, hlt', f', hshown'.shows, hreaches.row.trans htarget.row, ?_⟩
  rw [hreaches.column, htarget.column]
  · rw [htarget.column]
    exact Int.natCast_nonneg _
  · rw [htarget.column]
    exact Int.ofNat_lt.mpr hlt'

/-- In an editor that accepts every row and refuses nothing, without a smart cursor and with the
cursor in a cell of the header or the body, in a column of the header, any number of moves succeed,
one after the other, whatever session there is. What the editor shows then is what the same moves
make of a grid with a cursor, with the cursor in the same cell, and never on the delimiter row. -/
theorem navigation_refines (o : Options) (hm : o.margin.Simple) (hoff : o.smartCursor = false)
    (w : Workspace) (haccepts : w.editor.rejected = []) (hpermits : w.editor.refused = none)
    (s : GridCursor) (hs : w.editor.Follows o s) (ms : List Move) :
    ∃ w' f', (ms.forM fun m => run o m.command) w = .ok () w' ∧
      w'.editor.Shows o (ms.foldl GridCursor.step s).grid f' ∧
      f'.At (ms.foldl GridCursor.step s).row (ms.foldl GridCursor.step s).column ∧
      f'.row ≠ 1 := by
  have hopen : w.editor.Open := ⟨haccepts, hpermits⟩
  have hruns : ∃ w', (ms.forM fun m => run o m.command) w = .ok () w' ∧
      w'.editor.Open ∧ w'.editor.Follows o (ms.foldl GridCursor.step s) :=
    forM_ok (R := fun s (w : Workspace) => w.editor.Open ∧ w.editor.Follows o s)
      (fun m _ _ _ h => move_follows hm hoff h.1 h.2 m) ⟨hopen, hs⟩
  obtain ⟨w', hrun, -, -, f', hshows', hf'⟩ := hruns
  exact ⟨w', f', hrun, hshows', hf', hf'.row_ne_one⟩

/-- In a table without a delimiter row and without a body, the cursor goes to a new row, there on to
a new column, and back to the header. -/
theorem navigation_refines_grown :
    let w : Workspace := ⟨{ lines := ["|a|b".toList], cursor := ⟨0, 4⟩ }, none⟩
    let ms : List Move := [.next, .next, .next, .focus (-1) (-1), .previous]
    w.editor.Follows {} ⟨⟨[['a'], ['b']], [none, none], []⟩, 0, 1⟩ ∧
      ∃ w' f', (ms.forM fun m => run {} m.command) w = .ok () w' ∧
        w'.editor.Shows {} ⟨[['a'], ['b'], []], [none, none, none], [[[], [], []]]⟩ f' ∧
        f'.At 0 0 ∧ f'.row ≠ 1 := by
  intro w ms
  have hs : w.editor.Follows {} ⟨⟨[['a'], ['b']], [none, none], []⟩, 0, 1⟩ :=
    ⟨by decide, ⟨0, 1, 1⟩, ⟨by decide, _, rfl, by decide, by decide⟩, by decide, by decide⟩
  exact ⟨hs, navigation_refines {} (by unfold Margin.Simple; decide) rfl w rfl rfl _ hs ms⟩

end Workspace

end TextTable
