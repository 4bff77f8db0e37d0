import TextTable.Editor.Command
import TextTable.Proofs.Table.Alignments

/-!
# Plans for sound tables

For a sound table with the focus on one of its rows, every command has a plan, and unless it moves a
column, the planned table is sound, too (`exists_plan`). The plan sends the cursor to a row that the
planned table has. If the cursor is to keep its place in a cell, the table where the place was has
the same cells as the planned one. What a plan *makes* (`Plan.Makes`) is told by the grid of the
planned table and the focus that the cursor is sent to; a plan that moves a column makes something
if it keeps the contents of each row apart (`makes_moveColumn`).
-/

namespace TextTable

/-- The cursor goes to a row of the planned table, or below a table that is not changed. -/
def Landing.Within (t planned : Table) : Landing → Prop
  | .cell f before moved _ =>
    0 ≤ f.row ∧ f.row < planned.height ∧ (moved = true ∨ planned.SameShape before)
  | .below => planned = t

/-- The plan makes a sound table of `t`, and sends the cursor into it or below it. -/
structure Plan.SoundFor (m : Margin) (t : Table) (p : Plan) : Prop where
  sound : p.table.Sound m
  landing : p.landing.Within t p.table

/-- The focus that the cursor is sent to, if it is sent into the table. -/
def Landing.target? : Landing → Option Focus
  | .cell f _ _ _ => some f
  | .below => none

/-- The focus is in the row of the target, and in its column if this is one of the header. If it is
behind the header, so is the focus. -/
structure Focus.Reaches (f : Focus) (g : Grid) (target : Focus) : Prop where
  row : f.row = target.row
  column : 0 ≤ target.column → target.column < g.header.length → f.column = target.column
  behind : g.header.length ≤ target.column → g.header.length ≤ f.column

/-- The plan makes a sound table that says this, and sends the cursor to this focus. -/
structure Plan.Makes (m : Margin) (t : Table) (g : Grid) (target : Focus) (p : Plan) : Prop where
  soundFor : p.SoundFor m t
  grid : p.table.grid = g
  target : p.landing.target? = some target

/-- The plan makes a complete table of `t`, and sends the cursor into it or below it. -/
structure Plan.CompleteFor (t : Table) (p : Plan) : Prop where
  complete : p.table.Complete
  landing : p.landing.Within t p.table

/-- A plan for sound tables is one for complete tables. -/
theorem Plan.SoundFor.completeFor {m : Margin} {t : Table} {p : Plan} (h : p.SoundFor m t) :
    p.CompleteFor t := ⟨h.sound.complete, h.landing⟩

/-- The grid with a row of blank cells at its end if it has no row `row` yet. -/
def Grid.growTo (g : Grid) (row : Int) : Grid :=
  if (g.height : Int) - 1 < row then g.insertRow g.body.length else g

/-- A grid grows at the bottom. -/
@[simp] theorem Grid.header_growTo (g : Grid) (row : Int) : (g.growTo row).header = g.header := by
  rw [growTo]
  split <;> rfl

namespace Command

variable {o : Options} {t : Table} {f : Focus}

/-! ## Plans that change no cell -/

section Stay

variable (ht : t.Sound o.margin) {g : Focus} (hrow : 0 ≤ g.row) (hlt : g.row < t.height)

include ht hrow hlt

/-- The table stays as it is, and the cursor goes to one of its rows. -/
theorem soundFor_stay (moved selected : Bool) (memory : Memory) :
    Plan.SoundFor o.margin t ⟨t, .cell g t moved selected, memory⟩ :=
  ⟨ht, hrow, hlt, Or.inr rfl⟩

/-- The alignment of a column is set, and the cursor stays. -/
theorem makes_alignColumn (i : Int) (a : Alignment) :
    Plan.Makes o.margin t
      (if 0 ≤ i ∧ i < t.grid.header.length then t.grid.setAlignment i.toNat a else t.grid) g
      ⟨t.setAlignment o.toStyle i a, .cell g t false false, .forget⟩ := by
  obtain ⟨hsound, hshape, hgrid⟩ := ht.setAlignment o.minDelimiterWidth_pos i a
  rw [← hshape.height_eq] at hlt
  rw [← Table.headerWidth_eq]
  exact ⟨⟨hsound, hrow, hlt, Or.inr hshape⟩, hgrid, rfl⟩

end Stay

/-! ## Targets -/

/-- The cursor is never moved off the table by rows. -/
theorem rowTarget_within (row rows : Int) (hpos : 0 < t.height) :
    0 ≤ rowTarget t.height row rows ∧ rowTarget t.height row rows < t.height := by
  rw [rowTarget]
  split <;> constructor <;> omega

section Targets

variable (hrow : 0 ≤ f.row) (hlt : f.row < t.height)

include hrow hlt

theorem moveTarget_within (rows columns : Int) :
    0 ≤ (moveTarget t f rows columns).row ∧ (moveTarget t f rows columns).row < t.height := by
  have hkeep : ∀ g : Focus, (if columns = 0 then g
      else g.withColumn (columnTarget t.headerWidth g.column columns)).row = g.row := by
    intro g
    split <;> rfl
  rw [moveTarget, hkeep]
  split
  · exact ⟨hrow, hlt⟩
  · exact rowTarget_within f.row rows (by omega)

/-- Before the first row there is no row to go to. -/
theorem previousTarget_within :
    0 ≤ (previousTarget t f).row ∧ (previousTarget t f).row < t.height := by
  rw [previousTarget]
  split
  · constructor <;> dsimp only <;> omega
  · split
    · exact ⟨hrow, hlt⟩
    · split
      · exact ⟨hrow, hlt⟩
      · split <;> constructor <;> dsimp only <;> omega

/-- From the delimiter row the cursor goes to the header. -/
theorem offDelimiter_within : 0 ≤ (offDelimiter f).row ∧ (offDelimiter f).row < t.height := by
  have hzero : (f.withRow 0).row = 0 := rfl
  rw [offDelimiter]
  split
  · rw [hzero]
    omega
  · exact ⟨hrow, hlt⟩

end Targets

theorem inHeader_iff {column : Int} :
    inHeader t column = true ↔ 0 ≤ column ∧ column < t.grid.header.length := by
  simp [inHeader]

/-- The column where a move to the next row ends: that of the session, or else the one where the
cursor is if it is one of the header. -/
def returnColumn (o : Options) (s : Option Session) (g : Grid) (f : Focus) : Int :=
  if o.smartCursor then
    (Session.startColumn? s).getD
      (if 0 ≤ f.column ∧ f.column < g.header.length then f.column else 0)
  else 0

/-! ## Plans that change the table -/

/-- The grown table has the row that it was grown for. -/
theorem sound_growTo (ht : t.Sound o.margin) {row : Int} (hle : row ≤ t.height) :
    (growTo t row).Sound o.margin ∧ row < (growTo t row).height ∧
      (growTo t row).grid = t.grid.growTo row := by
  have htwo := ht.two_le_height
  have hall := ht.complete.height_eq
  rw [growTo, Grid.growTo, hall]
  split
  · obtain ⟨hsound, hgrid⟩ := ht.insertRow (i := t.height) (by omega) (Int.le_refl _)
    rw [hall] at hsound hgrid
    refine ⟨hsound, ?_, ?_⟩
    · rw [Table.height_insertRow]
      omega
    · rw [hgrid, Grid.height]
      congr 1
      omega
  · exact ⟨ht, by omega, rfl⟩

/-- A row is put in at the focus, or at the top of the body. -/
theorem makes_insertRow (ht : t.Sound o.margin) (hlt : f.row < t.height) (s : Option Session) :
    ∃ p, Command.insertRow.plan o s t f = .ok p ∧
      p.Makes o.margin t (t.grid.insertRow (max f.row 2 - 2).toNat)
        ⟨max f.row 2, 0, f.offset⟩ := by
  have htwo := ht.two_le_height
  have htarget : (if f.row ≤ 1 then f.withRow 2 else f).withColumn 0 =
      ⟨max f.row 2, 0, f.offset⟩ := by
    split
    · rw [Int.max_eq_right (by omega)]
      rfl
    · rw [Int.max_eq_left (by omega)]
      rfl
  obtain ⟨hsound, hgrid⟩ := ht.insertRow (i := max f.row 2) (by omega) (by omega)
  have hin : max f.row 2 <
      ((t.insertRow (max f.row 2) (Row.blank t.headerWidth)).height : Int) := by
    rw [Table.height_insertRow]
    omega
  have hpos : 0 ≤ max f.row 2 := by omega
  simp only [plan, htarget]
  exact ⟨_, rfl, ⟨hsound, hpos, hin, Or.inl rfl⟩, hgrid, rfl⟩

/-- From the delimiter row, or from the last column of the header, the cursor goes to the first row
of the body, which is put in if there is none. -/
theorem makes_nextCell_down (ht : t.Sound o.margin)
    (hdown : f.row = 1 ∨ (f.row = 0 ∧ (t.grid.header.length : Int) - 1 ≤ f.column)) :
    ∃ p, planNextCell o t f = .ok p ∧ p.Makes o.margin t (t.grid.growTo 2)
      ⟨2, if f.row = 1 ∧ o.smartCursor ∧ 0 ≤ f.column ∧ f.column < t.grid.header.length
        then f.column else 0, 0⟩ := by
  have htwo : (2 : Int) ≤ t.height := Int.ofNat_le.mpr ht.two_le_height
  obtain ⟨hsound, hin, hgrid⟩ := sound_growTo ht htwo
  have hpos : (0 : Int) ≤ 2 := by decide
  simp only [planNextCell, inHeader_iff, Table.headerWidth_eq, if_pos hdown]
  exact ⟨_, rfl, ⟨hsound, hpos, hin, Or.inl rfl⟩, hgrid, rfl⟩

section Changes

variable (ht : t.Sound o.margin) (hrow : 0 ≤ f.row) (hlt : f.row < t.height)

include ht hrow hlt

/-- The cursor goes to the row below, which is put in if there is none, and to the column that the
session returns to. -/
theorem makes_nextRow (s : Option Session) :
    (planNextRow o s t f).Makes o.margin t (t.grid.growTo (if f.row = 0 then 2 else f.row + 1))
      ⟨if f.row = 0 then 2 else f.row + 1, returnColumn o s t.grid f, f.offset⟩ := by
  have htarget : (planNextRow o s t f).landing.target? = some
      ⟨if f.row = 0 then 2 else f.row + 1, returnColumn o s t.grid f, f.offset⟩ := by
    simp only [planNextRow, Landing.target?, inHeader_iff, returnColumn]
    cases o.smartCursor with
    | false => rfl
    | true => cases Session.startColumn? s <;> rfl
  have htwo := ht.two_le_height
  have hle : (if f.row = 0 then 2 else f.row + 1) ≤ (t.height : Int) := by split <;> omega
  have hpos : 0 ≤ (if f.row = 0 then 2 else f.row + 1) := by split <;> omega
  obtain ⟨hsound, hin, hgrid⟩ := sound_growTo ht hle
  exact ⟨⟨hsound, hpos, hin, Or.inl rfl⟩, hgrid, htarget⟩

/-- A row of the body is taken out, and the cursor goes to the row that takes its place, or else to
the row of text above it. -/
theorem makes_deleteRow :
    ∃ p, planDeleteRow t f = .ok p ∧ p.Makes o.margin t
      (if 2 ≤ f.row then t.grid.deleteRow (f.row - 2).toNat else t.grid)
      (f.withRow (if f.row < 2 ∨ f.row + 1 < t.grid.height then f.row
        else if 2 < f.row then f.row - 1 else 0)) := by
  have hall := ht.complete.height_eq
  rw [planDeleteRow]
  split
  · next hbody =>
    obtain ⟨t', hok, hsound, hheight, hgrid⟩ := ht.deleteRow hbody hlt
    have htwo := hsound.two_le_height
    have htarget : (if (t'.height : Int) - 1 < f.row then if f.row = 2 then 0 else f.row - 1
        else f.row) = if f.row < 2 ∨ f.row + 1 < t.grid.height then f.row
          else if 2 < f.row then f.row - 1 else 0 := by
      split <;> split <;> (try split) <;> omega
    have hwithin : ∀ row, row = (if f.row < 2 ∨ f.row + 1 < t.grid.height then f.row
        else if 2 < f.row then f.row - 1 else 0) → 0 ≤ row ∧ row < t'.height := by
      rintro row rfl
      split
      · omega
      · split <;> omega
    obtain ⟨hrow', hlt'⟩ := hwithin _ rfl
    have hbody' : 2 ≤ f.row := hbody
    simp only [hok, Except.map, htarget, if_pos hbody']
    exact ⟨_, rfl, ⟨hsound, hrow', hlt', Or.inl rfl⟩, hgrid, rfl⟩
  · next hbody =>
    rw [if_neg (by omega), if_pos (Or.inl (by omega))]
    exact ⟨_, rfl, soundFor_stay ht hrow hlt _ _ _, rfl, rfl⟩

/-- A row of the body is moved, and the cursor goes with it. -/
theorem makes_moveRow (rows : Int) :
    ∃ p, planMoveRow t f rows = .ok p ∧ p.Makes o.margin t
      (if 2 ≤ f.row then t.grid.moveRow (f.row - 2).toNat
        (min (max (f.row + rows) 2) ((t.grid.height : Int) - 1) - 2).toNat else t.grid)
      (f.withRow (if 2 ≤ f.row then min (max (f.row + rows) 2) ((t.grid.height : Int) - 1)
        else f.row)) := by
  simp only [planMoveRow, ← ht.complete.height_eq]
  split
  · next hbody =>
    have hge : 1 < min (max (f.row + rows) 2) ((t.height : Int) - 1) := by omega
    have hle : min (max (f.row + rows) 2) ((t.height : Int) - 1) < t.height := by omega
    obtain ⟨t', hok, hsound, hheight, hgrid⟩ := ht.moveRow hbody hlt hge hle
    have hpos : 0 ≤ min (max (f.row + rows) 2) ((t.height : Int) - 1) := by omega
    have hle' := hle.trans_eq (congrArg Nat.cast hheight.symm)
    rw [hok, if_pos (by omega), if_pos (by omega)]
    exact ⟨_, rfl, ⟨hsound, hpos, hle', Or.inr rfl⟩, hgrid, rfl⟩
  · next hbody =>
    rw [if_neg (by omega), if_neg (by omega)]
    exact ⟨_, rfl, soundFor_stay ht hrow hlt _ _ _, rfl, rfl⟩

/-- A column is put in at the focus, and the cursor goes to it. -/
theorem makes_insertColumn :
    ∃ p, planInsertColumn o t f = .ok p ∧ p.Makes o.margin t
      (t.grid.insertColumn (min (max f.column 0) (t.grid.header.length : Int)).toNat)
      ((offDelimiter f).withColumn (min (max f.column 0) (t.grid.header.length : Int))) := by
  obtain ⟨hrow', hlt'⟩ := offDelimiter_within hrow hlt
  have hge : 0 ≤ min (max f.column 0) (t.headerWidth : Int) := by omega
  have hle : min (max f.column 0) (t.headerWidth : Int) ≤ t.headerWidth := by omega
  obtain ⟨t', hok, hsound, hheight, hgrid⟩ := ht.insertColumn o.minDelimiterWidth_pos hge hle
  rw [← hheight] at hlt'
  simp only [planInsertColumn, blankColumn, hok, ← Table.headerWidth_eq]
  exact ⟨_, rfl, ⟨hsound, hrow', hlt', Or.inl rfl⟩, hgrid, rfl⟩

/-- A column of the header is taken out if it is not the last one, and the cursor goes to the column
that takes its place, or else to the one before. -/
theorem makes_deleteColumn :
    ∃ p, planDeleteColumn t f = .ok p ∧ p.Makes o.margin t
      (if 2 ≤ t.grid.header.length ∧ 0 ≤ f.column ∧ f.column < t.grid.header.length then
        t.grid.deleteColumn f.column.toNat else t.grid)
      ((offDelimiter f).withColumn
        (if 2 ≤ t.grid.header.length ∧ 0 ≤ f.column ∧ f.column < t.grid.header.length then
          min f.column ((t.grid.header.length : Int) - 2) else f.column)) := by
  obtain ⟨hrow', hlt'⟩ := offDelimiter_within hrow hlt
  have hcolumn : (offDelimiter f).column = f.column := by
    rw [offDelimiter]
    split <;> rfl
  have hsame : (offDelimiter f).withColumn f.column = offDelimiter f := by
    rw [← hcolumn]
    rfl
  simp only [planDeleteColumn]
  split
  · next hin =>
    rw [hcolumn, inHeader_iff, ← Table.headerWidth_eq] at hin
    obtain ⟨t', hok, hsound, hheight, hgrid⟩ := ht.deleteColumn hin.1 hin.2
    rw [← hheight] at hlt'
    have htarget : min f.column ((t'.headerWidth : Int) - 1) = if 2 ≤ t.headerWidth then
        min f.column ((t.headerWidth : Int) - 2) else f.column := by
      rw [Table.headerWidth_eq t', hgrid]
      split
      · next htwo =>
        have hlen := Grid.length_header_deleteColumn (g := t.grid) (j := f.column.toNat)
          (by rw [← Table.headerWidth_eq]; omega)
        have htwo' : 2 ≤ t.headerWidth := htwo
        rw [if_pos htwo']
        rw [← Table.headerWidth_eq] at hlen
        omega
      · next htwo =>
        have htwo' : ¬ 2 ≤ t.headerWidth := htwo
        rw [if_neg htwo', ← Table.headerWidth_eq]
        omega
    simp only [hcolumn, hok, ← Table.headerWidth_eq, hin, and_true, Except.map, htarget]
    exact ⟨_, rfl, ⟨hsound, hrow', hlt', Or.inr rfl⟩, hgrid, rfl⟩
  · next hin =>
    rw [hcolumn, inHeader_iff] at hin
    rw [if_neg fun h => hin h.2, if_neg fun h => hin h.2, hsame]
    exact ⟨_, rfl, soundFor_stay ht hrow' hlt' _ _ _, rfl, rfl⟩

/-- Elsewhere, the cursor goes one column on, and if the header has no such column, it is put in. -/
theorem makes_nextCell_along
    (halong : ¬ (f.row = 1 ∨ (f.row = 0 ∧ (t.grid.header.length : Int) - 1 ≤ f.column))) :
    ∃ p, planNextCell o t f = .ok p ∧ p.Makes o.margin t
      (if (t.grid.header.length : Int) ≤ f.column + 1 then
        t.grid.insertColumn t.grid.header.length else t.grid)
      (f.withColumn (min (f.column + 1) t.grid.header.length)) := by
  simp only [planNextCell, Table.headerWidth_eq, if_neg halong]
  split
  · next hlast =>
    obtain ⟨t', hok, hsound, hheight, hgrid⟩ :=
      ht.insertColumn o.minDelimiterWidth_pos (Int.natCast_nonneg _) (Int.le_refl _)
    rw [← hheight] at hlt
    rw [Table.headerWidth_eq] at hok hgrid
    rw [if_pos (by omega), blankColumn, hok]
    have hwidth : (t'.headerWidth : Int) - 1 = t.grid.header.length := by
      rw [Table.headerWidth_eq, hgrid, Int.toNat_natCast,
        Grid.length_header_insertColumn (Nat.le_refl _)]
      omega
    simp only [Except.map, Table.headerWidth_eq, ← hwidth]
    exact ⟨_, rfl, ⟨hsound, hrow, hlt, Or.inl rfl⟩, hgrid, rfl⟩
  · next hlast =>
    rw [if_neg (by omega)]
    have hcolumn : min (f.column + 1) ((t.grid.header.length : Int) - 1) =
        min (f.column + 1) t.grid.header.length := by omega
    simp only [Except.map, hcolumn]
    exact ⟨_, rfl, ⟨ht, hrow, hlt, Or.inl rfl⟩, rfl, rfl⟩

end Changes

/-! ## All plans -/

/-- Every command but that of moving a column has a plan that keeps the table sound. -/
theorem exists_plan (ht : t.Sound o.margin) (hrow : 0 ≤ f.row) (hlt : f.row < t.height)
    (s : Option Session) {c : Command} (hc : ∀ columns, c ≠ .moveColumn columns) :
    ∃ p, c.plan o s t f = .ok p ∧ p.SoundFor o.margin t := by
  cases c with
  | format => exact ⟨_, rfl, soundFor_stay ht hrow hlt _ _ _⟩
  | escape => exact ⟨_, rfl, ht, rfl⟩
  | alignColumn a => exact ⟨_, rfl, (makes_alignColumn ht hrow hlt _ _).soundFor⟩
  | selectCell => exact ⟨_, rfl, soundFor_stay ht hrow hlt _ _ _⟩
  | moveFocus rows columns =>
    obtain ⟨hrow', hlt'⟩ := moveTarget_within hrow hlt rows columns
    exact ⟨_, rfl, soundFor_stay ht hrow' hlt' _ _ _⟩
  | nextCell =>
    by_cases hdown : f.row = 1 ∨ (f.row = 0 ∧ (t.grid.header.length : Int) - 1 ≤ f.column)
    · obtain ⟨p, hplan, hp⟩ := makes_nextCell_down ht hdown
      exact ⟨p, hplan, hp.soundFor⟩
    · obtain ⟨p, hplan, hp⟩ := makes_nextCell_along ht hrow hlt hdown
      exact ⟨p, hplan, hp.soundFor⟩
  | previousCell =>
    obtain ⟨hrow', hlt'⟩ := previousTarget_within hrow hlt
    exact ⟨_, rfl, soundFor_stay ht hrow' hlt' _ _ _⟩
  | nextRow => exact ⟨_, rfl, (makes_nextRow ht hrow hlt s).soundFor⟩
  | insertRow =>
    obtain ⟨p, hplan, hp⟩ := makes_insertRow ht hlt s
    exact ⟨p, hplan, hp.soundFor⟩
  | deleteRow =>
    obtain ⟨p, hplan, hp⟩ := makes_deleteRow ht hrow hlt
    exact ⟨p, hplan, hp.soundFor⟩
  | moveRow rows =>
    obtain ⟨p, hplan, hp⟩ := makes_moveRow ht hrow hlt rows
    exact ⟨p, hplan, hp.soundFor⟩
  | insertColumn =>
    obtain ⟨p, hplan, hp⟩ := makes_insertColumn ht hrow hlt
    exact ⟨p, hplan, hp.soundFor⟩
  | deleteColumn =>
    obtain ⟨p, hplan, hp⟩ := makes_deleteColumn ht hrow hlt
    exact ⟨p, hplan, hp.soundFor⟩
  | moveColumn columns => exact absurd rfl (hc columns)

/-- A column of the header is moved, and the cursor goes with it, if this keeps the contents of the
table apart. -/
theorem makes_moveColumn (ht : t.Sound o.margin) (hrow : 0 ≤ f.row) (hlt : f.row < t.height)
    (hcolumn : 0 ≤ f.column) (hin : f.column < t.grid.header.length) (columns : Int)
    (hapart : (t.grid.moveColumn f.column.toNat
      (min (max (f.column + columns) 0) ((t.grid.header.length : Int) - 1)).toNat).Apart) :
    ∃ p, planMoveColumn t f columns = .ok p ∧ p.table.marginLeft = t.marginLeft ∧
      p.Makes o.margin t
        (t.grid.moveColumn f.column.toNat
          (min (max (f.column + columns) 0) ((t.grid.header.length : Int) - 1)).toNat)
        (f.withColumn (min (max (f.column + columns) 0) ((t.grid.header.length : Int) - 1))) := by
  have hheader := inHeader_iff.mpr ⟨hcolumn, hin⟩
  rw [← Table.headerWidth_eq] at hin hapart ⊢
  obtain ⟨t', hok, hsound, hshape, hmargin, hgrid⟩ := ht.moveColumn hcolumn hin (by omega)
    (by omega) hapart
  rw [← hshape.height_eq] at hlt
  simp only [planMoveColumn, hheader, if_true, hok]
  exact ⟨_, rfl, hmargin, ⟨hsound, hrow, hlt, Or.inr rfl⟩, hgrid, rfl⟩

/-- A column of a complete table can be moved, whether the contents stay apart or not. -/
theorem completeFor_moveColumn (ht : t.Complete) (hrow : 0 ≤ f.row) (hlt : f.row < t.height)
    (columns : Int) : ∃ p, planMoveColumn t f columns = .ok p ∧ p.CompleteFor t := by
  simp only [planMoveColumn]
  split
  · next hin =>
    rw [inHeader, Bool.and_eq_true, decide_eq_true_iff, decide_eq_true_iff] at hin
    have hge : 0 ≤ min (max (f.column + columns) 0) ((t.headerWidth : Int) - 1) := by omega
    have hle : min (max (f.column + columns) 0) ((t.headerWidth : Int) - 1) < t.headerWidth := by
      omega
    obtain ⟨t', hok, hcomplete, hshape, -⟩ := ht.moveColumn hin.1 hin.2 hge hle
    rw [hok]
    rw [← hshape.height_eq] at hlt
    exact ⟨_, rfl, hcomplete, hrow, hlt, Or.inr rfl⟩
  · exact ⟨_, rfl, ht, hrow, hlt, Or.inr rfl⟩

/-- Every command has a plan that keeps the table complete. -/
theorem exists_plan_complete (ht : t.Sound o.margin) (hrow : 0 ≤ f.row) (hlt : f.row < t.height)
    (s : Option Session) (c : Command) : ∃ p, c.plan o s t f = .ok p ∧ p.CompleteFor t := by
  by_cases hc : ∃ columns, c = .moveColumn columns
  · obtain ⟨columns, rfl⟩ := hc
    exact completeFor_moveColumn ht.complete hrow hlt columns
  · obtain ⟨p, hplan, hp⟩ :=
      exists_plan ht hrow hlt s fun columns heq => hc ⟨columns, heq⟩
    exact ⟨p, hplan, hp.completeFor⟩

end Command

end TextTable
