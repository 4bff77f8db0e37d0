import TextTable.Proofs.Cell
import TextTable.Proofs.Table.RoundTrip
import TextTable.Table.Coordinates

/-!
# Places that layout keeps

A position on the screen and a focus in a table say the same thing only as long as the position lies
in some content, at the end of the margin or behind the last pipe (`keeps_content`, `keeps_margin`,
`keeps_end`). A cursor that was put into a laid out table is always at such a place
(`keeps_landing`, `keeps_span`). So another layout finds it where it puts it: the table *keeps* its
position (`Keeps`).

What a command needs to know of the place where it puts the cursor is that it is kept, that it is in
the row of its focus (`spot_row`), and that the focus is found there again (`focusAt?_spot`).
-/

namespace TextTable

namespace Row

/-! ## Columns of a row -/

theorem length_cellsText_cons (c : Cell) (cells : List Cell) :
    (cellsText (c :: cells)).length = c.raw.length + 1 + (cellsText cells).length := by
  rw [cellsText_cons, List.length_append, List.length_cons]
  omega

/-- The columns of a cell and of the pipe behind it belong to the cell. -/
theorem locate_cell {c : Cell} {x : Nat} (hx : x ≤ c.raw.length) :
    ∀ {j : Nat} {cells : List Cell}, cells[j]? = some c →
      locate cells ((cellsText (cells.take j)).length + x) = (j, x)
  | _, [], hc => absurd hc (by simp)
  | 0, d :: cells, hc => by
      obtain rfl : d = c := Option.some.inj hc
      rw [List.take_zero, locate]
      simp [cellsText, hx]
  | j + 1, d :: cells, hc => by
      have hcell : cells[j]? = some c := hc
      have ih := locate_cell hx hcell
      rw [List.take_succ_cons, length_cellsText_cons, locate, if_neg (by omega)]
      have hrest : d.raw.length + 1 + (cellsText (cells.take j)).length + x - (d.raw.length + 1) =
          (cellsText (cells.take j)).length + x := by omega
      rw [hrest, ih]

/-- All that follows the last pipe belongs to no cell. -/
theorem locate_behind (x : Nat) :
    ∀ cells : List Cell, locate cells ((cellsText cells).length + x) = (cells.length, x)
  | [] => by simp [cellsText, locate]
  | c :: cells => by
      have hrest : c.raw.length + 1 + (cellsText cells).length + x - (c.raw.length + 1) =
          (cellsText cells).length + x := by omega
      rw [length_cellsText_cons, locate, if_neg (by omega), hrest, locate_behind x cells]
      rfl

/-- Behind the last cell is the end of the text of the cells. -/
theorem columnStart_width (r : Row) :
    r.columnStart r.width = r.marginLeft.length + 1 + (cellsText r.cells).length := by
  rw [columnStart, width, List.take_length]

@[simp] theorem cellsText_append (cells cells' : List Cell) :
    cellsText (cells ++ cells') = cellsText cells ++ cellsText cells' := List.flatMap_append

/-- Behind the last cell, no further column begins. -/
theorem columnStart_of_le {r : Row} {j : Nat} (hj : r.width ≤ j) :
    r.columnStart j = r.columnStart r.width := by
  rw [columnStart, columnStart, List.take_of_length_le hj, width, List.take_length]

/-- The columns where cells begin and end are columns of the row's line. -/
theorem columnStart_add_le {r : Row} (hr : r.cells ≠ []) {before behind : List Cell} {n : Nat}
    (hcells : r.cells = before ++ behind) (hn : n ≤ (cellsText behind).length) :
    r.marginLeft.length + 1 + (cellsText before).length + n ≤ r.text.length := by
  rw [text, if_neg hr, hcells, cellsText_append]
  simp only [List.length_append, List.length_cons]
  omega

@[simp] theorem cell?_natCast (r : Row) (j : Nat) : r.cell? j = r.cells[j]? := by
  rw [cell?, if_pos (Int.natCast_nonneg j), Int.toNat_natCast]

theorem cell?_of_neg (r : Row) {j : Int} (hj : j < 0) : r.cell? j = none := by
  rw [cell?, if_neg (Int.not_le.mpr hj)]

end Row

namespace Table

variable {t : Table} {top : Int} {i : Nat} {r : Row}

@[simp] theorem row?_natCast (t : Table) (i : Nat) : t.row? i = t.rows[i]? := by
  rw [row?, if_pos (Int.natCast_nonneg i), Int.toNat_natCast]

theorem focusedCell?_eq (hr : t.rows[i]? = some r) (j x : Int) :
    t.focusedCell? ⟨i, j, x⟩ = r.cell? j := by
  simp [focusedCell?, Table.cell?, hr]

/-- A cell that a focus is in has a row and a column in the table. -/
theorem exists_of_focusedCell? {f : Focus} {c : Cell} (h : t.focusedCell? f = some c) :
    ∃ (i j : Nat) (r : Row), f.row = i ∧ f.column = j ∧ t.rows[i]? = some r ∧
      r.cells[j]? = some c := by
  rw [focusedCell?, Table.cell?, Option.bind_eq_some_iff] at h
  obtain ⟨r, hr, hc⟩ := h
  rw [row?, Option.ite_none_right_eq_some] at hr
  rw [Row.cell?, Option.ite_none_right_eq_some] at hc
  exact ⟨f.row.toNat, f.column.toNat, r, (Int.toNat_of_nonneg hr.1).symm,
    (Int.toNat_of_nonneg hc.1).symm, hr.2, hc.2⟩

/-- A focus before the first cell keeps its offset as its column; any other one counts from the
start of its cell. -/
theorem positionOf?_eq (hr : t.rows[i]? = some r) (j x : Int) :
    t.positionOf? ⟨i, j, x⟩ top =
      some (if j < 0 then ⟨i + top, x⟩ else ⟨i + top, r.columnStart j.toNat + x⟩) := by
  simp [positionOf?, hr]

/-! ## Offsets in a laid out table -/

/-- In a cell, the offset is a place in the content. -/
theorem offsetAfter_cell {f : Focus} {before : Table} {moved : Bool} {c : Cell}
    (hc : t.focusedCell? f = some c) (hb : moved = true ∨ (before.focusedCell? f).isSome = true) :
    ∃ q : Nat, q ≤ c.content.length ∧ offsetAfter f before t moved = c.rawOffset q := by
  cases moved with
  | true => exact ⟨0, Nat.zero_le _, by simp [offsetAfter, hc]⟩
  | false =>
    obtain ⟨b, hb⟩ := Option.isSome_iff_exists.mp (hb.resolve_left Bool.false_ne_true)
    refine ⟨min (b.contentOffset f.offset) c.content.length, Nat.min_le_right _ _, ?_⟩
    simp only [offsetAfter, hc, hb]
    congr 1
    omega

/-- Off the cells, the offset is the end of the margin, or nothing. -/
theorem offsetAfter_off {f : Focus} {before : Table} {moved : Bool}
    (hc : t.focusedCell? f = none) :
    offsetAfter f before t moved = if f.column < 0 then (t.marginLeft.length : Int) else 0 := by
  simp only [offsetAfter, hc]

/-! ## Positions that are kept -/

/-- All rows have the margin of the header. -/
def Flush (t : Table) : Prop := ∀ r ∈ t.rows, r.marginLeft = t.marginLeft

/-- A cursor on the position `p` stays where it is when the table, which begins on the row `top`, is
laid out as it already is. -/
def Keeps (t : Table) (top : Int) (p : Position) : Prop :=
  ∃ f, t.focusAt? p top = some f ∧
    t.positionOf? (f.withOffset (offsetAfter f t t false)) top = some p

/-- Up to the first pipe, a position is in the margin. -/
theorem focusAt?_margin (hr : t.rows[i]? = some r) {x : Int} (hx : x < r.marginLeft.length + 1) :
    t.focusAt? ⟨i + top, x⟩ top = some ⟨i, -1, x⟩ := by
  rw [focusAt?, Int.add_sub_cancel, row?_natCast, hr, Option.map_some, if_pos hx]

/-- Behind the first pipe, a position is located in the text of the cells. -/
theorem focusAt?_cells (top : Int) (hr : t.rows[i]? = some r) (x : Nat) :
    t.focusAt? ⟨i + top, r.marginLeft.length + 1 + x⟩ top =
      some ⟨i, (Row.locate r.cells x).1, (Row.locate r.cells x).2⟩ := by
  have hx : ((r.marginLeft.length : Int) + 1 + x - (r.marginLeft.length + 1)).toNat = x := by omega
  have hbehind : ¬ (r.marginLeft.length : Int) + 1 + x < r.marginLeft.length + 1 := by omega
  rw [focusAt?, Int.add_sub_cancel, row?_natCast, hr, Option.map_some, if_neg hbehind, hx]

/-- The end of the margin is kept. -/
theorem keeps_margin (hr : t.rows[i]? = some r) (ht : r.marginLeft = t.marginLeft) :
    t.Keeps top ⟨i + top, t.marginLeft.length⟩ := by
  refine ⟨_, focusAt?_margin hr (by rw [ht]; omega), ?_⟩
  have hoff : t.focusedCell? ⟨i, -1, t.marginLeft.length⟩ = none :=
    (focusedCell?_eq hr _ _).trans (r.cell?_of_neg (by decide))
  rw [offsetAfter_off hoff]
  exact positionOf?_eq hr _ _

/-- A place in the content of a cell is in this cell. -/
theorem focusAt?_content (top : Int) (hr : t.rows[i]? = some r) {j : Nat} {c : Cell}
    (hc : r.cells[j]? = some c) {q : Nat} (hq : q ≤ c.content.length) :
    t.focusAt? ⟨i + top, r.columnStart j + c.rawOffset q⟩ top = some ⟨i, j, c.rawOffset q⟩ := by
  -- the place is in the cell and not on the pipe behind it
  have hin : c.paddingLeft + q ≤ c.raw.length :=
    (Nat.add_le_add_left hq _).trans c.paddingLeft_add_le
  have hcolumn : (r.columnStart j : Int) + c.rawOffset q = r.marginLeft.length + 1 +
      ((Row.cellsText (r.cells.take j)).length + (c.paddingLeft + q) : Nat) := by
    rw [Row.columnStart, Cell.rawOffset]
    omega
  have hoffset : ((c.paddingLeft + q : Nat) : Int) = c.rawOffset q := by
    rw [Cell.rawOffset]
    omega
  rw [hcolumn, focusAt?_cells top hr, Row.locate_cell hin hc, hoffset]

/-- A place in the content of a cell is kept. -/
theorem keeps_content (top : Int) (hr : t.rows[i]? = some r) {j : Nat} {c : Cell}
    (hc : r.cells[j]? = some c) {q : Nat} (hq : q ≤ c.content.length) :
    t.Keeps top ⟨i + top, r.columnStart j + c.rawOffset q⟩ := by
  refine ⟨_, focusAt?_content top hr hc hq, ?_⟩
  have hcell : t.focusedCell? ⟨i, j, c.rawOffset q⟩ = some c := by
    simp [focusedCell?_eq hr, hc]
  have hafter : offsetAfter ⟨i, j, c.rawOffset q⟩ t t false = c.rawOffset q := by
    simp only [offsetAfter, hcell, c.contentOffset_rawOffset hq]
    rw [Int.min_eq_left (Int.ofNat_le.mpr hq)]
  rw [hafter]
  refine (positionOf?_eq hr _ _).trans ?_
  rw [if_neg (Int.not_lt.mpr (Int.natCast_nonneg j)), Int.toNat_natCast]

/-- The place behind the last pipe is in the column after the last cell. -/
theorem focusAt?_end (top : Int) (hr : t.rows[i]? = some r) :
    t.focusAt? ⟨i + top, r.columnStart r.width⟩ top = some ⟨i, r.width, 0⟩ := by
  have hcolumn : (r.columnStart r.width : Int) =
      r.marginLeft.length + 1 + ((Row.cellsText r.cells).length + 0 : Nat) := by
    rw [Row.columnStart_width]
    omega
  have hfocus := focusAt?_cells top hr ((Row.cellsText r.cells).length + 0)
  rwa [← hcolumn, Row.locate_behind] at hfocus

/-- Behind the last cell, no focus is in a cell. -/
theorem focusedCell?_behind (hr : t.rows[i]? = some r) {j : Nat} (hj : r.width ≤ j) (x : Int) :
    t.focusedCell? ⟨i, j, x⟩ = none := by
  simp [focusedCell?_eq hr, List.getElem?_eq_none hj]

/-- The place behind the last pipe is kept. -/
theorem keeps_end (hr : t.rows[i]? = some r) :
    t.Keeps top ⟨i + top, r.columnStart r.width⟩ := by
  refine ⟨_, focusAt?_end top hr, ?_⟩
  have hright : ¬ ((r.width : Nat) : Int) < 0 := Int.not_lt.mpr (Int.natCast_nonneg _)
  rw [offsetAfter_off (focusedCell?_behind hr (Nat.le_refl _) _), if_neg hright]
  refine (positionOf?_eq hr _ _).trans ?_
  rw [if_neg hright, Int.toNat_natCast, Int.add_zero]

/-- A place that a table keeps is in one of its lines. -/
theorem Keeps.in_line {p : Position} (h : t.Keeps top p) (hflush : t.Flush)
    (hfilled : ∀ r ∈ t.rows, r.cells ≠ []) :
    ∃ (i : Nat) (r : Row), t.rows[i]? = some r ∧ p.row = i + top ∧ 0 ≤ p.column ∧
      p.column ≤ r.text.length := by
  obtain ⟨⟨row, column, x⟩, -, hposition⟩ := h
  obtain ⟨r, hfound, -⟩ := Option.map_eq_some_iff.mp hposition
  rw [row?, Option.ite_none_right_eq_some] at hfound
  obtain ⟨i, rfl⟩ : ∃ i : Nat, row = i := Int.eq_ofNat_of_zero_le hfound.1
  have hr : t.rows[i]? = some r := hfound.2
  have hmem := List.mem_of_getElem? hr
  have hcells := hfilled r hmem
  have hp := Option.some.inj (hposition.symm.trans (positionOf?_eq hr column _))
  refine ⟨i, r, hr, ?_⟩
  by_cases hneg : column < 0
  · have hoff : t.focusedCell? ⟨i, column, x⟩ = none :=
      (focusedCell?_eq hr _ _).trans (Row.cell?_of_neg _ hneg)
    have hle := Row.columnStart_add_le hcells (List.nil_append r.cells).symm (Nat.zero_le _)
    rw [hflush r hmem] at hle
    rw [if_pos hneg, offsetAfter_off hoff, if_pos hneg] at hp
    rw [hp]
    exact ⟨rfl, Int.natCast_nonneg _, by dsimp only; omega⟩
  · obtain ⟨j, rfl⟩ := Int.eq_ofNat_of_zero_le (Int.not_lt.mp hneg)
    have hcell := (focusedCell?_eq hr j x).trans (Row.cell?_natCast _ j)
    rw [if_neg hneg, Int.toNat_natCast, Row.columnStart] at hp
    cases hc : r.cells[j]? with
    | some c =>
      rw [hc] at hcell
      have hsome : false = true ∨ (t.focusedCell? ⟨i, j, x⟩).isSome = true := by
        rw [hcell]
        exact Or.inr rfl
      obtain ⟨q, hq, hafter⟩ := offsetAfter_cell hcell hsome
      have hbehind : c.paddingLeft + q ≤ (Row.cellsText (r.cells.drop j)).length := by
        have hraw := c.paddingLeft_add_le
        rw [List.drop_eq_getElem_cons (List.getElem?_eq_some_iff.mp hc).1,
          (List.getElem?_eq_some_iff.mp hc).2, Row.length_cellsText_cons]
        omega
      have hle := Row.columnStart_add_le hcells (List.take_append_drop j r.cells).symm hbehind
      rw [hafter, Cell.rawOffset] at hp
      rw [hp]
      exact ⟨rfl, by dsimp only; omega, by dsimp only; omega⟩
    | none =>
      rw [hc] at hcell
      have hle := Row.columnStart_add_le hcells (List.take_append_drop j r.cells).symm
        (Nat.zero_le _)
      rw [offsetAfter_off hcell, if_neg hneg] at hp
      rw [hp]
      exact ⟨rfl, by dsimp only; omega, by dsimp only; omega⟩

/-! ## Landings -/

/-- The tables have the same number of cells in each row. -/
def SameShape (t u : Table) : Prop := t.rows.map Row.width = u.rows.map Row.width

/-- Tables of one shape have cells at the same places. -/
theorem SameShape.focusedCell?_isSome {u : Table} (h : t.SameShape u) {f : Focus}
    (hf : (t.focusedCell? f).isSome = true) : (u.focusedCell? f).isSome = true := by
  obtain ⟨c, hc⟩ := Option.isSome_iff_exists.mp hf
  obtain ⟨row, column, x⟩ := f
  obtain ⟨i, j, r, rfl, rfl, hr, hc⟩ := exists_of_focusedCell? hc
  have hwidth := congrArg (·[i]?) h
  simp only [List.getElem?_map, hr, Option.map_some] at hwidth
  obtain ⟨r', hr', hlen⟩ := Option.map_eq_some_iff.mp hwidth.symm
  have hlt : j < r'.cells.length :=
    (List.getElem?_eq_some_iff.mp hc).1.trans_eq hlen.symm
  simp [focusedCell?_eq hr', List.getElem?_eq_getElem hlt]

/-- The position of a cursor that is put into a laid out table is kept, whichever of its rows the
cursor is in. -/
theorem keeps_landing (top : Int) (ht : t.Flush) {f : Focus} (hrow : 0 ≤ f.row)
    (hlt : f.row < t.height) {before : Table} {moved : Bool}
    (hb : moved = true ∨ t.SameShape before) :
    ∃ p, t.positionOf? (f.withOffset (offsetAfter f before t moved)) top = some p ∧
      t.Keeps top p := by
  obtain ⟨row, column, x⟩ := f
  obtain ⟨i, rfl⟩ := Int.eq_ofNat_of_zero_le hrow
  have hi : i < t.rows.length := Int.ofNat_lt.mp hlt
  have hr : t.rows[i]? = some t.rows[i] := List.getElem?_eq_getElem hi
  have hmargin := ht _ (List.getElem_mem hi)
  refine ⟨_, positionOf?_eq hr _ _, ?_⟩
  by_cases hneg : column < 0
  · have hoff : t.focusedCell? ⟨i, column, x⟩ = none :=
      (focusedCell?_eq hr _ _).trans (Row.cell?_of_neg _ hneg)
    rw [if_pos hneg, offsetAfter_off hoff, if_pos hneg]
    exact keeps_margin hr hmargin
  · obtain ⟨j, rfl⟩ := Int.eq_ofNat_of_zero_le (Int.not_lt.mp hneg)
    rw [if_neg hneg, Int.toNat_natCast]
    have hcell := (focusedCell?_eq hr j x).trans (Row.cell?_natCast _ j)
    cases hc : t.rows[i].cells[j]? with
    | some c =>
      rw [hc] at hcell
      have hbefore : moved = true ∨ (before.focusedCell? ⟨i, j, x⟩).isSome = true :=
        hb.imp_right fun h => h.focusedCell?_isSome (by rw [hcell]; rfl)
      obtain ⟨q, hq, hafter⟩ := offsetAfter_cell hcell hbefore
      rw [hafter]
      exact keeps_content top hr hc hq
    | none =>
      -- however far behind the last cell the focus is, the cursor goes right behind the last pipe
      rw [hc] at hcell
      rw [offsetAfter_off hcell, if_neg hneg, Int.add_zero,
        Row.columnStart_of_le (List.getElem?_eq_none_iff.mp hc)]
      exact keeps_end hr

/-- A content that can be selected is not empty and stands in its cell behind the left padding. -/
theorem exists_of_contentSpan? {f : Focus} {span : Span} (h : t.contentSpan? f top = some span) :
    ∃ (i j : Nat) (r : Row) (c : Cell), t.rows[i]? = some r ∧ r.cells[j]? = some c ∧
      c.content ≠ [] ∧ f.row = i ∧ f.column = j ∧
      span = ⟨⟨i + top, (r.columnStart j + c.paddingLeft : Nat)⟩,
        ⟨i + top, (r.columnStart j + c.paddingLeft + c.content.length : Nat)⟩⟩ := by
  obtain ⟨row, column, x⟩ := f
  rw [contentSpan?, Option.bind_eq_some_iff] at h
  obtain ⟨r, hr, h⟩ := h
  rw [Option.bind_eq_some_iff] at h
  obtain ⟨c, hc, h⟩ := h
  rw [row?, Option.ite_none_right_eq_some] at hr
  rw [Row.cell?, Option.ite_none_right_eq_some] at hc
  obtain ⟨hrow, hr⟩ := hr
  obtain ⟨hcolumn, hc⟩ := hc
  obtain ⟨i, rfl⟩ := Int.eq_ofNat_of_zero_le hrow
  obtain ⟨j, rfl⟩ := Int.eq_ofNat_of_zero_le hcolumn
  split at h
  · cases h
  · next hne => exact ⟨i, j, r, c, hr, hc, hne, rfl, rfl, (Option.some.inj h).symm⟩

/-- A content that can be selected ends in its cell. -/
theorem contentSpan?_stop {f : Focus} {span : Span} (h : t.contentSpan? f top = some span) :
    ∃ (i j : Nat) (r : Row) (c : Cell), t.rows[i]? = some r ∧ r.cells[j]? = some c ∧ f.row = i ∧
      f.column = j ∧ span.stop = ⟨i + top, r.columnStart j + c.rawOffset c.content.length⟩ := by
  obtain ⟨i, j, r, c, hr, hc, -, hrow, hcolumn, rfl⟩ := exists_of_contentSpan? h
  refine ⟨i, j, r, c, hr, hc, hrow, hcolumn, congrArg (Position.mk _) ?_⟩
  rw [Cell.rawOffset]
  omega

/-- The position at the end of a selected content is kept. -/
theorem keeps_span {f : Focus} {span : Span} (h : t.contentSpan? f top = some span) :
    t.Keeps top span.stop := by
  obtain ⟨i, j, r, c, hr, hc, -, -, hstop⟩ := contentSpan?_stop h
  rw [hstop]
  exact keeps_content top hr hc (Nat.le_refl _)

/-- The position for a cursor that is put on a focus: the end of the content there if it is to be
selected, and else where the focus is. Off the table, a cursor stays at `p`. -/
def spot (t : Table) (f : Focus) (top : Int) (selected : Bool) (p : Position) : Position :=
  match if selected then t.contentSpan? f top else none with
  | some span => span.stop
  | none => (t.positionOf? f top).getD p

/-- A spot is kept, be it a position or the end of a selection. -/
theorem keeps_spot {f : Focus} {p : Position} (hp : t.positionOf? f top = some p)
    (hkeeps : t.Keeps top p) (selected : Bool) (q : Position) :
    t.Keeps top (t.spot f top selected q) := by
  rw [spot]
  cases hspan : if selected then t.contentSpan? f top else none with
  | some span =>
    rw [Option.ite_none_right_eq_some] at hspan
    exact keeps_span hspan.2
  | none =>
    rw [hp]
    exact hkeeps

/-- The spot of a focus on a row of the table is on this row. -/
theorem spot_row (top x : Int) {f : Focus} (hrow : 0 ≤ f.row) (hlt : f.row < t.height)
    (selected : Bool) (p : Position) :
    (t.spot (f.withOffset x) top selected p).row = f.row + top := by
  rw [spot]
  cases hspan : if selected then t.contentSpan? (f.withOffset x) top else none with
  | some span =>
    rw [Option.ite_none_right_eq_some] at hspan
    obtain ⟨i, j, r, c, -, -, hi, -, hstop⟩ := contentSpan?_stop hspan.2
    have hi : f.row = i := hi
    rw [hi]
    exact congrArg Position.row hstop
  | none =>
    obtain ⟨row, column, y⟩ := f
    obtain ⟨i, rfl⟩ := Int.eq_ofNat_of_zero_le hrow
    have hposition : t.positionOf? (Focus.withOffset ⟨i, column, y⟩ x) top = _ :=
      positionOf?_eq (List.getElem?_eq_getElem (Int.ofNat_lt.mp hlt)) column x
    simp only [hposition, Option.getD_some]
    split <;> rfl

/-- A cursor that is put on a cell is in this cell. -/
theorem focusAt?_spot (top : Int) {f : Focus} {before : Table} {moved : Bool} {c : Cell}
    (hc : t.focusedCell? f = some c) (hb : moved = true ∨ (before.focusedCell? f).isSome = true)
    (selected : Bool) (p : Position) :
    ∃ x, t.focusAt? (t.spot (f.withOffset (offsetAfter f before t moved)) top selected p) top =
      some ⟨f.row, f.column, x⟩ := by
  obtain ⟨q, hq, hafter⟩ := offsetAfter_cell hc hb
  obtain ⟨row, column, y⟩ := f
  obtain ⟨i, j, r, rfl, rfl, hr, hc⟩ := exists_of_focusedCell? hc
  rw [hafter, spot]
  cases hspan : if selected then t.contentSpan? (Focus.withOffset ⟨i, j, y⟩ (c.rawOffset q)) top
      else none with
  | some span =>
    rw [Option.ite_none_right_eq_some] at hspan
    obtain ⟨i', j', r', c', hr', hc', hrow, hcolumn, hstop⟩ := contentSpan?_stop hspan.2
    obtain rfl : i = i' := Int.ofNat_inj.mp hrow
    obtain rfl : j = j' := Int.ofNat_inj.mp hcolumn
    simp only [hstop]
    exact ⟨_, focusAt?_content top hr' hc' (Nat.le_refl _)⟩
  | none =>
    have hposition : t.positionOf? ⟨i, j, c.rawOffset q⟩ top = _ := positionOf?_eq hr _ _
    rw [if_neg (Int.not_lt.mpr (Int.natCast_nonneg j)), Int.toNat_natCast] at hposition
    simp only [Focus.withOffset, hposition, Option.getD_some]
    exact ⟨_, focusAt?_content top hr hc hq⟩

/-- A cursor that is put behind the last cell of a row, however far, goes right behind the last
pipe. -/
theorem focusAt?_spot_behind (top : Int) (hr : t.rows[i]? = some r) {j : Nat} (hj : r.width ≤ j)
    (x : Int) (before : Table) (moved selected : Bool) (p : Position) :
    t.focusAt? (t.spot (Focus.withOffset ⟨i, j, x⟩ (offsetAfter ⟨i, j, x⟩ before t moved)) top
      selected p) top = some ⟨i, r.width, 0⟩ := by
  have hright : ¬ (j : Int) < 0 := Int.not_lt.mpr (Int.natCast_nonneg _)
  rw [offsetAfter_off (focusedCell?_behind hr hj x), if_neg hright, spot]
  cases hspan : if selected then t.contentSpan? (Focus.withOffset ⟨i, j, x⟩ 0) top else none with
  | some span =>
    rw [Option.ite_none_right_eq_some] at hspan
    obtain ⟨i', j', r', c, hr', hc, -, hrow, hcolumn, -⟩ := exists_of_contentSpan? hspan.2
    obtain rfl : i = i' := Int.ofNat_inj.mp hrow
    obtain rfl : j = j' := Int.ofNat_inj.mp hcolumn
    obtain rfl := Option.some.inj (hr.symm.trans hr')
    exact absurd (List.getElem?_eq_some_iff.mp hc).1 (Nat.not_lt.mpr hj)
  | none =>
    have hposition : t.positionOf? ⟨i, j, 0⟩ top = _ := positionOf?_eq hr _ _
    rw [if_neg hright, Int.toNat_natCast, Int.add_zero, Row.columnStart_of_le hj] at hposition
    simp only [Focus.withOffset, hposition, Option.getD_some]
    exact focusAt?_end top hr

/-! ## Layouts of complete tables -/

section Layout

variable {s : Style}

/-- All rows of a layout begin with the same margin. -/
theorem Complete.flush_format (ht : t.Complete) : (t.format s).Flush := by
  rw [format_eq_layout s ht]
  refine List.forall_mem_cons.mpr ⟨rfl, List.forall_mem_cons.mpr ⟨rfl, fun r hr => ?_⟩⟩
  obtain ⟨ts, -, rfl⟩ := List.mem_map.mp hr
  rfl

/-- A complete table has a cell for each row and each column of the header. -/
theorem Complete.focusedCell?_isSome (ht : t.Complete) {f : Focus} (hrow : 0 ≤ f.row)
    (hlt : f.row < t.height) (hcolumn : 0 ≤ f.column) (hin : f.column < t.grid.header.length) :
    (t.focusedCell? f).isSome = true := by
  obtain ⟨row, column, x⟩ := f
  obtain ⟨i, rfl⟩ := Int.eq_ofNat_of_zero_le hrow
  obtain ⟨j, rfl⟩ := Int.eq_ofNat_of_zero_le hcolumn
  rw [← headerWidth_eq] at hin
  have hi : i < t.rows.length := Int.ofNat_lt.mp hlt
  have hj : j < (t.rows[i]).width :=
    (Int.ofNat_lt.mp hin).trans_le (ht.headerWidth_le _ (List.getElem_mem hi))
  simp [focusedCell?_eq (List.getElem?_eq_getElem hi), List.getElem?_eq_getElem hj]

/-- No cell is put in or taken out by a layout. -/
theorem Complete.sameShape_format (hs : 0 < s.minDelimiterWidth) (ht : t.Complete) :
    (t.format s).SameShape t := by
  rw [SameShape, (ht.format hs).widths_eq, ht.grid_format hs, ht.widths_eq]

theorem SameShape.height_eq {u : Table} (h : t.SameShape u) : t.height = u.height := by
  have hlen := congrArg List.length h
  rwa [List.length_map, List.length_map] at hlen

section Spot

variable {f f' : Focus} {before : Table} {moved selected : Bool} {p : Position}
  (hb : moved = true ∨ t.SameShape before)
  (hf' : t.focusAt? (t.spot (f.withOffset (offsetAfter f before t moved)) top selected p) top =
    some f')

include hb hf'

/-- A cursor that is put on a cell is found in its column. -/
theorem column_spot (hcell : (t.focusedCell? f).isSome = true) : f'.column = f.column := by
  obtain ⟨c, hc⟩ := Option.isSome_iff_exists.mp hcell
  obtain ⟨x, hx⟩ :=
    focusAt?_spot top hc (hb.imp_right fun h => h.focusedCell?_isSome hcell) selected p
  rw [Option.some.inj (hf'.symm.trans hx)]

/-- A cursor that is put behind the header is found behind it: in a cell if the row is long enough,
and otherwise behind its last pipe. -/
theorem Complete.behind_spot (ht : t.Complete) (hrow : 0 ≤ f.row) (hlt : f.row < t.height)
    (hbehind : t.grid.header.length ≤ f.column) : t.grid.header.length ≤ f'.column := by
  obtain ⟨row, column, x⟩ := f
  obtain ⟨i, rfl⟩ := Int.eq_ofNat_of_zero_le hrow
  obtain ⟨j, rfl⟩ := Int.eq_ofNat_of_zero_le (Int.le_trans (Int.natCast_nonneg _) hbehind)
  have hi : i < t.rows.length := Int.ofNat_lt.mp hlt
  have hr := List.getElem?_eq_getElem hi
  rcases Nat.lt_or_ge j (t.rows[i]).width with hj | hj
  · have hcell : (t.focusedCell? ⟨i, j, x⟩).isSome = true := by
      simp [focusedCell?_eq hr, List.getElem?_eq_getElem hj]
    rw [column_spot hb hf' hcell]
    exact hbehind
  · have hend := focusAt?_spot_behind top hr hj x before moved selected p
    rw [Option.some.inj (hf'.symm.trans hend), ← headerWidth_eq]
    exact Int.ofNat_le.mpr (ht.headerWidth_le _ (List.getElem_mem hi))

end Spot

end Layout

end Table

end TextTable
