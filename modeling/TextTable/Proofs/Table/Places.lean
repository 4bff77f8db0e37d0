import TextTable.Proofs.Table.Height

/-!
# Places in a table

A position on a row of a table and a focus in the table are two names for one *place* (`Row.Place`).
A focus names a place if its offset goes no further than the place does: up to the first pipe in the
margin, up to the pipe behind a cell in this cell, and without end behind the last pipe. Each
position has one such focus, and the other way round (`focusAt?_eq_some_iff`). In the line that the
row is written as, the place has a character (`Place.charAt?_eq`), and the content of a cell is what
stands between the ends of its span (`contentSpan?_cut`).
-/

namespace TextTable

namespace Row

variable {r : Row} {column offset : Int} {j x : Nat} {c : Cell}

/-! ## Places in a row -/

/-- The column and the offset in it name a place of the row. -/
inductive Place (r : Row) : (column offset : Int) → Prop
  /-- up to the first pipe, where the offset is the column on the screen -/
  | margin (x : Int) (hx : x ≤ r.marginLeft.length) : Place r (-1) x
  /-- in a cell or on the pipe behind it -/
  | cell (j x : Nat) (c : Cell) (hc : r.cells[j]? = some c) (hx : x ≤ c.raw.length) : Place r j x
  /-- behind the last pipe -/
  | behind (x : Nat) : Place r r.width x

/-- The column on the screen of an offset in a column of the row. -/
def screenColumn (r : Row) (column offset : Int) : Int :=
  if column < 0 then offset else r.columnStart column.toNat + offset

@[simp] theorem screenColumn_margin (r : Row) (x : Int) : r.screenColumn (-1) x = x := rfl

@[simp] theorem screenColumn_natCast (r : Row) (j : Nat) (x : Int) :
    r.screenColumn j x = r.columnStart j + x := by
  rw [screenColumn, if_neg (Int.not_lt.mpr (Int.natCast_nonneg j)), Int.toNat_natCast]

/-- What is found for a column adds up to it, and is in a cell or behind all of them. -/
theorem locate_spec : ∀ (cells : List Cell) (x : Nat),
    (cellsText (cells.take (locate cells x).1)).length + (locate cells x).2 = x ∧
      ((∃ c, cells[(locate cells x).1]? = some c ∧ (locate cells x).2 ≤ c.raw.length) ∨
        (locate cells x).1 = cells.length)
  | [], x => ⟨Nat.zero_add x, Or.inr rfl⟩
  | c :: cells, x => by
      rw [locate]
      split
      · next hx => exact ⟨Nat.zero_add x, Or.inl ⟨c, rfl, hx⟩⟩
      · next hx =>
        obtain ⟨hsum, hcell⟩ := locate_spec cells (x - (c.raw.length + 1))
        refine ⟨?_, hcell.imp_right (congrArg (· + 1))⟩
        rw [List.take_succ_cons, length_cellsText_cons, Nat.add_assoc, hsum]
        exact Nat.add_sub_cancel' (Nat.lt_of_not_le hx)

/-! ## Characters of a line -/

/-- The character at a place of the row: one of the margin or of a cell, or the pipe behind it, or
else one of what follows the last pipe. -/
def charAt? (r : Row) (column : Int) (offset : Nat) : Option Char :=
  if column < 0 then (r.marginLeft ++ ['|'])[offset]?
  else match r.cell? column with
    | some c => (c.raw ++ ['|'])[offset]?
    | none => r.marginRight[offset]?

/-- The text of a row is its cells between its margins. -/
theorem text_eq_margins (hr : r.cells ≠ []) :
    r.text = r.marginLeft ++ ['|'] ++ cellsText r.cells ++ r.marginRight := by
  rw [text, if_neg hr]
  simp

/-- A cell stands in the line of its row from its first column on. -/
theorem exists_text_cell (hc : r.cells[j]? = some c) :
    ∃ before behind, r.text = before ++ (c.raw ++ ['|']) ++ behind ∧
      before.length = r.columnStart j := by
  obtain ⟨hj, hget⟩ := List.getElem?_eq_some_iff.mp hc
  have hcells : r.cells = r.cells.take j ++ c :: r.cells.drop (j + 1) := by
    rw [← hget, ← List.drop_eq_getElem_cons hj, List.take_append_drop]
  have hne : r.cells ≠ [] := List.ne_nil_of_length_pos (Nat.zero_lt_of_lt hj)
  have htext : cellsText r.cells =
      cellsText (r.cells.take j) ++ (c.raw ++ ['|']) ++ cellsText (r.cells.drop (j + 1)) := by
    have hsplit := congrArg cellsText hcells
    rw [cellsText_append, cellsText_cons] at hsplit
    simpa using hsplit
  refine ⟨r.marginLeft ++ ['|'] ++ cellsText (r.cells.take j),
    cellsText (r.cells.drop (j + 1)) ++ r.marginRight, ?_, ?_⟩
  · rw [text_eq_margins hne, htext]
    simp
  · simp only [columnStart, List.length_append, List.length_singleton]

/-- The content of a cell stands in the line of its row behind the left padding. -/
theorem exists_text_content (hc : r.cells[j]? = some c) :
    ∃ before behind, r.text = before ++ c.content ++ behind ∧
      before.length = r.columnStart j + c.paddingLeft := by
  obtain ⟨before, behind, htext, hbefore⟩ := exists_text_cell hc
  obtain ⟨padding, rest, hraw, hpadding⟩ := c.exists_padding
  refine ⟨before ++ padding, rest ++ ['|'] ++ behind, ?_, ?_⟩
  · rw [htext, hraw]
    simp
  · rw [List.length_append, hbefore, hpadding]

/-- The content of a cell is cut out of the line of its row. -/
theorem cut_content (hc : r.cells[j]? = some c) :
    (r.text.take (r.columnStart j + c.paddingLeft + c.content.length)).drop
      (r.columnStart j + c.paddingLeft) = c.content := by
  obtain ⟨before, behind, htext, hbefore⟩ := exists_text_content hc
  rw [htext, ← hbefore, List.append_assoc, List.take_length_add_append, List.drop_left,
    List.take_left]

/-- At a place, the line of the row has the character of the place. -/
theorem Place.charAt?_eq (h : r.Place column offset) (hr : r.cells ≠ [])
    (hx : r.screenColumn column offset = x) :
    ∃ k : Nat, offset = k ∧ r.charAt? column k = r.text[x]? := by
  cases h with
  | margin _ hle =>
    obtain rfl : offset = x := hx
    refine ⟨x, rfl, ?_⟩
    have hin : x < (r.marginLeft ++ ['|']).length := by
      rw [List.length_append, List.length_singleton]
      omega
    rw [text_eq_margins hr, List.append_assoc, List.getElem?_append_left hin]
    rfl
  | cell j y c hc hy =>
    obtain ⟨before, behind, htext, hlen⟩ := exists_text_cell hc
    have hx : before.length + y = x := by
      rw [screenColumn_natCast] at hx
      omega
    have hin : y < (c.raw ++ ['|']).length := by
      rw [List.length_append, List.length_singleton]
      omega
    refine ⟨y, rfl, ?_⟩
    rw [charAt?, if_neg (Int.not_lt.mpr (Int.natCast_nonneg j)), cell?_natCast, hc, htext, ← hx,
      List.append_assoc, List.getElem?_append_right (Nat.le_add_right _ _),
      Nat.add_sub_cancel_left, List.getElem?_append_left hin]
  | behind y =>
    have hx : (r.marginLeft ++ ['|'] ++ cellsText r.cells).length + y = x := by
      rw [screenColumn_natCast, columnStart_width] at hx
      simp only [List.length_append, List.length_singleton]
      omega
    have hnone : r.cells[r.width]? = none := List.getElem?_eq_none (Nat.le_refl _)
    refine ⟨y, rfl, ?_⟩
    rw [charAt?, if_neg (Int.not_lt.mpr (Int.natCast_nonneg _)), cell?_natCast, hnone,
      text_eq_margins hr, ← hx, List.getElem?_append_right (Nat.le_add_right _ _),
      Nat.add_sub_cancel_left]

end Row

namespace Table

variable {t : Table} {top column offset : Int} {i : Nat} {r : Row} {p : Position} {f : Focus}

/-! ## Positions and foci -/

/-- The focus names a place of the table. -/
def HasPlace (t : Table) (f : Focus) : Prop :=
  ∃ (i : Nat) (r : Row), f.row = i ∧ t.rows[i]? = some r ∧ r.Place f.column f.offset

theorem positionOf?_screenColumn (hr : t.rows[i]? = some r) (top column offset : Int) :
    t.positionOf? ⟨i, column, offset⟩ top = some ⟨i + top, r.screenColumn column offset⟩ := by
  rw [positionOf?_eq hr, Row.screenColumn]
  split <;> rfl

/-- On a row of the table, the focus of a column is the place that has this column. -/
theorem focusAt?_eq_some_iff_place (hr : t.rows[i]? = some r) {x : Int} :
    t.focusAt? ⟨i + top, x⟩ top = some ⟨i, column, offset⟩ ↔
      r.Place column offset ∧ r.screenColumn column offset = x := by
  constructor
  · intro h
    by_cases hx : x < r.marginLeft.length + 1
    · rw [focusAt?_margin hr hx] at h
      cases h
      exact ⟨.margin _ (Int.le_of_lt_add_one hx), rfl⟩
    · obtain ⟨y, rfl⟩ : ∃ y : Nat, x = r.marginLeft.length + 1 + y :=
        ⟨(x - (r.marginLeft.length + 1)).toNat, by omega⟩
      rw [focusAt?_cells top hr] at h
      cases h
      obtain ⟨hsum, hcell⟩ := Row.locate_spec r.cells y
      refine ⟨?_, ?_⟩
      · rcases hcell with ⟨c, hc, hle⟩ | hend
        · exact .cell _ _ c hc hle
        · rw [hend]
          exact .behind _
      · rw [Row.screenColumn_natCast, Row.columnStart]
        omega
  · rintro ⟨hplace, rfl⟩
    cases hplace with
    | margin _ hle =>
      rw [Row.screenColumn_margin]
      exact focusAt?_margin hr (Int.lt_add_one_of_le hle)
    | cell j x c hc hx =>
      have hcolumn : r.screenColumn j x =
          r.marginLeft.length + 1 + ((Row.cellsText (r.cells.take j)).length + x : Nat) := by
        rw [Row.screenColumn_natCast, Row.columnStart]
        omega
      rw [hcolumn, focusAt?_cells top hr, Row.locate_cell hx hc]
    | behind x =>
      have hcolumn : r.screenColumn r.width x =
          r.marginLeft.length + 1 + ((Row.cellsText r.cells).length + x : Nat) := by
        rw [Row.screenColumn_natCast, Row.columnStart_width]
        omega
      rw [hcolumn, focusAt?_cells top hr, Row.locate_behind]
      rfl

/-- A focus is that of a position if and only if it names a place and the position is its own. -/
theorem focusAt?_eq_some_iff :
    t.focusAt? p top = some f ↔ t.HasPlace f ∧ t.positionOf? f top = some p := by
  obtain ⟨row, x⟩ := p
  obtain ⟨row', column, offset⟩ := f
  constructor
  · intro h
    obtain ⟨hrow, hlow, hhigh⟩ := focusAt?_row h
    obtain ⟨i, rfl⟩ := Int.eq_ofNat_of_zero_le hlow
    obtain rfl : row = i + top := by dsimp only at hrow; omega
    have hi : i < t.rows.length := Int.ofNat_lt.mp hhigh
    have hr : t.rows[i]? = some t.rows[i] := List.getElem?_eq_getElem hi
    obtain ⟨hplace, rfl⟩ := (focusAt?_eq_some_iff_place hr).mp h
    exact ⟨⟨i, _, rfl, hr, hplace⟩, positionOf?_screenColumn hr top column offset⟩
  · rintro ⟨⟨i, r, rfl, hr, hplace⟩, hposition⟩
    have hp := Option.some.inj ((positionOf?_screenColumn hr top column offset).symm.trans hposition)
    rw [← hp]
    exact (focusAt?_eq_some_iff_place hr).mpr ⟨hplace, rfl⟩

/-- Each position on the rows of a table has a focus. -/
theorem exists_focusAt? (hlow : top ≤ p.row) (hhigh : p.row < top + t.height) :
    ∃ f, t.focusAt? p top = some f := by
  cases hf : t.focusAt? p top with
  | none =>
    have hoff := focusAt?_off hf
    omega
  | some f => exact ⟨f, rfl⟩

/-- Each focus on a row of a table has a position. -/
theorem exists_positionOf? (hrow : 0 ≤ f.row) (hlt : f.row < t.height) (top : Int) :
    ∃ p, t.positionOf? f top = some p := by
  obtain ⟨row, column, offset⟩ := f
  obtain ⟨i, rfl⟩ := Int.eq_ofNat_of_zero_le hrow
  have hr : t.rows[i]? = some _ := List.getElem?_eq_getElem (Int.ofNat_lt.mp hlt)
  exact ⟨_, positionOf?_screenColumn hr top column offset⟩

/-- On the rows of a table, positions and places are in step: the focus of a position has this
position, and the position of a focus that names a place has this focus. -/
theorem positions_are_places (t : Table) (top : Int) :
    (∀ p : Position, top ≤ p.row → p.row < top + t.height →
      ∃ f, t.focusAt? p top = some f ∧ t.positionOf? f top = some p) ∧
    ∀ f : Focus, t.HasPlace f → ∃ p, t.positionOf? f top = some p ∧ t.focusAt? p top = some f := by
  constructor
  · intro p hlow hhigh
    obtain ⟨f, hf⟩ := exists_focusAt? hlow hhigh
    exact ⟨f, hf, (focusAt?_eq_some_iff.mp hf).2⟩
  · intro f hf
    obtain ⟨i, r, hrow, hr, -⟩ := id hf
    obtain ⟨row, column, offset⟩ := f
    obtain rfl : row = i := hrow
    have hposition := positionOf?_screenColumn hr top column offset
    exact ⟨_, hposition, focusAt?_eq_some_iff.mpr ⟨hf, hposition⟩⟩

/-- A column before a row without cells, and the end of an empty cell. -/
theorem positions_are_places_ragged :
    (∃ f, (ofLines ⟨[]⟩ ["| a||".toList, []]).focusAt? ⟨5, -3⟩ 4 = some f ∧
      (ofLines ⟨[]⟩ ["| a||".toList, []]).positionOf? f 4 = some ⟨5, -3⟩) ∧
    ∃ p, (ofLines ⟨[]⟩ ["| a||".toList, []]).positionOf? ⟨0, 1, 0⟩ 4 = some p ∧
      (ofLines ⟨[]⟩ ["| a||".toList, []]).focusAt? p 4 = some ⟨0, 1, 0⟩ := by
  obtain ⟨hposition, hfocus⟩ := positions_are_places (ofLines ⟨[]⟩ ["| a||".toList, []]) 4
  exact ⟨hposition ⟨5, -3⟩ (by decide) (by decide),
    hfocus ⟨0, 1, 0⟩ ⟨0, _, rfl, rfl, .cell 1 0 Cell.empty (by decide) (by decide)⟩⟩

/-! ## Positions and lines -/

/-- In the line of a row, the place of a column has the character of this column. -/
theorem exists_charAt? (hr : t.rows[i]? = some r) (hcells : r.cells ≠ []) (top : Int) (x : Nat) :
    ∃ (column : Int) (k : Nat), t.focusAt? ⟨i + top, x⟩ top = some ⟨i, column, k⟩ ∧
      r.Place column k ∧ r.charAt? column k = r.text[x]? := by
  have hi : i < t.height := (List.getElem?_eq_some_iff.mp hr).1
  obtain ⟨⟨row, column, offset⟩, hf⟩ : ∃ f, t.focusAt? ⟨i + top, x⟩ top = some f :=
    exists_focusAt? (by dsimp only; omega) (by dsimp only; omega)
  obtain rfl : row = i := by
    have hrow := (focusAt?_row hf).1
    dsimp only at hrow
    omega
  obtain ⟨hplace, hx⟩ := (focusAt?_eq_some_iff_place hr).mp hf
  obtain ⟨k, rfl, hk⟩ := hplace.charAt?_eq hcells hx
  exact ⟨column, k, hf, hplace, hk⟩

/-- There is a content to select if and only if the focus is in a cell that has one. -/
theorem contentSpan?_eq_none_iff :
    t.contentSpan? f top = none ↔ ∀ c, t.focusedCell? f = some c → c.content = [] := by
  rw [contentSpan?, focusedCell?, cell?]
  cases t.row? f.row with
  | none => simp
  | some r =>
    rw [Option.bind_some, Option.bind_some]
    cases r.cell? f.column with
    | none => simp
    | some c => simp

/-- The content of a cell is what stands between the ends of its span. -/
theorem contentSpan?_cut {span : Span} (h : t.contentSpan? f top = some span) :
    ∃ r c, ∃ start stop : Nat, t.row? f.row = some r ∧ t.focusedCell? f = some c ∧
      span = ⟨⟨f.row + top, start⟩, ⟨f.row + top, stop⟩⟩ ∧
      (r.text.take stop).drop start = c.content := by
  obtain ⟨row, column, x⟩ := f
  obtain ⟨i, j, r, c, hr, hc, -, rfl, rfl, rfl⟩ := exists_of_contentSpan? h
  exact ⟨r, c, _, _, (row?_natCast t i).trans hr,
    (focusedCell?_eq hr j x).trans ((r.cell?_natCast j).trans hc), rfl, Row.cut_content hc⟩

/-- The place of a position names the character that stands there in the line of its row, and a
selected content is cut out of this line. -/
theorem positions_name_characters (t : Table) (top : Int) :
    (∀ (i : Nat) (r : Row), t.rows[i]? = some r → r.cells ≠ [] →
      ∀ (x : Nat) (hx : x < r.text.length),
        ∃ (column : Int) (k : Nat), t.focusAt? ⟨i + top, x⟩ top = some ⟨i, column, k⟩ ∧
          r.Place column k ∧ r.charAt? column k = some r.text[x]) ∧
    ∀ f : Focus,
      (t.contentSpan? f top = none ↔ ∀ c, t.focusedCell? f = some c → c.content = []) ∧
      ∀ span, t.contentSpan? f top = some span →
        ∃ r c, ∃ start stop : Nat, t.row? f.row = some r ∧ t.focusedCell? f = some c ∧
          span = ⟨⟨f.row + top, start⟩, ⟨f.row + top, stop⟩⟩ ∧
          (r.text.take stop).drop start = c.content := by
  refine ⟨fun i r hr hcells x hx => ?_, fun f => ⟨contentSpan?_eq_none_iff, fun _ =>
    contentSpan?_cut⟩⟩
  obtain ⟨column, k, hf, hplace, hk⟩ := exists_charAt? hr hcells top x
  exact ⟨column, k, hf, hplace, hk.trans (List.getElem?_eq_getElem hx)⟩

/-- The pipe behind an empty cell, and the content of a padded one. -/
theorem positions_name_characters_padded :
    (∃ (column : Int) (k : Nat),
      (ofLines ⟨[]⟩ ["||  b |".toList]).focusAt? ⟨7, 1⟩ 7 = some ⟨0, column, k⟩ ∧
      (Row.ofLine ⟨[]⟩ "||  b |".toList).charAt? column k = some '|') ∧
    ∃ r c, ∃ start stop : Nat, (ofLines ⟨[]⟩ ["||  b |".toList]).row? 0 = some r ∧
      (ofLines ⟨[]⟩ ["||  b |".toList]).focusedCell? ⟨0, 1, 0⟩ = some c ∧
      (⟨⟨7, 4⟩, ⟨7, 5⟩⟩ : Span) = ⟨⟨0 + 7, start⟩, ⟨0 + 7, stop⟩⟩ ∧
      (r.text.take stop).drop start = c.content := by
  obtain ⟨hcharacter, hspan⟩ :=
    positions_name_characters (ofLines ⟨[]⟩ ["||  b |".toList]) 7
  obtain ⟨column, k, hf, -, hk⟩ := hcharacter 0 _ rfl (by decide) 1 (by decide)
  exact ⟨⟨column, k, hf, hk⟩, (hspan ⟨0, 1, 0⟩).2 _ (by decide)⟩

end Table

end TextTable
