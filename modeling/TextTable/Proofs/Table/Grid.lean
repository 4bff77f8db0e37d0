import TextTable.Proofs.Row.Delimiter
import TextTable.Table.Layout

/-!
# The grid of a table

What a table says, apart from how it is written, is its *grid*: the contents of its header, the
alignments that its delimiter row states, and the contents of its body. The layout of a complete
table is a function of its grid and of its margin (`format_eq_layout`), and it has the same grid
again; so laying out a table twice is laying it out once.

The equations about a table with its rows in view (`grid_mk`, `delimiter?_mk`, `body_mk`,
`columns_mk`, `format_mk`) ask for no more than a delimiter row, so they hold for ragged tables too.
-/

namespace TextTable

/-- The contents and alignments of a table. -/
structure Grid where
  header : List Text
  /-- one for each cell of the delimiter row -/
  alignments : List Alignment
  body : List (List Text)
deriving DecidableEq

/-- The alignments that the cells of a delimiter row state. -/
def Row.stated (r : Row) : List Alignment := r.cells.map fun c => c.alignment?.join

@[simp] theorem Row.length_contents (r : Row) : r.contents.length = r.width := List.length_map ..

@[simp] theorem Row.length_stated (r : Row) : r.stated.length = r.width := List.length_map ..

namespace Grid

/-- The number of rows, with the header and the delimiter row. -/
def height (g : Grid) : Nat := g.body.length + 2

/-- The contents of a row of text, by its index in the table. -/
def texts? (g : Grid) : Nat → Option (List Text)
  | 0 => some g.header
  | 1 => none
  | i + 2 => g.body[i]?

/-- No row is shorter than the header, which has a cell. -/
structure Complete (g : Grid) : Prop where
  header_pos : 0 < g.header.length
  alignments_le : g.header.length ≤ g.alignments.length
  body_le : ∀ ts ∈ g.body, g.header.length ≤ ts.length

/-- There is nothing to trim. -/
structure Trimmed (g : Grid) : Prop where
  header : ∀ t ∈ g.header, Text.trim t = t
  body : ∀ ts ∈ g.body, ∀ t ∈ ts, Text.trim t = t

/-- The contents of each row are apart. -/
structure Apart (g : Grid) : Prop where
  header : Row.Apart g.header
  body : ∀ ts ∈ g.body, Row.Apart ts

/-! ## The columns of a grid -/

/-- The number of cells of the widest row. -/
def breadth (g : Grid) : Nat :=
  (g.header.length :: g.alignments.length :: g.body.map List.length).foldr max 0

/-- The number of screen columns of the text in a column. -/
def textWidth (o : WidthOptions) (column : Nat) (ts : List Text) : Nat :=
  (ts[column]?.map o.width).getD 0

/-- The width of a column. -/
def columnWidth (s : Style) (g : Grid) (column : Nat) : Nat :=
  ((g.header :: g.body).map (textWidth s.widthOptions column)).foldr max
    (if column < g.alignments.length then s.minDelimiterWidth else 0)

/-- The columns of the grid. -/
def columns (s : Style) (g : Grid) : List Column :=
  (List.range g.breadth).map fun j => ⟨g.columnWidth s j, g.alignments[j]?.join⟩

/-! ## The layout of a grid -/

/-- The cells that hold the texts of a row. -/
def textCells (s : Style) (g : Grid) (side : Column → Side) (ts : List Text) : List Cell :=
  match s.formatType with
  | .normal => List.zipWith
      (fun column t => ⟨(side column).pad s.widthOptions column.width t⟩) (g.columns s) ts
  | .weak => ts.map fun t => ⟨' ' :: t ++ [' ']⟩

/-- The cells of the delimiter row. -/
def delimiterCells (s : Style) (g : Grid) : List Cell :=
  match s.formatType with
  | .normal => List.zipWith
      (fun column _ => Cell.delimiter column.alignment column.width) (g.columns s) g.alignments
  | .weak => g.alignments.map fun a => Cell.delimiter a s.minDelimiterWidth

/-- The table that a grid is written as, with a margin before each row. -/
def layout (s : Style) (margin : Text) (g : Grid) : Table :=
  ⟨⟨g.textCells s (Table.headerSide s) g.header, margin, []⟩ :: ⟨g.delimiterCells s, margin, []⟩
    :: g.body.map fun ts => ⟨g.textCells s (Table.bodySide s) ts, margin, []⟩⟩

end Grid

namespace Table

/-- What the table says. -/
def grid (t : Table) : Grid where
  header := (t.header?.map Row.contents).getD []
  alignments := (t.delimiter?.map Row.stated).getD []
  body := t.body.map Row.contents

/-- The table has a delimiter row, and no row is shorter than the header, which has a cell. -/
structure Complete (t : Table) : Prop where
  delimited : t.delimiter?.isSome = true
  full : t.grid.Complete

/-! ## Tables by their rows -/

section Rows

variable {h d : Row} {b : List Row}

/-- The delimiter row is the second row, where that is one. -/
@[simp] theorem delimiter?_mk (hd : d.isDelimiter = true) :
    (Table.mk (h :: d :: b)).delimiter? = some d := by
  simp [delimiter?, hd]

@[simp] theorem body_mk (hd : d.isDelimiter = true) : (Table.mk (h :: d :: b)).body = b := by
  simp [body, hd]

@[simp] theorem textRows_mk (hd : d.isDelimiter = true) :
    (Table.mk (h :: d :: b)).textRows = h :: b := by
  rw [textRows, body_mk hd]
  rfl

@[simp] theorem grid_mk (hd : d.isDelimiter = true) :
    (Table.mk (h :: d :: b)).grid = ⟨h.contents, d.stated, b.map Row.contents⟩ := by
  rw [grid, delimiter?_mk hd, body_mk hd]
  rfl

@[simp]
theorem headerWidth_mk {rows : List Row} : (Table.mk (h :: rows)).headerWidth = h.width := rfl

/-- A table is complete when its header has a cell and no other row is shorter. -/
theorem complete_mk_iff (hd : d.isDelimiter = true) :
    (Table.mk (h :: d :: b)).Complete ↔ 0 < h.width ∧ ∀ r ∈ d :: b, h.width ≤ r.width := by
  constructor
  · rintro ⟨-, hg⟩
    rw [grid_mk hd] at hg
    obtain ⟨hpos, hal, hbody⟩ := hg
    simp only [Row.length_contents, Row.length_stated] at hpos hal hbody
    refine ⟨hpos, List.forall_mem_cons.mpr ⟨hal, fun r hr => ?_⟩⟩
    rw [← Row.length_contents r]
    exact hbody _ (List.mem_map_of_mem hr)
  · rintro ⟨hpos, hwide⟩
    obtain ⟨hal, hbody⟩ := List.forall_mem_cons.mp hwide
    refine ⟨by rw [delimiter?_mk hd]; rfl, ?_⟩
    rw [grid_mk hd]
    refine ⟨by rwa [Row.length_contents], by rwa [Row.length_contents, Row.length_stated], ?_⟩
    intro ts hts
    obtain ⟨r, hr, rfl⟩ := List.mem_map.mp hts
    rw [Row.length_contents, Row.length_contents]
    exact hbody r hr

/-- A table with a delimiter row has a header above it. -/
theorem exists_rows_of_delimiter? {t : Table} (ht : t.delimiter?.isSome = true) :
    ∃ h d b, t = ⟨h :: d :: b⟩ ∧ d.isDelimiter = true := by
  obtain ⟨d, hd⟩ := Option.isSome_iff_exists.mp ht
  obtain ⟨hrow, hdel⟩ := Option.filter_eq_some_iff.mp hd
  obtain ⟨rows⟩ := t
  match rows, hrow with
  | h :: d' :: b, hrow =>
    obtain rfl := Option.some.inj hrow
    exact ⟨h, d', b, rfl, hdel⟩

/-- A complete table begins with its header and its delimiter row. -/
theorem Complete.exists_rows {t : Table} (ht : t.Complete) :
    ∃ h d b, t = ⟨h :: d :: b⟩ ∧ d.isDelimiter = true := exists_rows_of_delimiter? ht.delimited

/-- Below the header a row of the grid is two rows further down in the table. -/
theorem Complete.texts?_grid {t : Table} (ht : t.Complete) {i : Nat} (hi : i ≠ 1) :
    t.grid.texts? i = t.rows[i]?.map Row.contents := by
  obtain ⟨h, d, b, rfl, hd⟩ := ht.exists_rows
  rw [grid_mk hd]
  match i with
  | 0 => rfl
  | 1 => exact absurd rfl hi
  | i + 2 => exact List.getElem?_map ..

end Rows

/-- Contents are trimmed when they are taken from their cells. -/
theorem trimmed_grid (t : Table) : t.grid.Trimmed := by
  have trimmed : ∀ (r : Row), ∀ u ∈ r.contents, Text.trim u = u := by
    intro r u hu
    obtain ⟨c, -, rfl⟩ := List.mem_map.mp hu
    exact c.trim_content
  refine ⟨fun u hu => ?_, fun ts hts => ?_⟩
  · cases hh : t.header? with
    | none => simp [grid, hh] at hu
    | some h => exact trimmed h u (by simpa [grid, hh] using hu)
  · obtain ⟨r, -, rfl⟩ := List.mem_map.mp hts
    exact trimmed r

/-! ## The layout of a table -/

/-- The demand of a cell depends on its content only, and a cell that is missing has none. -/
theorem contentWidth_eq (o : WidthOptions) (j : Nat) (r : Row) :
    contentWidth o j r = Grid.textWidth o j r.contents := by
  rw [contentWidth, Grid.textWidth, Row.contents, List.getElem?_map, Option.map_map]
  rfl

/-- The header of the grid has a content for each cell of the header. -/
@[simp] theorem headerWidth_eq (t : Table) : t.headerWidth = t.grid.header.length := by
  rw [headerWidth, grid]
  cases t.header? with
  | none => rfl
  | some h => exact h.length_contents.symm

/-- A column without a delimiter cell has no alignment. -/
@[simp]
theorem alignmentAt_eq (t : Table) (j : Nat) : t.alignmentAt j = t.grid.alignments[j]?.join := by
  rw [alignmentAt, grid]
  cases t.delimiter? with
  | none => rfl
  | some d =>
    simp only [Option.bind_some, Option.map_some, Option.getD_some, Row.stated, List.getElem?_map]
    cases d.cells[j]? <;> rfl

/-- The alignments of a table can be told from its grid. -/
theorem alignments_eq (t : Table) : t.alignments =
    (List.range t.grid.header.length).map fun j => t.grid.alignments[j]?.join := by
  rw [alignments, headerWidth_eq]
  exact List.map_congr_left fun j _ => alignmentAt_eq t j

/-- The columns of a table with a delimiter row can be told from its grid. -/
theorem columns_mk (s : Style) {h d : Row} {b : List Row} (hd : d.isDelimiter = true) :
    (Table.mk (h :: d :: b)).columns s =
      Grid.columns s ⟨h.contents, d.stated, b.map Row.contents⟩ := by
  rw [columns, Grid.columns]
  have hbreadth : (Table.mk (h :: d :: b)).breadth =
      Grid.breadth ⟨h.contents, d.stated, b.map Row.contents⟩ := by
    simp only [breadth, Grid.breadth, List.map_cons, List.map_map, Row.length_contents,
      Row.length_stated, Function.comp_def]
  rw [hbreadth]
  refine List.map_congr_left fun j _ => ?_
  have hwidth : (Table.mk (h :: d :: b)).columnWidth s j =
      Grid.columnWidth s ⟨h.contents, d.stated, b.map Row.contents⟩ j := by
    rw [columnWidth, Grid.columnWidth, textRows_mk hd, delimiterDemand, delimiter?_mk hd,
      List.map_cons, List.map_cons, contentWidth_eq, List.map_map, Row.length_stated]
    congr 2
    exact List.map_congr_left fun r _ => contentWidth_eq _ j r
  simp [hwidth, hd]

/-- Aligned cells are padded contents, one for each cell that the row has. -/
theorem alignRow_eq (s : Style) (side : Column → Side) (margin : Text) (columns : List Column) :
    alignRow s side margin columns = fun r =>
      ⟨List.zipWith (fun column t => ⟨(side column).pad s.widthOptions column.width t⟩) columns
        r.contents, margin, []⟩ := by
  funext r
  rw [alignRow, Row.contents, List.zipWith_map_right]

theorem alignDelimiter_eq (margin : Text) (columns : List Column) (r : Row) :
    alignDelimiter margin columns r =
      ⟨List.zipWith (fun column _ => Cell.delimiter column.alignment column.width) columns
        r.stated, margin, []⟩ := by
  rw [alignDelimiter, Row.stated, List.zipWith_map_right]

theorem spaceRow_eq (margin : Text) :
    spaceRow margin = fun r =>
      ⟨r.contents.map fun t => ⟨' ' :: t ++ [' ']⟩, margin, []⟩ := by
  funext r
  rw [spaceRow, Row.contents, List.map_map]
  rfl

theorem spaceDelimiter_eq (s : Style) (margin : Text) (r : Row) :
    spaceDelimiter s margin r =
      ⟨r.stated.map fun a => Cell.delimiter a s.minDelimiterWidth, margin, []⟩ := by
  rw [spaceDelimiter, Row.stated, List.map_map]
  rfl

/-- The layout of a table with a delimiter row is that of its grid, if the header has a cell. -/
theorem format_mk (s : Style) {h d : Row} {b : List Row} (hd : d.isDelimiter = true)
    (hw : 0 < h.width) :
    (Table.mk (h :: d :: b)).format s =
      Grid.layout s h.marginLeft ⟨h.contents, d.stated, b.map Row.contents⟩ := by
  have hcols := columns_mk s (h := h) (b := b) hd
  have hne : (Table.mk (h :: d :: b)).headerWidth ≠ 0 := Nat.pos_iff_ne_zero.mp hw
  have hhead : (Table.mk (h :: d :: b)).header?.toList = [h] := rfl
  have hmargin : (Table.mk (h :: d :: b)).marginLeft = h.marginLeft := rfl
  rw [format, if_neg hne, Grid.layout, List.map_map]
  cases hs : s.formatType with
  | normal =>
    simp only [formatNormal, hcols, hhead, hmargin, delimiter?_mk hd, body_mk hd, alignRow_eq,
      Grid.textCells, Grid.delimiterCells, hs, Option.toList_some, List.map_cons, List.map_nil,
      alignDelimiter_eq, List.cons_append, List.nil_append, Function.comp_def]
  | weak =>
    simp only [formatWeak, hhead, hmargin, delimiter?_mk hd, body_mk hd, spaceRow_eq,
      Grid.textCells, Grid.delimiterCells, hs, Option.toList_some, List.map_cons, List.map_nil,
      spaceDelimiter_eq, List.cons_append, List.nil_append, Function.comp_def]

/-- The layout of a complete table is that of its grid. -/
theorem format_eq_layout (s : Style) {t : Table} (ht : t.Complete) :
    t.format s = t.grid.layout s t.marginLeft := by
  obtain ⟨h, d, b, rfl, hd⟩ := ht.exists_rows
  rw [format_mk s hd ((complete_mk_iff hd).mp ht).1, grid_mk hd]
  rfl

end Table

end TextTable
