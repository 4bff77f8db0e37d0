import TextTable.Proofs.Table.Columns

/-!
# Setting alignments

The alignment of a column is the text of a delimiter cell and nothing else. To set it, the cell is
written anew, and where the delimiter row ends before the column, cells without alignment are put in
up to it (`stated_withAlignment`). These state as much as no cells at all, so that the alignments of
the other columns are what they were (`alignments_setAlignment`). And they are read back from any
layout, in which every row of dashes is one again (`alignments_ofLines_format`).
-/

namespace TextTable

/-- The grid with the alignment of a column set. -/
def Grid.setAlignment (g : Grid) (j : Nat) (a : Alignment) : Grid :=
  { g with alignments := g.alignments.set j a }

namespace Row

variable {s : Style}

/-! ## Delimiter rows -/

/-- The delimiter row with the alignment of a column set. A row that is too short is continued up to
this column by cells without alignment. -/
def withAlignment (s : Style) (k : Nat) (a : Alignment) (d : Row) : Row :=
  let blank := Cell.delimiter none s.minDelimiterWidth
  let cells := d.cells ++ List.replicate (k + 1 - d.width) blank
  { d with cells := cells.set k (Cell.delimiter a s.minDelimiterWidth) }

section WithAlignment

variable {d : Row} {k : Nat} {a : Alignment}

/-- The delimiter row grows up to the column, and no further. -/
@[simp] theorem width_withAlignment (s : Style) (k : Nat) (a : Alignment) (d : Row) :
    (d.withAlignment s k a).width = max d.width (k + 1) := by
  simp only [withAlignment, width, List.length_set, List.length_append, List.length_replicate]
  omega

/-- The delimiter row stays one. -/
theorem isDelimiter_withAlignment (hs : 0 < s.minDelimiterWidth) (hd : d.isDelimiter = true) :
    (d.withAlignment s k a).isDelimiter = true := by
  rw [isDelimiter_iff, width_withAlignment]
  refine ⟨(Nat.succ_pos k).trans_le (Nat.le_max_right _ _), fun c hc => ?_⟩
  rcases List.mem_or_eq_of_mem_set hc with hc | rfl
  · rcases List.mem_append.mp hc with hc | hc
    · exact (isDelimiter_iff.mp hd).2 c hc
    · rw [List.eq_of_mem_replicate hc]
      exact Cell.isDelimiter_delimiter none hs
  · exact Cell.isDelimiter_delimiter a hs

theorem stated_withAlignment (hs : 0 < s.minDelimiterWidth) :
    (d.withAlignment s k a).stated =
      (d.stated ++ List.replicate (k + 1 - d.width) none).set k a := by
  rw [stated, withAlignment, List.map_set, List.map_append, List.map_replicate,
    Cell.alignment?_delimiter none hs, Cell.alignment?_delimiter a hs]
  rfl

/-- A cell that is put in states as much as one that is missing. -/
theorem getElem?_stated_withAlignment (hs : 0 < s.minDelimiterWidth) (j : Nat) :
    (d.withAlignment s k a).stated[j]?.join = if j = k then a else d.stated[j]?.join := by
  have hlen : k < (d.stated ++ List.replicate (k + 1 - d.width) none).length := by
    rw [List.length_append, List.length_replicate, length_stated]
    omega
  rw [stated_withAlignment hs]
  split
  · next hj =>
    rw [hj, List.getElem?_set_self hlen]
    rfl
  · next hj =>
    rw [List.getElem?_set_ne (Ne.symm hj), List.getElem?_append]
    split
    · rfl
    · next hout =>
      rw [List.getElem?_eq_none (Nat.le_of_not_lt hout), List.getElem?_replicate]
      split <;> rfl

end WithAlignment

end Row

namespace Table

variable {m : Margin} {s : Style} {t : Table}

/-! ## Tables -/

/-- In a column of the header, the delimiter row is the only row that is written anew. -/
theorem setAlignment_mk (s : Style) {h d : Row} {b : List Row} (hd : d.isDelimiter = true) {k : Nat}
    (hk : k < h.width) (a : Alignment) :
    (Table.mk (h :: d :: b)).setAlignment s k a = ⟨h :: d.withAlignment s k a :: b⟩ := by
  have hin : (0 : Int) ≤ k ∧ (k : Int) < (Table.mk (h :: d :: b)).headerWidth :=
    ⟨Int.natCast_nonneg k, Int.ofNat_lt.mpr hk⟩
  simp only [setAlignment, delimiter?_mk hd, if_pos hin]
  rfl

/-- No other row than the delimiter row is touched. -/
theorem row?_setAlignment (s : Style) (t : Table) (i : Int) (a : Alignment) {row : Int}
    (hrow : row ≠ 1) : (t.setAlignment s i a).row? row = t.row? row := by
  rw [Table.setAlignment]
  split
  · rfl
  · split
    · rw [row?, row?]
      split
      · exact List.getElem?_set_ne (by omega)
      · rfl
    · rfl

/-- Only the delimiter row says how columns are aligned, and no cell is put in or taken out. -/
theorem Sound.setAlignment (hs : 0 < s.minDelimiterWidth) (ht : t.Sound m) (i : Int)
    (a : Alignment) :
    (t.setAlignment s i a).Sound m ∧ (t.setAlignment s i a).SameShape t ∧
      (t.setAlignment s i a).grid =
        if 0 ≤ i ∧ i < t.headerWidth then t.grid.setAlignment i.toNat a else t.grid := by
  obtain ⟨h, d, b, rfl, hrows⟩ := ht.exists_rows
  by_cases hin : 0 ≤ i ∧ i < (Table.mk (h :: d :: b)).headerWidth
  · rw [if_pos hin]
    obtain ⟨hi, hlt⟩ := hin
    obtain ⟨k, rfl⟩ := Int.eq_ofNat_of_zero_le hi
    have hk : k < h.width := Int.ofNat_lt.mp hlt
    obtain ⟨hdel, hdeep⟩ := List.forall_mem_cons.mp hrows.width_le
    have hdelimiter := Row.isDelimiter_withAlignment (k := k) (a := a) hs hrows.delimiter
    -- a complete table has a delimiter cell for every column of the header
    have hlong : k + 1 ≤ d.width := hk.trans_le hdel
    have hwidth : (d.withAlignment s k a).width = d.width := by
      simp [Nat.max_eq_left hlong]
    have hstated : (d.withAlignment s k a).stated = d.stated.set k a := by
      rw [Row.stated_withAlignment hs, Nat.sub_eq_zero_of_le hlong, List.replicate_zero,
        List.append_nil]
    rw [setAlignment_mk s hrows.delimiter hk]
    refine ⟨SoundRows.sound ⟨hdelimiter, hrows.width_pos, ?_, hrows.margin, hrows.apart⟩, ?_, ?_⟩
    · exact List.forall_mem_cons.mpr ⟨hdel.trans_eq hwidth.symm, hdeep⟩
    · simp only [SameShape, List.map_cons, hwidth]
    · simp [hdelimiter, hrows.delimiter, hstated, Grid.setAlignment]
  · have hset : (Table.mk (h :: d :: b)).setAlignment s i a = ⟨h :: d :: b⟩ := by
      simp only [Table.setAlignment, delimiter?_mk hrows.delimiter, if_neg hin]
    rw [hset, if_neg hin]
    exact ⟨ht, rfl, rfl⟩

/-- The alignment of the column is set, and those of the others stay, however short the delimiter
row is. -/
theorem alignments_setAlignment (hs : 0 < s.minDelimiterWidth) {h d : Row} {b : List Row}
    (hd : d.isDelimiter = true) (k : Nat) (a : Alignment) :
    (Table.mk (h :: d.withAlignment s k a :: b)).alignments =
      (Table.mk (h :: d :: b)).alignments.set k a := by
  have hdelimiter := Row.isDelimiter_withAlignment (k := k) (a := a) hs hd
  rw [alignments_eq, alignments_eq, grid_mk hdelimiter, grid_mk hd]
  refine List.ext_getElem (by simp) fun j hj hj' => ?_
  rw [List.getElem_map, List.getElem_range, List.getElem_set, List.getElem_map, List.getElem_range,
    Row.getElem?_stated_withAlignment hs]
  exact if_congr eq_comm rfl rfl

end Table

/-! ## Layouts -/

/-- The header and the delimiter row of a layout are read back, whatever the rows below them are,
and with them the alignments. -/
theorem Grid.alignments_ofLines_layout {m : Margin} {s : Style} {g : Grid} {margin : Text}
    (hm : m.Simple) (hs : 0 < s.minDelimiterWidth) (hheader : g.header ≠ [])
    (halignments : g.alignments ≠ []) (ht : g.Trimmed) (ha : Row.Apart g.header)
    (hmargin : ∀ c ∈ margin, m.contains c = true) :
    (Table.ofLines m (g.layout s margin).lines).alignments =
      (List.range g.header.length).map fun j => g.alignments[j]?.join := by
  have htext := (laid_textCells (s := s) (Table.headerSide s) g.header_le_breadth hheader ht.header
    ha hmargin).ofLine_text hm
  have hdashes := (laid_delimiterCells hs halignments hmargin).ofLine_text hm
  -- alignments depend on the first two rows only
  have hread : (Table.ofLines m (g.layout s margin).lines).alignments =
      (g.layout s margin).alignments := by
    rw [Table.ofLines, Table.lines, layout, List.map_cons, List.map_cons, List.map_cons,
      List.map_cons, htext, hdashes]
    rfl
  rw [hread, Table.alignments_eq, grid_layout hs halignments ht]

namespace Table

variable {m : Margin} {s : Style}

/-- The alignments of a table with a delimiter row are read back from its layout. -/
theorem alignments_ofLines_format (hm : m.Simple) (hs : 0 < s.minDelimiterWidth) {h d : Row}
    {b : List Row} (hd : d.isDelimiter = true) (hw : 0 < h.width) (ha : Row.Apart h.contents)
    (hmargin : ∀ c ∈ h.marginLeft, m.contains c = true) :
    (ofLines m ((Table.mk (h :: d :: b)).format s).lines).alignments =
      (Table.mk (h :: d :: b)).alignments := by
  have hheader : h.contents ≠ [] := by rwa [← List.length_pos_iff, Row.length_contents]
  have hstated : d.stated ≠ [] := by
    rw [← List.length_pos_iff, Row.length_stated]
    exact (Row.isDelimiter_iff.mp hd).1
  have htrimmed := grid_mk (h := h) (b := b) hd ▸ trimmed_grid _
  rw [format_mk s hd hw, alignments_eq ⟨h :: d :: b⟩, grid_mk hd]
  exact Grid.alignments_ofLines_layout hm hs hheader hstated htrimmed ha hmargin

/-- If the table has a delimiter row, however short, and the header has the column, then the table
with the alignment of the column set has a delimiter row, with the alignments of before but for the
one that is set, and all other rows are as they were. If the table was read from lines, then a
layout of it in either format, written and read again, has these alignments, too. -/
theorem setAlignment_read_back (o : Options) (t : Table) (ht : t.delimiter?.isSome = true)
    {column : Int} (hpos : 0 ≤ column) (hlt : column < t.headerWidth) (a : Alignment) :
    (∃ d, (t.setAlignment o.toStyle column a).rows[1]? = some d ∧ d.isDelimiter = true) ∧
      (t.setAlignment o.toStyle column a).alignments = t.alignments.set column.toNat a ∧
      (∀ i, i ≠ 1 → (t.setAlignment o.toStyle column a).rows[i]? = t.rows[i]?) ∧
      (o.margin.Simple → ∀ lines, t = ofLines o.margin lines → ∀ f : FormatType,
        (ofLines o.margin ((t.setAlignment o.toStyle column a).format
          { o.toStyle with formatType := f }).lines).alignments =
            t.alignments.set column.toNat a) := by
  have hs := o.minDelimiterWidth_pos
  obtain ⟨h, d, b, rfl, hd⟩ := exists_rows_of_delimiter? ht
  obtain ⟨k, rfl⟩ := Int.eq_ofNat_of_zero_le hpos
  have hk : k < h.width := Int.ofNat_lt.mp hlt
  have hdelimiter := Row.isDelimiter_withAlignment (k := k) (a := a) hs hd
  rw [setAlignment_mk _ hd hk, Int.toNat_natCast, ← alignments_setAlignment hs hd]
  refine ⟨⟨_, rfl, hdelimiter⟩, rfl, fun i hi => ?_, fun hm lines hlines f => ?_⟩
  · match i, hi with
    | 0, _ => rfl
    | i + 2, _ => rfl
  · have hread : h ∈ (ofLines o.margin lines).rows := by
      rw [← hlines]
      exact List.mem_cons_self
    obtain ⟨line, rfl⟩ := exists_line_of_mem hread
    have hs' : 0 < ({ o.toStyle with formatType := f } : Style).minDelimiterWidth := hs
    exact alignments_ofLines_format hm hs' hdelimiter (Nat.zero_lt_of_lt hk)
      (Row.apart_ofLine _ _) (Row.margin_ofLine _ _)

/-- A quoted table of three columns with a single delimiter cell, and below it a row without cells
and one with four. The last column of the header is centered. -/
theorem setAlignment_read_back_ragged :
    let o : Options := { leftMarginChars := [['>']], minDelimiterWidth := 1 }
    let t := ofLines o.margin
      ["> | a | `b | c".toList, ">|:-".toList, "> ".toList, "x|y|`z|w".toList]
    let t' := t.setAlignment o.toStyle 2 (some .center)
    t.delimiter?.isSome = true ∧ (2 : Int) < t.headerWidth ∧ o.margin.Simple ∧
      t.alignments = [some .left, none, none] ∧
      (∃ d, t'.rows[1]? = some d ∧ d.isDelimiter = true) ∧
      t'.alignments = [some .left, none, some .center] ∧ t'.rows[3]? = t.rows[3]? ∧
      (t'.format { o.toStyle with formatType := .weak }).lines =
        ["> | a | `b | c |".toList, "> |:- | - |:-:|".toList, "> ".toList,
          "> | x | y | `z | w |".toList] ∧
      (ofLines o.margin (t'.format { o.toStyle with formatType := .weak }).lines).alignments =
        [some .left, none, some .center] := by
  intro o t t'
  have hm : o.margin.Simple := by unfold Margin.Simple; decide
  obtain ⟨hdelimiter, hset, hrows, hread⟩ :=
    setAlignment_read_back o t (by decide) (Int.le.intro 2 rfl) (by decide) (some .center)
  have halignments : t.alignments = [some .left, none, none] := by decide
  have hwritten := hread hm _ rfl .weak
  rw [halignments] at hset hwritten
  exact ⟨by decide, by decide, hm, halignments, hdelimiter, hset, hrows 3 (by decide),
    by decide +kernel, hwritten⟩

end Table

end TextTable
