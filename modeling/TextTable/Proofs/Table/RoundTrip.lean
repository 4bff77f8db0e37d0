import TextTable.Proofs.Table.Layout
import TextTable.Table.Completion
import TextTable.Table.Reader

/-!
# Tables that are read back

A *sound* table is a complete one whose contents are apart in every row and whose margin is one
(`Sound`). Whatever lines a table is read from, it is sound once it is complete
(`sound_complete_ofLines`); and the layout of a sound table is read back as it is
(`Sound.ofLines_format`), so that nothing is lost, merged or split on the way through the text
(`read_written_table`).

Completing and laying out do not meet: the first makes a table complete, and keeps what its columns
are aligned by (`complete_complete`, `alignments_complete`), and the second is about complete tables
only (`Complete.grid_format`).
-/

namespace TextTable

namespace Row

/-! ## Completing rows -/

theorem le_width_padTo (r : Row) (w : Nat) (a b : Cell) : w ≤ (r.padTo w a b).width := by
  rw [padTo]
  split
  · next h =>
    simp only [width, List.length_append, List.length_cons, List.length_replicate] at h ⊢
    omega
  · next h => exact Nat.le_of_not_lt h

/-- With nothing behind its last pipe, a short row gets empty contents. -/
theorem contents_completeText {r : Row} (hb : Text.Blank r.marginRight) (w : Nat) :
    (Table.completeText w r).contents = r.contents ++ List.replicate (w - r.width) [] := by
  rw [Table.completeText, padTo]
  split
  · next h =>
    obtain ⟨k, hk⟩ : ∃ k, w - r.width = k + 1 := ⟨w - r.width - 1, by omega⟩
    have hfirst : (⟨r.marginRight⟩ : Cell).content = [] := Text.trim_of_blank hb
    have hempty : Cell.empty.content = [] := rfl
    simp only [contents, hk, Nat.add_sub_cancel, List.map_append, List.map_cons,
      List.map_replicate, hfirst, hempty, List.replicate_succ]
  · next h =>
    rw [Nat.sub_eq_zero_of_le (Nat.le_of_not_lt h), List.replicate_zero, List.append_nil]

end Row

namespace Table

variable {s : Style} {t : Table}

/-- The delimiter row of a table is made of delimiter cells. -/
theorem isDelimiter_of_delimiter? {d : Row} (hd : t.delimiter? = some d) :
    d.isDelimiter = true :=
  (Option.filter_eq_some_iff.mp hd).2

/-- A completed delimiter row is one, and states nothing new. -/
theorem completeDelimiter_spec (hs : 0 < s.minDelimiterWidth) {w : Nat} (hw : 0 < w)
    {given : Option Row} (hg : ∀ d, given = some d → d.isDelimiter = true) :
    (completeDelimiter s w given).isDelimiter = true ∧
      ∃ k, (completeDelimiter s w given).stated =
        (given.map Row.stated).getD [] ++ List.replicate k none := by
  have dash : ∀ n, 0 < n → (Cell.delimiter none n).alignment?.join = none := fun n hn => by
    rw [Cell.alignment?_delimiter none hn]
    rfl
  cases given with
  | none =>
    refine ⟨?_, w, ?_⟩
    · simp [completeDelimiter, Row.isDelimiter, Cell.isDelimiter_delimiter none hs,
        Nat.pos_iff_ne_zero.mp hw]
    · simp [completeDelimiter, Row.stated, dash _ hs]
  | some d =>
    have hd := hg d rfl
    rw [completeDelimiter, Row.padTo]
    split
    · have hfirst : 0 < max s.minDelimiterWidth (d.marginRight.length - 2) :=
        hs.trans_le (Nat.le_max_left _ _)
      refine ⟨Row.isDelimiter_iff.mpr ⟨?_, fun c hc => ?_⟩, w - d.width - 1 + 1, ?_⟩
      · rw [Row.width, List.length_append]
        exact Nat.add_pos_left (Row.isDelimiter_iff.mp hd).1 _
      · rcases List.mem_append.mp hc with hc | hc
        · exact (Row.isDelimiter_iff.mp hd).2 c hc
        · rcases List.mem_cons.mp hc with rfl | hc
          · exact Cell.isDelimiter_delimiter none hfirst
          · rw [List.eq_of_mem_replicate hc]
            exact Cell.isDelimiter_delimiter none hs
      · simp [Row.stated, dash _ hs, dash _ hfirst, List.replicate_succ]
    · exact ⟨hd, 0, by simp⟩

theorem lacksDelimiter_eq_false (h : t.delimiter?.isSome = true) : t.lacksDelimiter = false := by
  rw [lacksDelimiter, ← Option.not_isSome, h]
  rfl

/-- A complete table, row by row: the delimiter row is completed or made, the rows of the body are
completed. -/
theorem complete_mk (s : Style) (h : Row) (rows : List Row) :
    (Table.mk (h :: rows)).complete s =
      ⟨h :: completeDelimiter s h.width (Table.mk (h :: rows)).delimiter?
        :: (Table.mk (h :: rows)).body.map (completeText h.width)⟩ := rfl

/-- A table has columns only if it has a header. -/
theorem exists_rows_of_headerWidth_pos (h : 0 < t.headerWidth) :
    ∃ header rows, t = ⟨header :: rows⟩ ∧ 0 < header.width := by
  obtain ⟨_ | ⟨header, rows⟩⟩ := t
  · exact absurd h (by simp [headerWidth, header?])
  · exact ⟨header, rows, rfl, h⟩

/-- Completing a table whose header has a cell makes it complete. -/
theorem complete_complete (hs : 0 < s.minDelimiterWidth) (h : 0 < t.headerWidth) :
    (t.complete s).Complete := by
  obtain ⟨header, rows, rfl, hw⟩ := exists_rows_of_headerWidth_pos h
  have hd := (completeDelimiter_spec hs hw fun d =>
    isDelimiter_of_delimiter? (t := ⟨header :: rows⟩)).1
  rw [complete_mk, complete_mk_iff hd]
  refine ⟨hw, List.forall_mem_cons.mpr ⟨?_, fun r hr => ?_⟩⟩
  · cases (Table.mk (header :: rows)).delimiter? with
    | none => simp [completeDelimiter, Row.width]
    | some d => exact Row.le_width_padTo ..
  · obtain ⟨r, -, rfl⟩ := List.mem_map.mp hr
    exact Row.le_width_padTo ..

/-- Completing keeps the alignments of a table. -/
theorem alignments_complete (hs : 0 < s.minDelimiterWidth) (h : 0 < t.headerWidth) :
    (t.complete s).alignments = t.alignments := by
  obtain ⟨header, rows, rfl, hw⟩ := exists_rows_of_headerWidth_pos h
  obtain ⟨hd, k, hk⟩ :=
    completeDelimiter_spec hs hw fun d => isDelimiter_of_delimiter? (t := ⟨header :: rows⟩)
  rw [alignments, alignments]
  refine List.map_congr_left fun j _ => ?_
  rw [alignmentAt_eq, alignmentAt_eq, complete_mk, grid_mk hd, hk, grid]
  simp only [List.getElem?_append, List.getElem?_replicate]
  -- a cell that is put in states no alignment, and neither does one that is missing
  split
  · rfl
  · next hlen =>
    rw [List.getElem?_eq_none (Nat.le_of_not_lt hlen)]
    split <;> rfl

/-! ## Complete tables -/

/-- A complete table has a column. -/
theorem Complete.headerWidth_pos (ht : t.Complete) : 0 < t.headerWidth := by
  rw [headerWidth_eq]
  exact ht.full.header_pos

theorem Complete.headerWidth_le (ht : t.Complete) : ∀ r ∈ t.rows, t.headerWidth ≤ r.width := by
  obtain ⟨h, d, b, rfl, hd⟩ := ht.exists_rows
  exact List.forall_mem_cons.mpr ⟨Nat.le_refl _, ((complete_mk_iff hd).mp ht).2⟩

/-- Each row of a complete table has a cell. -/
theorem Complete.filled (ht : t.Complete) : ∀ r ∈ t.rows, r.cells ≠ [] := fun r hr =>
  List.length_pos_iff.mp (ht.headerWidth_pos.trans_le (ht.headerWidth_le r hr))

/-- The widths of the rows can be read off the grid. -/
theorem Complete.widths_eq (ht : t.Complete) :
    t.rows.map Row.width =
      t.grid.header.length :: t.grid.alignments.length :: t.grid.body.map List.length := by
  obtain ⟨h, d, b, rfl, hd⟩ := ht.exists_rows
  simp [hd]

/-- A complete table has as many rows as its grid. -/
theorem Complete.height_eq (ht : t.Complete) : t.height = t.grid.height := by
  have hlen := congrArg List.length ht.widths_eq
  rw [List.length_map, List.length_cons, List.length_cons, List.length_map] at hlen
  exact hlen

/-- There is nothing to complete in a complete table. -/
theorem Complete.complete_eq (ht : t.Complete) : t.complete s = t := by
  obtain ⟨h, d, b, rfl, hd⟩ := ht.exists_rows
  have hwidth := ((complete_mk_iff hd).mp ht).2
  have enough : ∀ r ∈ d :: b, ∀ c c', r.padTo h.width c c' = r := fun r hr c c' =>
    if_neg (Nat.not_lt.mpr (hwidth r hr))
  have hbody : b.map (completeText h.width) = b := by
    have hid : ∀ r ∈ b, completeText h.width r = id r := fun r hr =>
      enough r (List.mem_cons_of_mem _ hr) _ _
    rw [List.map_congr_left hid, List.map_id]
  rw [complete_mk, delimiter?_mk hd, body_mk hd, hbody]
  simp only [completeDelimiter, enough d List.mem_cons_self]

/-- In a complete table no row has to move down. -/
theorem Complete.completed_eq (ht : t.Complete) (f : Focus) : f.completed t = f := by
  rw [Focus.completed, lacksDelimiter_eq_false ht.delimited, if_neg (by simp)]

/-! ## Layouts of complete tables -/

namespace Complete

/-- A layout says what the table says. -/
theorem grid_format (hs : 0 < s.minDelimiterWidth) (ht : t.Complete) :
    (t.format s).grid = t.grid := by
  rw [format_eq_layout s ht, Grid.grid_layout hs ht.full.alignments_ne_nil t.trimmed_grid]

/-- The layout has the margin of the header throughout. -/
theorem marginLeft_format (ht : t.Complete) : (t.format s).marginLeft = t.marginLeft := by
  rw [format_eq_layout s ht]
  rfl

theorem format (hs : 0 < s.minDelimiterWidth) (ht : t.Complete) : (t.format s).Complete := by
  rw [format_eq_layout s ht]
  exact Grid.complete_layout hs ht.full t.trimmed_grid

/-- In a layout, a row of text has its contents where they were. -/
theorem exists_row_format (hs : 0 < s.minDelimiterWidth) (ht : t.Complete) {i : Nat} (hi : i ≠ 1)
    {r : Row} (hr : t.rows[i]? = some r) :
    ∃ r', (t.format s).rows[i]? = some r' ∧ r'.contents = r.contents := by
  have hrow : (t.format s).rows[i]?.map Row.contents = some r.contents := by
    rw [← (ht.format hs).texts?_grid hi, ht.grid_format hs, ht.texts?_grid hi, hr, Option.map_some]
  exact Option.map_eq_some_iff.mp hrow

end Complete

/-! ## Sound tables -/

/-- The table is complete, its margin is one, and its contents are apart in every row. -/
structure Sound (m : Margin) (t : Table) : Prop where
  complete : t.Complete
  apart : t.grid.Apart
  margin : ∀ c ∈ t.marginLeft, m.contains c = true

variable {m : Margin}

/-- What makes a complete table sound is said of its rows of text; nothing in a delimiter row can go
astray. -/
theorem sound_mk_iff {h d : Row} {b : List Row} (hd : d.isDelimiter = true) :
    (Table.mk (h :: d :: b)).Sound m ↔
      (Table.mk (h :: d :: b)).Complete ∧ (∀ c ∈ h.marginLeft, m.contains c = true) ∧
        ∀ r ∈ h :: b, Row.Apart r.contents := by
  constructor
  · rintro ⟨hc, ha, hm⟩
    rw [grid_mk hd] at ha
    exact ⟨hc, hm, List.forall_mem_cons.mpr
      ⟨ha.header, fun r hr => ha.body _ (List.mem_map_of_mem hr)⟩⟩
  · rintro ⟨hc, hm, ha⟩
    obtain ⟨hh, hb⟩ := List.forall_mem_cons.mp ha
    refine ⟨hc, ?_, hm⟩
    rw [grid_mk hd]
    refine ⟨hh, fun ts hts => ?_⟩
    obtain ⟨r, hr, rfl⟩ := List.mem_map.mp hts
    exact hb r hr

/-- Each row of a table that was read is read from a line of its own. -/
theorem exists_line_of_mem {lines : List Text} {r : Row} (hr : r ∈ (ofLines m lines).rows) :
    ∃ line, r = Row.ofLine m line := by
  obtain ⟨line, -, rfl⟩ := List.mem_map.mp hr
  exact ⟨line, rfl⟩

/-- Whatever it was read from, a table whose header has a cell is sound once it is complete. -/
theorem sound_complete_ofLines (hs : 0 < s.minDelimiterWidth) {lines : List Text}
    (h : 0 < (ofLines m lines).headerWidth) : ((ofLines m lines).complete s).Sound m := by
  have hcomplete := complete_complete hs h
  obtain ⟨header, rows, heq, hw⟩ := exists_rows_of_headerWidth_pos h
  have hread : ∀ r ∈ header :: rows, ∃ line, r = Row.ofLine m line := by
    intro r hr
    have hr' : r ∈ (ofLines m lines).rows := by rwa [heq]
    exact exists_line_of_mem hr'
  have hbody : ∀ r ∈ (Table.mk (header :: rows)).body, r ∈ header :: rows :=
    fun r hr => List.mem_of_mem_drop hr
  obtain ⟨line, rfl⟩ := hread header List.mem_cons_self
  rw [heq] at hcomplete ⊢
  rw [complete_mk] at hcomplete ⊢
  rw [sound_mk_iff (completeDelimiter_spec hs hw fun d => isDelimiter_of_delimiter?).1]
  refine ⟨hcomplete, Row.margin_ofLine m line,
    List.forall_mem_cons.mpr ⟨Row.apart_ofLine m line, fun r hr => ?_⟩⟩
  obtain ⟨r', hr', rfl⟩ := List.mem_map.mp hr
  obtain ⟨line', rfl⟩ := hread r' (hbody r' hr')
  rw [Row.contents_completeText (Row.blank_marginRight_ofLine m line')]
  have hapart : Row.Apart ((Row.ofLine m line').contents ++ []) := by
    rw [List.append_nil]
    exact Row.apart_ofLine m line'
  have := hapart.insert_replicate ((Row.ofLine m line).width - (Row.ofLine m line').width)
  rwa [List.append_nil] at this

/-- The table of some table lines is sound once it is complete. -/
theorem sound_complete_block (hs : 0 < s.minDelimiterWidth) (hm : m.Simple) {block : List Text}
    (hblock : ∀ l ∈ block, m.isTableLine l = true) (hne : block ≠ []) :
    ((ofLines m block).complete s).Sound m := by
  obtain ⟨line, lines, rfl⟩ := List.exists_cons_of_ne_nil hne
  have hcells := Row.cells_ofLine_ne_nil hm (hblock line List.mem_cons_self)
  exact sound_complete_ofLines hs (List.length_pos_iff.mpr hcells)

namespace Sound

/-- The layout of a sound table can be read back row by row. -/
theorem laid_format (hs : 0 < s.minDelimiterWidth) (ht : t.Sound m) :
    ∀ r ∈ (t.format s).rows, r.Laid m := by
  rw [format_eq_layout s ht.complete]
  exact Grid.laid_layout hs ht.complete.full t.trimmed_grid ht.apart ht.margin

/-- Every line of the layout is a table line. -/
theorem lines_format (hs : 0 < s.minDelimiterWidth) (ht : t.Sound m) :
    ∀ l ∈ (t.format s).lines, m.isTableLine l = true := by
  intro l hl
  obtain ⟨r, hr, rfl⟩ := List.mem_map.mp hl
  exact (ht.laid_format hs r hr).isTableLine

/-- The layout of a sound table is read back as it is. -/
theorem ofLines_format (hm : m.Simple) (hs : 0 < s.minDelimiterWidth) (ht : t.Sound m) :
    ofLines m (t.format s).lines = t.format s := by
  -- row by row, for rows are read apart from each other
  have hrows : ∀ r ∈ (t.format s).rows, (Row.ofLine m ∘ Row.text) r = id r :=
    fun r hr => (ht.laid_format hs r hr).ofLine_text hm
  rw [ofLines, lines, List.map_map, List.map_congr_left hrows, List.map_id]

/-- The layout of a sound table is complete. -/
theorem complete_format (hs : 0 < s.minDelimiterWidth) (ht : t.Sound m) :
    (t.format s).Complete := ht.complete.format hs

/-- The layout of a sound table is sound. -/
theorem format (hs : 0 < s.minDelimiterWidth) (ht : t.Sound m) : (t.format s).Sound m :=
  ⟨ht.complete_format hs, (ht.complete.grid_format hs).symm ▸ ht.apart,
    ht.complete.marginLeft_format.symm ▸ ht.margin⟩

/-- Laying out a sound table twice is laying it out once. -/
theorem format_format (hs : 0 < s.minDelimiterWidth) (ht : t.Sound m) :
    (t.format s).format s = t.format s := by
  rw [format_eq_layout s (ht.complete_format hs), ht.complete.grid_format hs,
    ht.complete.marginLeft_format, ← format_eq_layout s ht.complete]

/-- A laid out table holds the contents that it was laid out from. -/
theorem contents_format (hs : 0 < s.minDelimiterWidth) (ht : t.Sound m) :
    (t.format s).textRows.map Row.contents = t.textRows.map Row.contents := by
  have hgrid := ht.complete.grid_format hs
  obtain ⟨h, d, b, rfl, hd⟩ := ht.complete.exists_rows
  obtain ⟨h', d', b', heq, hd'⟩ := (ht.complete_format hs).exists_rows
  rw [heq, grid_mk hd', grid_mk hd] at hgrid
  obtain ⟨hheader, -, hbody⟩ := Grid.mk.inj hgrid
  simp [heq, hd', hd, hheader, hbody]

/-- Laying out changes no alignment. -/
theorem alignments_format (hs : 0 < s.minDelimiterWidth) (ht : t.Sound m) :
    (t.format s).alignments = t.alignments := by
  rw [alignments_eq, alignments_eq, ht.complete.grid_format hs]

end Sound

/-! ## Reading what was written -/

/-- Whatever the lines are, if the first one has a cell: the table read from them is completed, and
the layout of the complete table is read back as it is, margins and blanks included. It has the
contents of the complete table cell by cell, a delimiter row behind the header, and the alignments
that were read. -/
theorem read_written_table (o : Options) (hm : o.margin.Simple) (first : Text) (rest : List Text)
    (hw : 0 < (Row.ofLine o.margin first).width) :
    ∃ t, (ofLines o.margin (first :: rest)).complete? o.toStyle = .ok t ∧
      ofLines o.margin (t.format o.toStyle).lines = t.format o.toStyle ∧
      (t.format o.toStyle).textRows.map Row.contents = t.textRows.map Row.contents ∧
      (∃ d, (t.format o.toStyle).rows[1]? = some d ∧ d.isDelimiter = true) ∧
      (t.format o.toStyle).alignments = t.alignments ∧
      t.alignments = (ofLines o.margin (first :: rest)).alignments := by
  have hs := o.minDelimiterWidth_pos
  have hwidth : 0 < (ofLines o.margin (first :: rest)).headerWidth := hw
  have ht := sound_complete_ofLines hs hwidth
  obtain ⟨h, d, b, heq, hd⟩ := (ht.complete_format hs).exists_rows
  refine ⟨_, rfl, ht.ofLines_format hm hs, ht.contents_format hs, ⟨d, ?_, hd⟩,
    ht.alignments_format hs, alignments_complete hs hwidth⟩
  rw [heq]
  rfl

/-- A quoted table without a delimiter row, whose rows end in an open code span and in a lone
backslash. -/
theorem read_written_table_quoted :
    ∃ t, (ofLines ⟨[['>']]⟩ ["> a | `b".toList, "> | `|` \\".toList]).complete? {} = .ok t ∧
      ofLines ⟨[['>']]⟩ (t.format {}).lines = t.format {} := by
  obtain ⟨t, hcomplete, hread, -⟩ := read_written_table { leftMarginChars := [['>']] }
    (by unfold Margin.Simple; decide) "> a | `b".toList ["> | `|` \\".toList] (by decide)
  exact ⟨t, hcomplete, hread⟩

end Table

end TextTable
