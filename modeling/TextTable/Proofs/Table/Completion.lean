import TextTable.Proofs.Table.Aligned
import TextTable.Proofs.Table.Places

/-!
# What completing keeps

Completing a table adds to it and takes nothing away but the text behind a short delimiter row. Each
row is *continued* (`Row.ContinuedBy`, `continuedBy_completedRow`): it keeps its margin and its
cells, and more cells may follow. So the columns on the screen stay what they were
(`Place.screenColumn_continued`), and a focus on the table still names its place once the rows below
the header have moved down for a new delimiter row (`CompletedTo.positionOf?`).
-/

namespace TextTable

namespace Row

variable {r r' : Row} {column offset : Int}

/-! ## Continued rows -/

/-- The other row begins like this one, and may have more cells. -/
structure ContinuedBy (r r' : Row) : Prop where
  marginLeft : r'.marginLeft = r.marginLeft
  cells : r.cells <+: r'.cells

/-- Padding puts cells behind those that are there. -/
theorem continuedBy_padTo (r : Row) (w : Nat) (first rest : Cell) :
    r.ContinuedBy (r.padTo w first rest) := by
  rw [padTo]
  split
  · exact ⟨rfl, List.prefix_append _ _⟩
  · exact ⟨rfl, List.prefix_refl _⟩

/-- A row that is wide enough is not padded. -/
theorem padTo_of_le {w : Nat} (h : w ≤ r.width) (first rest : Cell) :
    r.padTo w first rest = r := if_neg (Nat.not_lt.mpr h)

/-- What stands behind the last pipe of a short row is the first cell that the row gets. -/
theorem getElem?_completeText {w : Nat} (h : r.width < w) :
    (Table.completeText w r).cells[r.width]? = some ⟨r.marginRight⟩ := by
  rw [Table.completeText, padTo, if_pos h, width,
    List.getElem?_append_right (Nat.le_refl _), Nat.sub_self]
  rfl

/-- The line of a row is continued: only what follows its end is new. -/
theorem text_prefix_completeText (hr : r.cells ≠ []) (w : Nat) :
    r.text <+: (Table.completeText w r).text := by
  rw [Table.completeText, padTo]
  split
  · rw [text_eq_margins hr, text_eq_margins (List.append_ne_nil_of_left_ne_nil hr _),
      cellsText_append, cellsText_cons]
    simp
  · exact List.prefix_refl _

/-- A place of a row has the same column on the screen in a row that continues it. -/
theorem Place.screenColumn_continued (h : r.Place column offset) (hr : r.ContinuedBy r') :
    r'.screenColumn column offset = r.screenColumn column offset := by
  have hstart : ∀ j ≤ r.width, r'.columnStart j = r.columnStart j := fun j hj => by
    obtain ⟨more, hmore⟩ := hr.cells
    rw [columnStart, columnStart, hr.marginLeft, ← hmore, List.take_append_of_le_length hj]
  cases h with
  | margin x _ => rfl
  | cell j x c hc _ =>
    have hj : j ≤ r.width := Nat.le_of_lt (List.getElem?_eq_some_iff.mp hc).1
    simp [hstart j hj]
  | behind x => simp [hstart r.width (Nat.le_refl _)]

end Row

namespace Table

variable {s : Style} {t : Table} {i : Nat} {r : Row}

/-! ## Rows of the complete table -/

/-- The index of a row once the table is complete. -/
def completedIndex (t : Table) (i : Nat) : Nat := if t.lacksDelimiter ∧ 0 < i then i + 1 else i

/-- A row once the table is complete. -/
def completedRow (s : Style) (t : Table) (i : Nat) (r : Row) : Row :=
  if t.DelimiterAt i then completeDelimiter s t.headerWidth (some r)
  else completeText t.headerWidth r

/-- A row of text is continued by the text behind it and empty cells. -/
theorem completedRow_text (hi : ¬ t.DelimiterAt i) (r : Row) :
    t.completedRow s i r = completeText t.headerWidth r := if_neg hi

/-- A delimiter row is continued by delimiter cells. -/
theorem completedRow_delimiter (hi : t.DelimiterAt i) (r : Row) :
    t.completedRow s i r = completeDelimiter s t.headerWidth (some r) := if_pos hi

/-- A row that is wide enough is complete as it is. -/
theorem completedRow_of_le (s : Style) (i : Nat) (h : t.headerWidth ≤ r.width) :
    t.completedRow s i r = r := by
  rw [completedRow]
  split
  · exact Row.padTo_of_le h _ _
  · exact Row.padTo_of_le h _ _

theorem completedRow_header (s : Style) (h : Row) (rows : List Row) :
    (⟨h :: rows⟩ : Table).completedRow s 0 h = h :=
  completedRow_of_le s 0 (Nat.le_refl h.width)

/-- Each row is completed, and the rows below the header make room for a new delimiter row. -/
theorem getElem?_complete (s : Style) (h : Row) (rows : List Row) (i : Nat) :
    ((⟨h :: rows⟩ : Table).complete s).rows[(⟨h :: rows⟩ : Table).completedIndex i]? =
      (h :: rows)[i]?.map (completedRow s ⟨h :: rows⟩ i) := by
  rw [complete_mk]
  rcases below_header h rows with ⟨hnone, hbody⟩ | ⟨d, b, rfl, hsome, hbody⟩
  · have hlacks : (⟨h :: rows⟩ : Table).lacksDelimiter = true := by
      rw [lacksDelimiter, hnone]
      rfl
    rw [hnone, hbody]
    cases i with
    | zero =>
      rw [completedIndex, if_neg fun hi => absurd hi.2 (Nat.lt_irrefl 0)]
      exact congrArg some (completedRow_header s h rows).symm
    | succ i =>
      rw [completedIndex, if_pos ⟨hlacks, Nat.succ_pos i⟩, List.getElem?_cons_succ,
        List.getElem?_cons_succ, List.getElem?_cons_succ, List.getElem?_map]
      exact congrArg (rows[i]?.map ·)
        (funext fun r => (completedRow_text (not_delimiterAt_of_none hnone (i + 1)) r).symm)
  · have hdelimited : (⟨h :: d :: b⟩ : Table).delimiter?.isSome = true := by
      rw [hsome]
      rfl
    rw [hsome, hbody, completedIndex, lacksDelimiter_eq_false hdelimited,
      if_neg fun hi => Bool.false_ne_true hi.1]
    rcases i with _ | _ | i
    · exact congrArg some (completedRow_header s h (d :: b)).symm
    · exact congrArg some (completedRow_delimiter ⟨rfl, hdelimited⟩ d).symm
    · rw [List.getElem?_cons_succ, List.getElem?_cons_succ, List.getElem?_cons_succ,
        List.getElem?_cons_succ, List.getElem?_map]
      exact congrArg (b[i]?.map ·)
        (funext fun r =>
          (completedRow_text (not_delimiterAt_add_two ⟨h :: d :: b⟩ i) r).symm)

/-- Whatever the row is, completing continues it. -/
theorem continuedBy_completedRow (s : Style) (t : Table) (i : Nat) (r : Row) :
    r.ContinuedBy (t.completedRow s i r) := by
  rw [completedRow]
  split
  · exact Row.continuedBy_padTo r _ _ _
  · exact Row.continuedBy_padTo r _ _ _

/-- The complete table has all rows of the table in their order, and a new delimiter row below the
header if and only if the table has none. -/
structure CompletedTo (t t' : Table) : Prop where
  delimited : ∃ d, t'.rows[1]? = some d ∧ d.isDelimiter = true
  wide : ∀ r ∈ t'.rows, t.headerWidth ≤ r.width
  height : t'.height = t.height + if t.lacksDelimiter then 1 else 0
  /-- a row keeps its margin and its cells, and one that is wide enough stays as it is -/
  continued : ∀ i r, t.rows[i]? = some r →
    ∃ r', t'.rows[t.completedIndex i]? = some r' ∧ r.ContinuedBy r' ∧
      (t.headerWidth ≤ r.width → r' = r)
  /-- a text row keeps its line, and what stands behind the last pipe of a short one is a cell -/
  text : ∀ i r, t.rows[i]? = some r → ¬ t.DelimiterAt i → r.cells ≠ [] →
    ∃ r', t'.rows[t.completedIndex i]? = some r' ∧ r.text <+: r'.text ∧
      (r.width < t.headerWidth → r'.cells[r.width]? = some ⟨r.marginRight⟩)

/-- A table with a column is completed as it should be. -/
theorem completedTo_complete (hs : 0 < s.minDelimiterWidth) (hw : 0 < t.headerWidth) :
    t.CompletedTo (t.complete s) := by
  have hcomplete := complete_complete hs hw
  obtain ⟨h, rows, rfl, -⟩ := exists_rows_of_headerWidth_pos hw
  have hrow : ∀ i r, (h :: rows)[i]? = some r →
      ((⟨h :: rows⟩ : Table).complete s).rows[(⟨h :: rows⟩ : Table).completedIndex i]? =
        some (completedRow s ⟨h :: rows⟩ i r) := fun i r hr => by
    rw [getElem?_complete, hr, Option.map_some]
  obtain ⟨d, hd⟩ := Option.isSome_iff_exists.mp hcomplete.delimited
  exact {
    delimited := ⟨d, Option.filter_eq_some_iff.mp hd⟩
    wide := hcomplete.headerWidth_le
    height := height_complete s h rows
    continued := fun i r hr =>
      ⟨_, hrow i r hr, continuedBy_completedRow s _ i r, completedRow_of_le s i⟩
    text := fun i r hr hi hcells => by
      refine ⟨_, hrow i r hr, ?_⟩
      rw [completedRow_text hi]
      exact ⟨Row.text_prefix_completeText hcells _, Row.getElem?_completeText⟩ }

/-! ## Foci on the complete table -/

@[simp] theorem completed_natCast (t : Table) (i : Nat) (column offset : Int) :
    (⟨i, column, offset⟩ : Focus).completed t = ⟨t.completedIndex i, column, offset⟩ := by
  have hpos : (0 : Int) < i ↔ 0 < i := Int.natCast_pos
  simp only [Focus.completed, completedIndex, hpos]
  split <;> rfl

/-- A place has the same column on the screen once the table is complete. -/
theorem CompletedTo.positionOf? {t' : Table} (h : t.CompletedTo t') {f : Focus} {p : Position}
    {top : Int} (hf : t.focusAt? p top = some f) :
    t'.positionOf? (f.completed t) top =
      some ⟨if t.lacksDelimiter ∧ top < p.row then p.row + 1 else p.row, p.column⟩ := by
  obtain ⟨⟨i, r, hrow, hr, hplace⟩, hposition⟩ := focusAt?_eq_some_iff.mp hf
  obtain ⟨row, column, offset⟩ := f
  obtain rfl : row = i := hrow
  obtain ⟨r', hr', hcontinued, -⟩ := h.continued i r hr
  rw [positionOf?_screenColumn hr] at hposition
  obtain rfl := Option.some.inj hposition
  rw [completed_natCast, positionOf?_screenColumn hr', hplace.screenColumn_continued hcontinued]
  have hbelow : top < i + top ↔ 0 < i := by omega
  simp only [completedIndex, hbelow]
  split
  · congr 2
    omega
  · rfl

/-- Whatever the rows look like, completing a table whose header has a cell puts in what is missing
and keeps the rest: rows, cells, lines and the places of all positions. In the complete table there
is nothing left to complete. -/
theorem complete_keeps (o : Options) (t : Table) (hw : 0 < t.headerWidth) :
    ∃ t', t.complete? o.toStyle = .ok t' ∧ t.CompletedTo t' ∧
      t'.complete? o.toStyle = .ok t' ∧ t'.lacksDelimiter = false ∧
      ∀ (p : Position) (top : Int), top ≤ p.row → p.row < top + t.height →
        ∃ f, t.focusAt? p top = some f ∧
          t'.positionOf? (f.completed t) top =
            some ⟨if t.lacksDelimiter ∧ top < p.row then p.row + 1 else p.row, p.column⟩ := by
  have hs := o.minDelimiterWidth_pos
  have hcomplete := complete_complete hs hw
  have hto := completedTo_complete hs hw
  obtain ⟨h, rows, rfl, -⟩ := exists_rows_of_headerWidth_pos hw
  refine ⟨_, rfl, hto, ?_, lacksDelimiter_eq_false hcomplete.delimited, ?_⟩
  · exact congrArg Except.ok hcomplete.complete_eq
  · intro p top hlow hhigh
    obtain ⟨f, hf⟩ := exists_focusAt? hlow hhigh
    exact ⟨f, hf, hto.positionOf? hf⟩

/-- A table without a delimiter row, whose second row is short and indented, and a position behind
the last pipe of this row. -/
theorem complete_keeps_ragged :
    0 < (ofLines ⟨[]⟩ ["|a|b|".toList, "  |1| 2".toList]).headerWidth ∧
    ∃ t', (ofLines ⟨[]⟩ ["|a|b|".toList, "  |1| 2".toList]).complete? ({} : Options).toStyle =
        .ok t' ∧
      (ofLines ⟨[]⟩ ["|a|b|".toList, "  |1| 2".toList]).CompletedTo t' ∧
      ∃ f, (ofLines ⟨[]⟩ ["|a|b|".toList, "  |1| 2".toList]).focusAt? ⟨5, 6⟩ 4 = some f ∧
        t'.positionOf? (f.completed (ofLines ⟨[]⟩ ["|a|b|".toList, "  |1| 2".toList])) 4 =
          some ⟨6, 6⟩ := by
  obtain ⟨t', hcomplete, hto, -, -, hplace⟩ :=
    complete_keeps {} (ofLines ⟨[]⟩ ["|a|b|".toList, "  |1| 2".toList]) (by decide)
  exact ⟨by decide, t', hcomplete, hto, hplace ⟨5, 6⟩ 4 (by decide) (by decide)⟩

end Table

end TextTable
