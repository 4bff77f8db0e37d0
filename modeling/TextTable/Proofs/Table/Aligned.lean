import TextTable.Proofs.Table.Height
import TextTable.Proofs.Table.Layout

/-!
# The columns of a layout

In the normal format all cells of a column are equally wide, and the width is the least one that
*fits* (`columnWidth_le_iff`): it has room for every content of the column and, where the delimiter
row has a cell, for the dashes that the style asks for. Tables need not be complete for this. A
column that only a body row has gets its width from there, and is aligned like one whose delimiter
cell states nothing (`aligned_alignedRow`).
-/

namespace TextTable

/-! ## Cells -/

/-- A text set into `w` screen columns with a space more at each end. The free columns stand behind
it, before it, or half of them on either side, with the odd one behind. -/
def Side.Sets (side : Side) (o : WidthOptions) (w : Nat) (t raw : Text) : Prop :=
  ∃ before behind, raw = ' ' :: Text.spaces before ++ t ++ Text.spaces behind ++ [' '] ∧
    before + o.width t + behind = w ∧
    match side with
    | .left => before = 0
    | .right => behind = 0
    | .center => before = (before + behind) / 2

/-- No more space goes before a text than there is. -/
theorem Side.spaceBefore_le (side : Side) (space : Nat) : side.spaceBefore space ≤ space := by
  cases side with
  | left => exact Nat.zero_le space
  | right => exact Nat.le_refl space
  | center => exact Nat.div_le_self space 2

/-- Where there is room for a text, padding sets it. -/
theorem Side.sets_pad (side : Side) {o : WidthOptions} {w : Nat} {t : Text} (h : o.width t ≤ w) :
    side.Sets o w t (side.pad o w t) := by
  have hle := side.spaceBefore_le (w - o.width t)
  refine ⟨side.spaceBefore (w - o.width t), w - o.width t - side.spaceBefore (w - o.width t), rfl,
    by omega, ?_⟩
  cases side with
  | left => rfl
  | right => exact Nat.sub_self _
  | center =>
    rw [Nat.add_sub_cancel' hle]
    rfl

/-- A delimiter cell is a row of dashes with a colon or a blank at each end. -/
theorem Alignment.delimiterText_eq_dashes (a : Alignment) (w : Nat) :
    a.delimiterText w = (if a = some .left ∨ a = some .center then ':' else ' ') ::
      List.replicate w '-' ++ [if a = some .right ∨ a = some .center then ':' else ' '] := by
  simp only [delimiterText, colonLeft, colonRight, Bool.or_eq_true, decide_eq_true_eq]

@[simp] theorem Alignment.length_delimiterText (a : Alignment) (w : Nat) :
    (a.delimiterText w).length = w + 2 := by
  rw [delimiterText, List.length_append, List.length_cons, List.length_replicate,
    List.length_singleton]

namespace Table

variable {s : Style} {t : Table}

/-! ## Rows by their index -/

/-- The row at an index is the delimiter row. -/
def DelimiterAt (t : Table) (i : Nat) : Prop := i = 1 ∧ t.delimiter?.isSome = true

instance (t : Table) (i : Nat) : Decidable (t.DelimiterAt i) := inferInstanceAs (Decidable (_ ∧ _))

theorem not_delimiterAt_zero (t : Table) : ¬ t.DelimiterAt 0 := fun h => absurd h.1 (by decide)

/-- Without a delimiter row, all rows are rows of text. -/
theorem not_delimiterAt_of_none (h : t.delimiter? = none) (i : Nat) : ¬ t.DelimiterAt i := by
  rw [DelimiterAt, h]
  exact fun hi => absurd hi.2 (by decide)

theorem not_delimiterAt_add_two (t : Table) (i : Nat) : ¬ t.DelimiterAt (i + 2) := fun h =>
  absurd h.1 (by omega)

/-- The rows below the header are the body, or the delimiter row and the body. -/
theorem below_header (h : Row) (rows : List Row) :
    ((⟨h :: rows⟩ : Table).delimiter? = none ∧ (⟨h :: rows⟩ : Table).body = rows) ∨
      ∃ d b, rows = d :: b ∧ (⟨h :: rows⟩ : Table).delimiter? = some d ∧
        (⟨h :: rows⟩ : Table).body = b := by
  rcases rows with _ | ⟨d, b⟩
  · exact .inl ⟨rfl, rfl⟩
  · by_cases hd : d.isDelimiter = true
    · exact .inr ⟨d, b, rfl, delimiter?_mk hd, body_mk hd⟩
    · have hnone : (⟨h :: d :: b⟩ : Table).delimiter? = none := by
        rw [delimiter?, List.getElem?_cons_succ, List.getElem?_cons_zero, Option.filter_some,
          if_neg hd]
      exact .inl ⟨hnone, by rw [body, hnone]; rfl⟩

/-- The text rows are those at the other indices. -/
theorem mem_textRows_iff {r : Row} :
    r ∈ t.textRows ↔ ∃ i, t.rows[i]? = some r ∧ ¬ t.DelimiterAt i := by
  obtain ⟨_ | ⟨h, rows⟩⟩ := t
  · simp [textRows, header?, body]
  · rw [textRows, header?, List.head?_cons, Option.toList_some, List.singleton_append]
    rcases below_header h rows with ⟨hnone, hbody⟩ | ⟨d, b, rfl, hsome, hbody⟩
    · rw [hbody, List.mem_iff_getElem?]
      exact exists_congr fun i => (and_iff_left (not_delimiterAt_of_none hnone i)).symm
    · rw [hbody]
      constructor
      · intro hr
        rcases List.mem_cons.mp hr with rfl | hr
        · exact ⟨0, rfl, not_delimiterAt_zero _⟩
        · obtain ⟨i, hi⟩ := List.mem_iff_getElem?.mp hr
          exact ⟨i + 2, hi, not_delimiterAt_add_two _ i⟩
      · rintro ⟨_ | _ | i, hi, hnot⟩
        · obtain rfl := Option.some.inj hi
          exact List.mem_cons_self
        · exact absurd ⟨rfl, by rw [hsome]; rfl⟩ hnot
        · exact List.mem_cons_of_mem _ (List.mem_of_getElem? hi)

/-! ## Widths -/

/-- A number of screen columns that is enough for a column: for all its contents, and for its dashes
if the delimiter row has a cell there. -/
structure Fits (s : Style) (t : Table) (j n : Nat) : Prop where
  content : ∀ i r c, t.rows[i]? = some r → ¬ t.DelimiterAt i → r.cells[j]? = some c →
    s.widthOptions.width c.content ≤ n
  dashes : ∀ d, t.delimiter? = some d → j < d.width → s.minDelimiterWidth ≤ n

/-- The demand of a cell that is missing is met by any width. -/
theorem contentWidth_le_iff {o : WidthOptions} {j n : Nat} {r : Row} :
    contentWidth o j r ≤ n ↔ ∀ c, r.cells[j]? = some c → o.width c.content ≤ n := by
  rw [contentWidth]
  cases r.cells[j]? with
  | none => simp
  | some c => simp

/-- A delimiter row demands room for dashes in the columns that it has. -/
theorem delimiterDemand_le_iff {j n : Nat} :
    t.delimiterDemand s j ≤ n ↔
      ∀ d, t.delimiter? = some d → j < d.width → s.minDelimiterWidth ≤ n := by
  rw [delimiterDemand]
  cases t.delimiter? with
  | none => simp
  | some d =>
    rw [Option.map_some, Option.getD_some]
    split
    · next h => simp [h]
    · next h => simp [h]

/-- The width of a column is the least one that fits. -/
theorem columnWidth_le_iff {j n : Nat} : t.columnWidth s j ≤ n ↔ t.Fits s j n := by
  rw [columnWidth, foldr_max_le_iff, delimiterDemand_le_iff, List.forall_mem_map]
  simp only [contentWidth_le_iff, mem_textRows_iff]
  constructor
  · rintro ⟨hdashes, hcontent⟩
    exact ⟨fun i r c hr hi => hcontent r ⟨i, hr, hi⟩ c, hdashes⟩
  · intro h
    refine ⟨h.dashes, fun r hr c => ?_⟩
    obtain ⟨i, hr, hi⟩ := hr
    exact h.content i r c hr hi

/-! ## Rows of a layout -/

/-- The side that a cell of a text row goes to: the one that is fixed for the header, or else the
one that the delimiter row states for the column, or else the default. -/
def sideAt (s : Style) (t : Table) (i j : Nat) : Side :=
  match if i = 0 then s.headerAlignment else .follow with
  | .fixed side => side
  | .follow => (t.alignmentAt j).getD s.defaultAlignment

/-- What the row at an index becomes in the normal format. -/
def alignedRow (s : Style) (t : Table) (i : Nat) (r : Row) : Row :=
  if t.DelimiterAt i then alignDelimiter t.marginLeft (t.columns s) r
  else alignRow s (if i = 0 then headerSide s else bodySide s) t.marginLeft (t.columns s) r

theorem alignedRow_text {i : Nat} (hi : ¬ t.DelimiterAt i) (r : Row) :
    t.alignedRow s i r =
      alignRow s (if i = 0 then headerSide s else bodySide s) t.marginLeft (t.columns s) r :=
  if_neg hi

theorem alignedRow_delimiter {i : Nat} (hi : t.DelimiterAt i) (r : Row) :
    t.alignedRow s i r = alignDelimiter t.marginLeft (t.columns s) r := if_pos hi

/-- Each row is laid out where it stands. -/
theorem getElem?_formatNormal (s : Style) (h : Row) (rows : List Row) (i : Nat) :
    ((⟨h :: rows⟩ : Table).formatNormal s).rows[i]? =
      (h :: rows)[i]?.map (alignedRow s ⟨h :: rows⟩ i) := by
  have hheader := alignedRow_text (s := s) (not_delimiterAt_zero ⟨h :: rows⟩) h
  rw [if_pos rfl] at hheader
  rw [formatNormal, header?, List.head?_cons, Option.toList_some, List.map_singleton]
  rcases below_header h rows with ⟨hnone, hbody⟩ | ⟨d, b, rfl, hsome, hbody⟩
  · rw [hnone, hbody, Option.toList_none, List.map_nil, List.append_nil, List.singleton_append,
      ← hheader]
    cases i with
    | zero => rfl
    | succ i =>
      rw [List.getElem?_cons_succ, List.getElem?_cons_succ, List.getElem?_map]
      exact congrArg (rows[i]?.map ·)
        (funext fun r => (alignedRow_text (not_delimiterAt_of_none hnone (i + 1)) r).symm)
  · rw [hsome, hbody, Option.toList_some, List.map_singleton, List.append_assoc,
      List.singleton_append, List.singleton_append, ← hheader]
    rcases i with _ | _ | i
    · rfl
    · have hdelimiter : (⟨h :: d :: b⟩ : Table).DelimiterAt 1 := ⟨rfl, by rw [hsome]; rfl⟩
      exact congrArg some (alignedRow_delimiter hdelimiter d).symm
    · rw [List.getElem?_cons_succ, List.getElem?_cons_succ, List.getElem?_map]
      exact congrArg (b[i]?.map ·)
        (funext fun r => (alignedRow_text (not_delimiterAt_add_two _ i) r).symm)

/-- No row is wider than the table. -/
theorem width_le_breadth {r : Row} (hr : r ∈ t.rows) : r.width ≤ t.breadth :=
  le_foldr_max (List.mem_map_of_mem hr)

theorem getElem?_columns {j : Nat} (hj : j < t.breadth) :
    (t.columns s)[j]? = some ⟨t.columnWidth s j, t.alignmentAt j⟩ := by
  rw [columns, List.getElem?_map, List.getElem?_range hj, Option.map_some]

/-- No cell of a row is lost for want of a column. -/
theorem length_zipWith_columns (f : Column → Cell → Cell) {r : Row} (hr : r ∈ t.rows) :
    (List.zipWith f (t.columns s) r.cells).length = r.width := by
  rw [List.length_zipWith, columns, List.length_map, List.length_range]
  exact Nat.min_eq_right (width_le_breadth hr)

/-- Each cell of a row is laid out by the column that it is in. -/
theorem getElem?_zipWith_columns (f : Column → Cell → Cell) {r : Row} (hr : r ∈ t.rows) {j : Nat}
    {c : Cell} (hc : r.cells[j]? = some c) :
    (List.zipWith f (t.columns s) r.cells)[j]? =
      some (f ⟨t.columnWidth s j, t.alignmentAt j⟩ c) := by
  obtain ⟨hj, -⟩ := List.getElem?_eq_some_iff.mp hc
  rw [List.getElem?_zipWith, getElem?_columns (hj.trans_le (width_le_breadth hr)), hc]

/-- The side that a column has for a row depends on its alignment, not on its width. -/
theorem side_eq_sideAt (s : Style) (t : Table) (i j w : Nat) :
    (if i = 0 then headerSide s else bodySide s) ⟨w, t.alignmentAt j⟩ = t.sideAt s i j := by
  rw [sideAt]
  cases i with
  | zero =>
    rw [if_pos rfl, if_pos rfl, headerSide]
    cases s.headerAlignment <;> rfl
  | succ i => rw [if_neg (Nat.succ_ne_zero i), if_neg (Nat.succ_ne_zero i), bodySide]

/-- Each cell of a delimiter row states an alignment. -/
theorem alignment?_of_delimiterAt {i j : Nat} {r : Row} {c : Cell} (hi : t.DelimiterAt i)
    (hr : t.rows[i]? = some r) (hc : r.cells[j]? = some c) :
    c.alignment? = some (t.alignmentAt j) := by
  obtain ⟨rfl, hsome⟩ := hi
  obtain ⟨d, hd⟩ := Option.isSome_iff_exists.mp hsome
  obtain ⟨hrow, hdelimiter⟩ := Option.filter_eq_some_iff.mp hd
  obtain rfl := Option.some.inj (hrow.symm.trans hr)
  have hcell := (Row.isDelimiter_iff.mp hdelimiter).2 c (List.mem_of_getElem? hc)
  rw [alignmentAt, hd, Option.bind_some, hc, Option.bind_some, Cell.alignment?, if_pos hcell]
  rfl

/-! ## The normal format -/

/-- A row is laid out in the normal format: its margins are those of the header and none, it has as
many cells as before, each content is set into its column to the side that is asked for, and each
delimiter cell has as many dashes as its column is wide, with the colons of its alignment. -/
structure Aligned (s : Style) (t : Table) (i : Nat) (r r' : Row) : Prop where
  marginLeft : r'.marginLeft = t.marginLeft
  marginRight : r'.marginRight = []
  width : r'.width = r.width
  text : ¬ t.DelimiterAt i → ∀ j c, r.cells[j]? = some c → ∃ c', r'.cells[j]? = some c' ∧
    (t.sideAt s i j).Sets s.widthOptions (t.columnWidth s j) c.content c'.raw
  dashes : t.DelimiterAt i → ∀ j c, r.cells[j]? = some c → ∃ a c', c.alignment? = some a ∧
    r'.cells[j]? = some c' ∧ c'.raw.length = t.columnWidth s j + 2 ∧
    c'.raw = (if a = some .left ∨ a = some .center then ':' else ' ') ::
      List.replicate (t.columnWidth s j) '-' ++
      [if a = some .right ∨ a = some .center then ':' else ' ']

/-- Each row of the layout is aligned, whether it holds text or dashes. -/
theorem aligned_alignedRow {i : Nat} {r : Row} (hr : t.rows[i]? = some r) :
    t.Aligned s i r (t.alignedRow s i r) := by
  have hmem : r ∈ t.rows := List.mem_of_getElem? hr
  by_cases hi : t.DelimiterAt i
  · rw [alignedRow_delimiter hi]
    refine ⟨rfl, rfl, length_zipWith_columns _ hmem, fun hnot => absurd hi hnot,
      fun _ j c hc => ?_⟩
    refine ⟨t.alignmentAt j, _, alignment?_of_delimiterAt hi hr hc,
      getElem?_zipWith_columns _ hmem hc, ?_, ?_⟩
    · exact Alignment.length_delimiterText ..
    · exact Alignment.delimiterText_eq_dashes ..
  · rw [alignedRow_text hi]
    refine ⟨rfl, rfl, length_zipWith_columns _ hmem, fun _ j c hc => ?_, fun h => absurd h hi⟩
    have hfits := columnWidth_le_iff.mp (Nat.le_refl (t.columnWidth s j))
    refine ⟨_, getElem?_zipWith_columns _ hmem hc, ?_⟩
    rw [← side_eq_sideAt s t i j (t.columnWidth s j)]
    exact Side.sets_pad _ (hfits.content i r c hr hi hc)

/-- The normal format keeps rows and cells. Every row is laid out in columns of the least widths
that fit. -/
theorem format_aligned (hs : s.formatType = .normal) (ht : 0 < t.headerWidth) :
    (∀ j n, t.columnWidth s j ≤ n ↔ t.Fits s j n) ∧
      (t.format s).rows.length = t.rows.length ∧
      ∀ i r, t.rows[i]? = some r → ∃ r', (t.format s).rows[i]? = some r' ∧ t.Aligned s i r r' := by
  refine ⟨fun j n => columnWidth_le_iff, height_format s t, fun i r hr => ?_⟩
  refine ⟨t.alignedRow s i r, ?_, aligned_alignedRow hr⟩
  rw [format, if_neg (Nat.ne_of_gt ht), hs]
  obtain ⟨_ | ⟨h, rows⟩⟩ := t
  · exact absurd ht (by decide)
  · exact (getElem?_formatNormal s h rows i).trans (by rw [hr]; rfl)

/-- A table whose rows differ in width. Only the body has the third column, and the header has no
cell in the second one. -/
theorem format_aligned_ragged :
    let s : Style := { defaultAlignment := .right, headerAlignment := .fixed .left }
    let t : Table := ⟨[⟨[⟨['a']⟩], ['>'], []⟩, ⟨[⟨[':', '-', ':']⟩, ⟨['-']⟩], [], [' ']⟩,
      ⟨[⟨['b', 'c', 'd', 'e']⟩, ⟨[' ', '世']⟩, ⟨['f', ' ']⟩], [], []⟩, ⟨[⟨['g']⟩], [], ['h']⟩]⟩
    (t.format s).lines = [">| a    |".toList, ">|:----:| --- |".toList,
        ">| bcde |  世 | f |".toList, ">|  g   |".toList] ∧
      s.formatType = .normal ∧ 0 < t.headerWidth ∧
      (∀ j n, t.columnWidth s j ≤ n ↔ t.Fits s j n) ∧
      (t.format s).rows.length = t.rows.length ∧
      ∀ i r, t.rows[i]? = some r → ∃ r', (t.format s).rows[i]? = some r' ∧ t.Aligned s i r r' := by
  intro s t
  exact ⟨by decide +kernel, rfl, by decide, format_aligned rfl (by decide)⟩

end Table

end TextTable
