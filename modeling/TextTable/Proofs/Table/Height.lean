import TextTable.Proofs.Table.Landing

/-!
# Heights

How many rows a table has, and which rows of the document they are: a table has a row for each line
that it was read from (`height_ofLines`), completing it puts in at most the delimiter row
(`height_complete_ofLines`), and laying it out keeps the number of rows, whatever the table is
(`height_format`). Where the table lies in the document does not matter: if it is moved down, so are
all its positions (`focusAt?_down`, `positionOf?_down`).
-/

namespace TextTable

/-- The position some rows further down. -/
def Position.down (p : Position) (rows : Int) : Position := ⟨p.row + rows, p.column⟩

@[simp]
theorem Position.down_row (p : Position) (rows : Int) : (p.down rows).row = p.row + rows := rfl

@[simp] theorem Position.down_zero (p : Position) : p.down 0 = p := by
  rw [down, Int.add_zero]

@[simp] theorem Position.down_down (p : Position) (rows rows' : Int) :
    (p.down rows).down rows' = p.down (rows + rows') := by
  rw [down, down, down, Int.add_assoc]

namespace Table

variable {s : Style} {t : Table}

/-! ## Numbers of rows -/

@[simp] theorem length_lines (t : Table) : t.lines.length = t.height := List.length_map ..

@[simp]
theorem height_ofLines (m : Margin) (lines : List Text) : (ofLines m lines).height = lines.length :=
  List.length_map ..

/-- The header, the delimiter row and the body are all rows of a table. -/
theorem height_eq (t : Table) :
    t.height = t.header?.toList.length + t.delimiter?.toList.length + t.body.length := by
  obtain ⟨_ | ⟨h, _ | ⟨d, b⟩⟩⟩ := t
  · rfl
  · rfl
  · rw [height, header?, body]
    cases (Table.mk (h :: d :: b)).delimiter? with
    | none => simp [Nat.add_comm]
    | some d' =>
      simp only [List.length_cons, List.head?_cons, Option.toList_some, List.length_nil,
        Option.isSome_some, if_true, List.length_drop]
      omega

/-- The layout of a table has as many rows as the table. -/
@[simp] theorem height_format (s : Style) (t : Table) : (t.format s).height = t.height := by
  have hrows := t.height_eq
  rw [format]
  split
  · exact List.length_map ..
  · split
    · simp only [formatNormal, height, List.length_append, List.length_map] at hrows ⊢
      exact hrows.symm
    · simp only [formatWeak, height, List.length_append, List.length_map] at hrows ⊢
      exact hrows.symm

/-- Only a missing delimiter row is put in. -/
theorem height_complete (s : Style) (h : Row) (rows : List Row) :
    ((Table.mk (h :: rows)).complete s).height =
      (Table.mk (h :: rows)).height + if (Table.mk (h :: rows)).lacksDelimiter then 1 else 0 := by
  rw [complete_mk, lacksDelimiter, body, height, height]
  cases hd : (Table.mk (h :: rows)).delimiter? with
  | none => simp
  | some d =>
    have hlen : 0 < rows.length := by
      have hrow := (Option.filter_eq_some_iff.mp hd).1
      have := (List.getElem?_eq_some_iff.mp hrow).1
      simpa using this
    simp only [Option.isSome_some, if_true, List.length_cons, List.length_map, List.length_drop,
      Option.isNone_some, if_false, Bool.false_eq_true]
    omega

/-- Completing a table that was read puts in a delimiter row or nothing. -/
theorem height_complete_ofLines (s : Style) (m : Margin) {lines : List Text} (hne : lines ≠ []) :
    ((ofLines m lines).complete s).height =
      lines.length + if (ofLines m lines).lacksDelimiter then 1 else 0 := by
  obtain ⟨line, rest, rfl⟩ := List.exists_cons_of_ne_nil hne
  rw [← height_ofLines m (line :: rest)]
  exact height_complete s _ _

/-! ## Rows of the document -/

/-- The focus of a position is in the row of the table that the position is in. -/
theorem focusAt?_row {f : Focus} {p : Position} {top : Int} (h : t.focusAt? p top = some f) :
    f.row = p.row - top ∧ 0 ≤ f.row ∧ f.row < t.height := by
  obtain ⟨r, hr, hf⟩ := Option.map_eq_some_iff.mp h
  rw [row?, Option.ite_none_right_eq_some] at hr
  obtain ⟨hpos, hr⟩ := hr
  have hlt := (List.getElem?_eq_some_iff.mp hr).1
  have hrow : f.row = p.row - top := by
    rw [← hf]
    split <;> rfl
  rw [hrow, height]
  exact ⟨rfl, hpos, by omega⟩

/-- The margin has the column before the first. -/
theorem focusAt?_column {f : Focus} {p : Position} {top : Int} (h : t.focusAt? p top = some f) :
    -1 ≤ f.column := by
  obtain ⟨r, -, rfl⟩ := Option.map_eq_some_iff.mp h
  split
  · exact Int.le_refl _
  · exact Int.le_trans (by decide) (Int.natCast_nonneg _)

/-- A position without a focus is above the table or below it. -/
theorem focusAt?_off {p : Position} {top : Int} (h : t.focusAt? p top = none) :
    p.row < top ∨ top + t.height ≤ p.row := by
  have hrow := Option.map_eq_none_iff.mp h
  by_cases hpos : 0 ≤ p.row - top
  · rw [row?, if_pos hpos, List.getElem?_eq_none_iff] at hrow
    rw [height]
    omega
  · omega

theorem Keeps.row {top : Int} {p : Position} (h : t.Keeps top p) :
    top ≤ p.row ∧ p.row < top + t.height := by
  obtain ⟨f, hf, -⟩ := h
  have := focusAt?_row hf
  omega

/-- The row of a focus stays in the table when the delimiter row is put in above it. -/
theorem completed_within (f : Focus) (t : Table) {n : Nat} (hrow : 0 ≤ f.row) (hlt : f.row < n) :
    0 ≤ (f.completed t).row ∧
      (f.completed t).row < (n + (if t.lacksDelimiter then 1 else 0) : Nat) := by
  rw [Focus.completed]
  split
  · next h =>
    rw [if_pos h.1]
    constructor
    · exact Int.le_trans hrow (Int.le_add_one (Int.le_refl _))
    · exact Int.add_lt_add_of_lt_of_le hlt (Int.le_refl 1)
  · exact ⟨hrow, by omega⟩

/-! ## Tables further down -/

/-- A position and the table move down together. -/
@[simp] theorem focusAt?_down (t : Table) (p : Position) (top rows : Int) :
    t.focusAt? (p.down rows) (top + rows) = t.focusAt? p top := by
  have hrow : (p.down rows).row - (top + rows) = p.row - top := by
    rw [Position.down_row]
    omega
  rw [focusAt?, focusAt?, hrow]
  rfl

theorem positionOf?_down (t : Table) (f : Focus) (top rows : Int) :
    t.positionOf? f (top + rows) = (t.positionOf? f top).map (·.down rows) := by
  rw [positionOf?, positionOf?, Option.map_map, ← Int.add_assoc]
  congr 1
  funext r
  rw [Function.comp_apply]
  split <;> rfl

/-- A table that stands further down keeps the places further down. -/
theorem Keeps.down {top : Int} {p : Position} (h : t.Keeps top p) (rows : Int) :
    t.Keeps (top + rows) (p.down rows) := by
  obtain ⟨f, hf, hposition⟩ := h
  refine ⟨f, (t.focusAt?_down p top rows).trans hf, ?_⟩
  rw [positionOf?_down, hposition, Option.map_some]

end Table

end TextTable
