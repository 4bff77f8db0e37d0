import TextTable.Proofs.Table.Grid

/-!
# The layout of a grid

The table that a complete grid is laid out as has that grid (`grid_layout`): contents keep their
text between the blanks, and delimiter cells their alignment, because each column of the delimiter
row has a dash. All its rows are laid out (`laid_layout`), so they are read back, whatever stands in
their contents.

What is asked of the grid is asked piece by piece. That its contents come back needs no more than a
delimiter row, so `contents_textCells` and `stated_delimiterCells` speak of ragged grids as well.
-/

namespace TextTable

open Unicode (isBlank)

/-! ## The cells of a layout -/

/-- Padding sets a text between blanks, with some at either end. -/
theorem Side.exists_pad (side : Side) (o : WidthOptions) (w : Nat) (t : Text) :
    ∃ l r, Text.Blank l ∧ Text.Blank r ∧ r ≠ [] ∧ side.pad o w t = l ++ t ++ r := by
  refine ⟨' ' :: Text.spaces (side.spaceBefore (w - o.width t)),
    Text.spaces (w - o.width t - side.spaceBefore (w - o.width t)) ++ [' '], ?_, ?_, by simp, ?_⟩
  · exact (Text.blank_spaces 1).append (Text.blank_spaces _)
  · exact (Text.blank_spaces _).append (Text.blank_spaces 1)
  · simp only [pad, List.append_assoc, List.cons_append]

theorem forall_mem_zipWith {α β γ : Type} {f : α → β → γ} {P : γ → Prop} :
    ∀ {xs : List α} {ys : List β}, (∀ x ∈ xs, ∀ y ∈ ys, P (f x y)) →
      ∀ z ∈ List.zipWith f xs ys, P z
  | [], _, _, _, hz => absurd hz (by simp)
  | _ :: _, [], _, _, hz => absurd hz (by simp)
  | x :: xs, y :: ys, h, z, hz => by
      rw [List.zipWith_cons_cons] at hz
      rcases List.mem_cons.mp hz with rfl | hz
      · exact h x List.mem_cons_self y List.mem_cons_self
      · exact forall_mem_zipWith (fun x hx y hy =>
          h x (List.mem_cons_of_mem _ hx) y (List.mem_cons_of_mem _ hy)) z hz

/-- What a function of pairs keeps of the second list can be read off, if that list is not the
longer one. -/
theorem map_zipWith_eq_right {α β γ : Type} {f : α → β → γ} {g : γ → β} :
    ∀ {xs : List α} {ys : List β}, ys.length ≤ xs.length → (∀ x, ∀ y ∈ ys, g (f x y) = y) →
      (List.zipWith f xs ys).map g = ys
  | _, [], _, _ => by simp
  | [], _ :: _, hlen, _ => absurd hlen (by simp)
  | x :: xs, y :: ys, hlen, h => by
      rw [List.zipWith_cons_cons, List.map_cons, h x y List.mem_cons_self,
        map_zipWith_eq_right (by simpa using hlen) fun x y hy => h x y (List.mem_cons_of_mem _ hy)]

theorem le_foldr_max {a n : Nat} : ∀ {xs : List Nat}, n ∈ xs → n ≤ xs.foldr max a
  | x :: xs, h => by
      rw [List.foldr_cons]
      rcases List.mem_cons.mp h with rfl | h
      · exact Nat.le_max_left _ _
      · exact (le_foldr_max h).trans (Nat.le_max_right _ _)

theorem init_le_foldr_max {a : Nat} : ∀ (xs : List Nat), a ≤ xs.foldr max a
  | [] => Nat.le_refl a
  | x :: xs => by
      rw [List.foldr_cons]
      exact (init_le_foldr_max xs).trans (Nat.le_max_right _ _)

/-- A greatest number is at most `n` when all numbers are, and the one that it starts from. -/
theorem foldr_max_le_iff {a n : Nat} {xs : List Nat} :
    xs.foldr max a ≤ n ↔ a ≤ n ∧ ∀ x ∈ xs, x ≤ n := by
  refine ⟨fun h => ⟨(init_le_foldr_max xs).trans h, fun x hx => (le_foldr_max hx).trans h⟩, ?_⟩
  rintro ⟨ha, hxs⟩
  induction xs with
  | nil => exact ha
  | cons x xs ih =>
    rw [List.forall_mem_cons] at hxs
    exact Nat.max_le.mpr ⟨hxs.1, ih hxs.2⟩

namespace Grid

variable {s : Style} {g : Grid}

@[simp] theorem length_columns (s : Style) (g : Grid) : (g.columns s).length = g.breadth := by
  rw [columns, List.length_map, List.length_range]

theorem header_le_breadth (g : Grid) : g.header.length ≤ g.breadth :=
  le_foldr_max List.mem_cons_self

theorem alignments_le_breadth (g : Grid) : g.alignments.length ≤ g.breadth :=
  le_foldr_max (List.mem_cons_of_mem _ List.mem_cons_self)

theorem body_le_breadth {ts : List Text} (h : ts ∈ g.body) : ts.length ≤ g.breadth :=
  le_foldr_max (List.mem_cons_of_mem _ (List.mem_cons_of_mem _ (List.mem_map_of_mem h)))

/-- Each cell of the delimiter row has a dash. -/
theorem columnWidth_pos (hs : 0 < s.minDelimiterWidth) {j : Nat} (hj : j < g.alignments.length) :
    0 < g.columnWidth s j := by
  have := init_le_foldr_max (a := s.minDelimiterWidth)
    ((g.header :: g.body).map (textWidth s.widthOptions j))
  rw [columnWidth, if_pos hj]
  omega

/-- A cell of text is its content between blanks, whichever way it is laid out. -/
theorem padded_textCells {side : Column → Side} {ts : List Text}
    (ht : ∀ t ∈ ts, Text.trim t = t) : ∀ c ∈ g.textCells s side ts, c.Padded := by
  rw [textCells]
  split
  · refine forall_mem_zipWith fun column _ t hmem => ?_
    obtain ⟨l, r, hl, hr, hne, hpad⟩ :=
      (side column).exists_pad s.widthOptions column.width t
    rw [hpad]
    exact Cell.padded_mk hl hr hne (ht t hmem)
  · intro c hc
    obtain ⟨t, hmem, rfl⟩ := List.mem_map.mp hc
    exact Cell.padded_mk (Text.blank_spaces 1) (Text.blank_spaces 1) (by decide) (ht t hmem)

/-- Contents are kept. -/
theorem contents_textCells (s : Style) (side : Column → Side) {ts : List Text}
    (hlen : ts.length ≤ g.breadth) (ht : ∀ t ∈ ts, Text.trim t = t) :
    (g.textCells s side ts).map Cell.content = ts := by
  rw [textCells]
  split
  · refine map_zipWith_eq_right (by rwa [length_columns]) fun column t hmem => ?_
    obtain ⟨l, r, hl, hr, -, hpad⟩ := (side column).exists_pad s.widthOptions column.width t
    rw [hpad, Cell.content_mk hl hr, ht t hmem]
  · rw [List.map_map]
    have hid : ∀ t ∈ ts, (Cell.content ∘ fun t => ⟨' ' :: t ++ [' ']⟩) t = id t := fun t hmem =>
      (Cell.content_mk (Text.blank_spaces 1) (Text.blank_spaces 1) t).trans (ht t hmem)
    rw [List.map_congr_left hid, List.map_id]

/-- In either format, the delimiter row has a cell with dashes for each alignment. -/
theorem delimiterCells_eq (hs : 0 < s.minDelimiterWidth) :
    ∃ width : Nat → Nat, (∀ j, 0 < width j) ∧
      g.delimiterCells s = g.alignments.mapIdx fun j a => Cell.delimiter a (width j) := by
  rw [delimiterCells]
  split
  · refine ⟨fun j => max 1 (g.columnWidth s j), fun j => ?_, ?_⟩
    · exact Nat.zero_lt_one.trans_le (Nat.le_max_left _ _)
    · have hlen := g.alignments_le_breadth
      refine List.ext_getElem (by simp [length_columns, hlen]) fun j hj₁ hj₂ => ?_
      have hj : j < g.alignments.length := by simpa using hj₂
      have hpos := columnWidth_pos (g := g) hs hj
      simp [columns, hj, Nat.max_eq_right hpos]
  · refine ⟨fun _ => s.minDelimiterWidth, fun _ => hs, ?_⟩
    refine List.ext_getElem (by simp) fun j hj₁ hj₂ => ?_
    simp

/-- Each cell of the delimiter row states the alignment of its column. -/
theorem stated_delimiterCells (hs : 0 < s.minDelimiterWidth) :
    (g.delimiterCells s).map (fun c => c.alignment?.join) = g.alignments := by
  obtain ⟨width, hpos, heq⟩ := delimiterCells_eq (g := g) hs
  rw [heq]
  refine List.ext_getElem (by simp) fun j hj₁ hj₂ => ?_
  simp [Cell.alignment?_delimiter _ (hpos j)]

/-- Each cell of the delimiter row is a delimiter with a dash. -/
theorem forall_mem_delimiterCells (hs : 0 < s.minDelimiterWidth) :
    ∀ c ∈ g.delimiterCells s, ∃ a n, 0 < n ∧ c = Cell.delimiter a n := by
  obtain ⟨width, hpos, heq⟩ := delimiterCells_eq (g := g) hs
  intro c hc
  rw [heq] at hc
  obtain ⟨j, hj, rfl⟩ := List.mem_mapIdx.mp hc
  exact ⟨_, _, hpos j, rfl⟩

/-! ## The rows of a layout -/

variable {margin : Text}

@[simp] theorem length_delimiterCells (hs : 0 < s.minDelimiterWidth) :
    (g.delimiterCells s).length = g.alignments.length := by
  rw [← stated_delimiterCells (g := g) hs, List.length_map]

/-- The row has a cell for each alignment. -/
theorem delimiterCells_ne_nil (hs : 0 < s.minDelimiterWidth) (hne : g.alignments ≠ []) :
    g.delimiterCells s ≠ [] := by
  rw [← List.length_pos_iff, length_delimiterCells hs]
  exact List.length_pos_iff.mpr hne

/-- What is written for the delimiter row is one again. -/
theorem isDelimiter_delimiterCells (hs : 0 < s.minDelimiterWidth) (hne : g.alignments ≠ []) :
    Row.isDelimiter ⟨g.delimiterCells s, margin, []⟩ = true := by
  refine Row.isDelimiter_iff.mpr
    ⟨List.length_pos_iff.mpr (delimiterCells_ne_nil hs hne), fun c hc => ?_⟩
  obtain ⟨a, n, hn, rfl⟩ := forall_mem_delimiterCells hs c hc
  exact Cell.isDelimiter_delimiter a hn

theorem Complete.alignments_ne_nil (hg : g.Complete) : g.alignments ≠ [] :=
  List.length_pos_iff.mp (hg.header_pos.trans_le hg.alignments_le)

/-- The layout of a grid with alignments has this grid. -/
theorem grid_layout (hs : 0 < s.minDelimiterWidth) (hne : g.alignments ≠ []) (ht : g.Trimmed) :
    (g.layout s margin).grid = g := by
  have hbody : (g.body.map fun ts => (⟨g.textCells s (Table.bodySide s) ts, margin, []⟩ : Row)).map
      Row.contents = g.body := by
    rw [List.map_map]
    have hid : ∀ ts ∈ g.body, (Row.contents ∘ fun ts =>
        (⟨g.textCells s (Table.bodySide s) ts, margin, []⟩ : Row)) ts = id ts := fun ts hts =>
      contents_textCells s _ (body_le_breadth hts) (ht.body ts hts)
    rw [List.map_congr_left hid, List.map_id]
  rw [layout, Table.grid_mk (isDelimiter_delimiterCells hs hne), hbody]
  congr 1
  · exact contents_textCells s _ g.header_le_breadth ht.header
  · exact stated_delimiterCells hs

/-- The layout of a grid has a delimiter row as soon as there is an alignment to state. -/
theorem delimited_layout (hs : 0 < s.minDelimiterWidth) (hne : g.alignments ≠ []) :
    (g.layout s margin).delimiter?.isSome = true := by
  rw [layout, Table.delimiter?_mk (isDelimiter_delimiterCells hs hne)]
  rfl

/-- Laying out neither adds cells to a row nor takes any away. -/
theorem complete_layout (hs : 0 < s.minDelimiterWidth) (hg : g.Complete) (ht : g.Trimmed) :
    (g.layout s margin).Complete :=
  ⟨delimited_layout hs hg.alignments_ne_nil,
    (grid_layout hs hg.alignments_ne_nil ht).symm ▸ hg⟩

section Laid

variable {m : Margin}

/-- A row of text is laid out, if it has a cell and its contents are apart. -/
theorem laid_textCells (side : Column → Side) {ts : List Text} (hlen : ts.length ≤ g.breadth)
    (hne : ts ≠ []) (ht : ∀ t ∈ ts, Text.trim t = t) (ha : Row.Apart ts)
    (hm : ∀ c ∈ margin, m.contains c = true) :
    Row.Laid m ⟨g.textCells s side ts, margin, []⟩ := by
  have hcontents := contents_textCells s side hlen ht
  refine ⟨fun hnil => hne ?_, fun c hc => Or.inl (padded_textCells ht c hc), ?_, hm, rfl⟩
  · rw [← hcontents, show g.textCells s side ts = [] from hnil]
    rfl
  · rw [Row.contents, hcontents]
    exact ha

/-- The delimiter row is laid out. -/
theorem laid_delimiterCells (hs : 0 < s.minDelimiterWidth) (hne : g.alignments ≠ [])
    (hm : ∀ c ∈ margin, m.contains c = true) :
    Row.Laid m ⟨g.delimiterCells s, margin, []⟩ := by
  refine ⟨delimiterCells_ne_nil hs hne, fun c hc => ?_, ?_, hm, rfl⟩
  · obtain ⟨a, n, -, rfl⟩ := forall_mem_delimiterCells hs c hc
    exact Cell.closed_delimiter a n
  · refine Row.apart_of_plain fun t hmem => ?_
    obtain ⟨c, hc, rfl⟩ := List.mem_map.mp hmem
    obtain ⟨a, n, -, rfl⟩ := forall_mem_delimiterCells hs c hc
    exact Cell.plain_content_delimiter a n

/-- Every row of the layout of a complete grid is laid out. -/
theorem laid_layout (hs : 0 < s.minDelimiterWidth) (hg : g.Complete) (ht : g.Trimmed)
    (ha : g.Apart) (hm : ∀ c ∈ margin, m.contains c = true) :
    ∀ r ∈ (g.layout s margin).rows, r.Laid m := by
  have nonempty : ∀ ts : List Text, g.header.length ≤ ts.length → ts ≠ [] := fun ts hlen =>
    List.length_pos_iff.mp (hg.header_pos.trans_le hlen)
  rw [layout]
  refine List.forall_mem_cons.mpr ⟨?_, List.forall_mem_cons.mpr
    ⟨laid_delimiterCells hs hg.alignments_ne_nil hm, fun r hr => ?_⟩⟩
  · exact laid_textCells _ g.header_le_breadth (nonempty _ (Nat.le_refl _)) ht.header ha.header hm
  · obtain ⟨ts, hts, rfl⟩ := List.mem_map.mp hr
    exact laid_textCells _ (body_le_breadth hts) (nonempty ts (hg.body_le ts hts)) (ht.body ts hts)
      (ha.body ts hts) hm

end Laid

end Grid

end TextTable
