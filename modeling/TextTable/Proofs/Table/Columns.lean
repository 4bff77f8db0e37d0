import TextTable.Proofs.Table.Transform

/-!
# Changes of columns

Columns may be put in and taken out anywhere: a sound table stays sound, and its grid changes column
by column, the alignments in step with the contents (`Sound.insertColumn`, `Sound.deleteColumn`).
Moving a column is another matter. The table stays complete and its grid is the moved one
(`Complete.moveColumn`), but contents that are apart in one order need not be so in another: of two
contents with one backtick each, the one whose backtick is escaped must not come last. Hence
`Sound.moveColumn` has to assume it.
-/

namespace TextTable

namespace Grid

/-! ## Columns of a grid -/

/-- The grid with a column of blank cells without alignment put in before the column `j`. -/
def insertColumn (g : Grid) (j : Nat) : Grid where
  header := g.header.insertIdx j []
  alignments := g.alignments.insertIdx j none
  body := g.body.map (·.insertIdx j [])

/-- The grid without a column. -/
def deleteColumn (g : Grid) (j : Nat) : Grid where
  header := g.header.eraseIdx j
  alignments := g.alignments.eraseIdx j
  body := g.body.map (·.eraseIdx j)

/-- The list with the element at the index `i` moved to the index `j` of the others. Where there is
no such element, `blank` is put in. -/
def moved {α : Type} (blank : α) (i j : Nat) (xs : List α) : List α :=
  (xs.eraseIdx i).insertIdx j (xs[i]?.getD blank)

/-- The grid with a column moved to another place among the others. -/
def moveColumn (g : Grid) (i j : Nat) : Grid where
  header := moved [] i j g.header
  alignments := moved none i j g.alignments
  body := g.body.map (moved [] i j)

section Moved

variable {α β : Type} {blank : α} {i j : Nat} {xs : List α}

/-- An element that is missing is moved as the blank is. -/
theorem map_moved (f : α → β) (blank : α) (i j : Nat) (xs : List α) :
    (moved blank i j xs).map f = moved (f blank) i j (xs.map f) := by
  rw [moved, moved, List.map_insertIdx, List.eraseIdx_map, List.getElem?_map, Option.getD_map]

/-- To move an element is to take it out and to put it in among those that remain. -/
theorem moved_eq (hi : i < xs.length) :
    moved blank i j xs = (xs.eraseIdx i).insertIdx j xs[i] := by
  rw [moved, List.getElem?_eq_getElem hi]
  rfl

theorem moved_self (hi : i < xs.length) : moved blank i i xs = xs := by
  rw [moved_eq hi, List.insertIdx_eraseIdx_getElem hi]

theorem length_moved (hi : i < xs.length) (hj : j < xs.length) :
    (moved blank i j xs).length = xs.length := by
  rw [moved, List.length_insertIdx, List.length_eraseIdx_of_lt hi, if_pos (by omega)]
  omega

/-- An element that is moved back is where it was. -/
theorem moved_moved (hi : i < xs.length) (hj : j < xs.length) :
    moved blank j i (moved blank i j xs) = xs := by
  have hj' : j ≤ (xs.eraseIdx i).length := by
    rw [List.length_eraseIdx_of_lt hi]
    omega
  rw [moved_eq hi, moved, List.eraseIdx_insertIdx_self, List.getElem?_insertIdx_self,
    if_pos hj', Option.getD_some, List.insertIdx_eraseIdx_getElem hi]

end Moved

/-- A column that is put in is one of the header, unless it begins behind it. -/
theorem length_header_insertColumn {g : Grid} {j : Nat} (hj : j ≤ g.header.length) :
    (g.insertColumn j).header.length = g.header.length + 1 := by
  rw [insertColumn, List.length_insertIdx, if_pos hj]

theorem length_header_deleteColumn {g : Grid} {j : Nat} (hj : j < g.header.length) :
    (g.deleteColumn j).header.length = g.header.length - 1 :=
  List.length_eraseIdx_of_lt hj

theorem length_header_moveColumn {g : Grid} {i j : Nat} (hi : i < g.header.length)
    (hj : j < g.header.length) : (g.moveColumn i j).header.length = g.header.length :=
  length_moved hi hj

/-- A column that is moved back is where it was. -/
theorem Complete.moveColumn_moveColumn {g : Grid} (hg : g.Complete) {i j : Nat}
    (hi : i < g.header.length) (hj : j < g.header.length) :
    (g.moveColumn i j).moveColumn j i = g := by
  have hbody : ∀ ts ∈ g.body, (moved [] j i ∘ moved [] i j) ts = id ts := fun ts hts =>
    moved_moved (hi.trans_le (hg.body_le ts hts)) (hj.trans_le (hg.body_le ts hts))
  simp only [moveColumn, List.map_map, moved_moved hi hj, List.map_congr_left hbody, List.map_id,
    moved_moved (hi.trans_le hg.alignments_le) (hj.trans_le hg.alignments_le)]

end Grid

namespace Table

variable {m : Margin} {s : Style} {t : Table}

/-! ## Cells of one row -/

theorem insertCell_eq {r : Row} {k : Nat} (hk : k ≤ r.width) (c : Cell) :
    insertCell k r c = { r with cells := r.cells.take k ++ c :: r.cells.drop k } := by
  rw [insertCell, Signed.insert, Signed.gap_natCast (by exact hk)]

/-- A cell that is put in behind the row is put in at its end, so the row grows in any case. -/
@[simp] theorem width_insertCell (r : Row) (k : Int) (c : Cell) :
    (insertCell k r c).width = r.width + 1 := Signed.length_insert r.cells k c

theorem contents_insertCell {r : Row} {k : Nat} (hk : k ≤ r.width) (c : Cell) :
    (insertCell k r c).contents = r.contents.insertIdx k c.content := by
  rw [insertCell, Row.contents, Signed.insert_natCast hk, List.map_insertIdx, Row.contents]

theorem stated_insertCell {r : Row} {k : Nat} (hk : k ≤ r.width) (c : Cell) :
    (insertCell k r c).stated = r.stated.insertIdx k c.alignment?.join := by
  rw [insertCell, Row.stated, Signed.insert_natCast hk, List.map_insertIdx, Row.stated]

/-- An empty cell does not bring contents together. -/
theorem apart_insertCell {r : Row} {k : Nat} (hk : k ≤ r.width) (hr : Row.Apart r.contents) :
    Row.Apart (insertCell k r Cell.empty).contents := by
  rw [← r.contents_take_drop k] at hr
  have hins := hr.insert_replicate 1
  rw [insertCell_eq hk, Row.contents, List.map_append, List.map_cons]
  rwa [List.append_assoc] at hins

/-- A delimiter row stays one when a delimiter cell is put in. -/
theorem isDelimiter_insertCell {r : Row} {k : Nat} (hk : k ≤ r.width) {c : Cell}
    (hc : c.isDelimiter = true) (hr : r.isDelimiter = true) :
    (insertCell k r c).isDelimiter = true := by
  rw [Row.isDelimiter_iff, width_insertCell]
  refine ⟨Nat.succ_pos _, fun d hd => ?_⟩
  rw [Row.isDelimiter_iff] at hr
  rw [insertCell_eq hk] at hd
  rcases List.mem_append.mp hd with hd | hd
  · exact hr.2 d (List.mem_of_mem_take hd)
  · rcases List.mem_cons.mp hd with rfl | hd
    · exact hc
    · exact hr.2 d (List.mem_of_mem_drop hd)

/-- The row without the cell in a column. -/
def withoutCell (k : Nat) (r : Row) : Row := { r with cells := r.cells.eraseIdx k }

/-- Taking out a cell that the row has does not fail. -/
theorem deleteCell_eq {r : Row} {k : Nat} (hk : k < r.width) :
    deleteCell k r = .ok (withoutCell k r) := by
  rw [deleteCell, if_pos (Int.ofNat_lt.mpr hk), Signed.erase?_natCast hk]
  rfl

theorem width_withoutCell {r : Row} {k : Nat} (hk : k < r.width) :
    (withoutCell k r).width + 1 = r.width := by
  rw [withoutCell, Row.width, List.length_eraseIdx_of_lt hk]
  rw [Row.width] at hk ⊢
  omega

@[simp] theorem contents_withoutCell (k : Nat) (r : Row) :
    (withoutCell k r).contents = r.contents.eraseIdx k := (List.eraseIdx_map ..).symm

@[simp] theorem stated_withoutCell (k : Nat) (r : Row) :
    (withoutCell k r).stated = r.stated.eraseIdx k := (List.eraseIdx_map ..).symm

/-- Contents stay apart when one of them is taken out. -/
theorem apart_withoutCell (k : Nat) {r : Row} (hr : Row.Apart r.contents) :
    Row.Apart (withoutCell k r).contents :=
  hr.sublist ((List.eraseIdx_sublist r.cells k).map _)

/-- A delimiter row stays one as long as it has a cell. -/
theorem isDelimiter_withoutCell {r : Row} {k : Nat} (hk : k < r.width) (hw : 1 < r.width)
    (hr : r.isDelimiter = true) : (withoutCell k r).isDelimiter = true := by
  have hwidth := width_withoutCell hk
  rw [Row.isDelimiter_iff] at hr ⊢
  exact ⟨by omega, fun d hd => hr.2 d (List.mem_of_mem_eraseIdx hd)⟩

/-- The row with the cell in a column moved to another column. -/
def withCellMoved (k l : Nat) (r : Row) : Row :=
  { r with cells := (r.cells.eraseIdx k).insertIdx l (r.cells[k]?.getD Cell.empty) }

theorem moveCell_eq {r : Row} {k l : Nat} (hk : k < r.width) (hl : l < r.width) :
    moveCell k l r = .ok (withCellMoved k l r) := by
  rw [moveCell, if_pos ⟨Int.ofNat_lt.mpr hk, Int.ofNat_lt.mpr hl⟩, Signed.move?_natCast hk hl,
    withCellMoved, List.getElem?_eq_getElem hk]
  rfl

@[simp] theorem contents_withCellMoved (k l : Nat) (r : Row) :
    (withCellMoved k l r).contents = Grid.moved [] k l r.contents :=
  Grid.map_moved Cell.content Cell.empty k l r.cells

@[simp] theorem stated_withCellMoved (k l : Nat) (r : Row) :
    (withCellMoved k l r).stated = Grid.moved none k l r.stated :=
  Grid.map_moved (fun c : Cell => c.alignment?.join) Cell.empty k l r.cells

theorem width_withCellMoved {r : Row} {k l : Nat} (hk : k < r.width) (hl : l < r.width) :
    (withCellMoved k l r).width = r.width := by
  rw [withCellMoved, Row.width, List.length_insertIdx, List.length_eraseIdx_of_lt hk]
  rw [Row.width] at hk hl ⊢
  rw [if_pos (by omega)]
  omega

/-- The cell that is moved is found at its target. -/
theorem getElem?_withCellMoved {r : Row} {k l : Nat} (hk : k < r.width) (hl : l < r.width) :
    (withCellMoved k l r).cells[l]? = r.cells[k]? := by
  have hl' : l ≤ (r.cells.eraseIdx k).length := by
    rw [List.length_eraseIdx_of_lt hk]
    exact Nat.le_sub_one_of_lt hl
  rw [withCellMoved, List.getElem?_insertIdx_self, if_pos hl', List.getElem?_eq_getElem hk]
  rfl

theorem withCellMoved_self {r : Row} {k : Nat} (hk : k < r.width) : withCellMoved k k r = r := by
  have hcells : (r.cells.eraseIdx k).insertIdx k (r.cells[k]?.getD Cell.empty) = r.cells :=
    Grid.moved_self hk
  rw [withCellMoved, hcells]

/-- A delimiter row has delimiter cells only, whatever their order is. -/
theorem isDelimiter_withCellMoved {r : Row} {k l : Nat} (hk : k < r.width) (hl : l < r.width)
    (hr : r.isDelimiter = true) : (withCellMoved k l r).isDelimiter = true := by
  rw [Row.isDelimiter_iff] at hr ⊢
  refine ⟨(width_withCellMoved hk hl).symm ▸ hr.1, fun d hd => hr.2 d ?_⟩
  rcases List.eq_or_mem_of_mem_insertIdx hd with rfl | hd
  · rw [List.getElem?_eq_getElem hk]
    exact List.getElem_mem hk
  · exact List.mem_of_mem_eraseIdx hd

/-! ## Columns -/

theorem zipWith_replicate_length {α β γ : Type} (f : α → β → γ) (y : β) :
    ∀ xs : List α, List.zipWith f xs (List.replicate xs.length y) = xs.map (f · y)
  | [] => rfl
  | x :: xs => by
      rw [List.length_cons, List.replicate_succ, List.zipWith_cons_cons,
        zipWith_replicate_length f y xs, List.map_cons]

/-- A column of empty cells can be put in anywhere up to the end of the header. In the delimiter row
it has no alignment. -/
theorem Sound.insertColumn (hs : 0 < s.minDelimiterWidth) (ht : t.Sound m) {i : Int} (hi : 0 ≤ i)
    (hle : i ≤ t.headerWidth) :
    ∃ t', t.insertColumn s i (List.replicate (t.height - 1) Cell.empty) = .ok t' ∧ t'.Sound m ∧
      t'.height = t.height ∧ t'.grid = t.grid.insertColumn i.toNat := by
  obtain ⟨h, d, b, rfl, hrows⟩ := ht.exists_rows
  obtain ⟨k, rfl⟩ := Int.eq_ofNat_of_zero_le hi
  have hk : k ≤ h.width := Int.ofNat_le.mp hle
  obtain ⟨hdel, hdeep⟩ := List.forall_mem_cons.mp hrows.width_le
  obtain ⟨hheader, hapart⟩ := List.forall_mem_cons.mp hrows.apart
  have hdelimiter := isDelimiter_insertCell (hk.trans hdel) (Cell.isDelimiter_delimiter none hs)
    hrows.delimiter
  refine ⟨⟨insertCell k h Cell.empty :: insertCell k d (Cell.delimiter none s.minDelimiterWidth) ::
    b.map (insertCell k · Cell.empty)⟩, ?_, ?_, ?_, ?_⟩
  · simp only [Table.insertColumn, height, List.length_cons, List.length_replicate,
      Nat.add_sub_cancel]
    -- the delimiter row needs no cell from the column
    have hneeded : ¬ b.length + 1 <
        if b.length + 1 + 1 ≤ 1 then b.length + 1 + 1 else b.length + 1 := by
      rw [if_neg (by omega)]
      exact Nat.lt_irrefl _
    rw [if_neg hneeded, List.replicate_succ, List.take_succ_cons,
      List.take_zero, List.drop_succ_cons, List.drop_zero, List.singleton_append,
      List.zipWith_cons_cons, List.zipWith_cons_cons, zipWith_replicate_length]
  · refine SoundRows.sound ⟨?_, ?_, ?_, hrows.margin, ?_⟩
    · exact hdelimiter
    · rw [width_insertCell]
      exact Nat.succ_pos _
    · rw [width_insertCell]
      refine List.forall_mem_cons.mpr ⟨?_, fun r hr => ?_⟩
      · rw [width_insertCell]
        exact Nat.succ_le_succ hdel
      · obtain ⟨r', hr', rfl⟩ := List.mem_map.mp hr
        rw [width_insertCell]
        exact Nat.succ_le_succ (hdeep r' hr')
    · refine List.forall_mem_cons.mpr ⟨apart_insertCell hk hheader, fun r hr => ?_⟩
      obtain ⟨r', hr', rfl⟩ := List.mem_map.mp hr
      exact apart_insertCell (hk.trans (hdeep r' hr')) (hapart r' hr')
  · simp only [height, List.length_cons, List.length_map]
  · have hbody : ∀ r ∈ b, (Row.contents ∘ (insertCell k · Cell.empty)) r =
        ((·.insertIdx k []) ∘ Row.contents) r := fun r hr =>
      contents_insertCell (hk.trans (hdeep r hr)) Cell.empty
    rw [grid_mk hdelimiter, grid_mk hrows.delimiter, contents_insertCell hk,
      stated_insertCell (hk.trans hdel), Cell.alignment?_delimiter none hs, List.map_map,
      List.map_congr_left hbody, ← List.map_map]
    rfl

/-- When no row fails, all rows are changed. -/
theorem mapM_ok {α β : Type} {f : α → Except Fault β} {g : α → β} :
    ∀ {xs : List α}, (∀ x ∈ xs, f x = .ok (g x)) → xs.mapM f = .ok (xs.map g)
  | [], _ => rfl
  | x :: xs, h => by
      obtain ⟨hx, hxs⟩ := List.forall_mem_cons.mp h
      rw [List.mapM_cons, hx, mapM_ok hxs]
      rfl

/-- Any column of the header can be taken out, except for the last one that is left, which stays. -/
theorem Sound.deleteColumn (ht : t.Sound m) {i : Int} (hi : 0 ≤ i) (hlt : i < t.headerWidth) :
    ∃ t', t.deleteColumn i = .ok t' ∧ t'.Sound m ∧ t'.height = t.height ∧
      t'.grid = if 1 < t.headerWidth then t.grid.deleteColumn i.toNat else t.grid := by
  by_cases hone : t.headerWidth ≤ 1
  · exact ⟨t, if_pos hone, ht, rfl, (if_neg (Nat.not_lt.mpr hone)).symm⟩
  · obtain ⟨h, d, b, rfl, hrows⟩ := ht.exists_rows
    obtain ⟨k, rfl⟩ := Int.eq_ofNat_of_zero_le hi
    have hk : k < h.width := Int.ofNat_lt.mp hlt
    have htwo : 1 < h.width := Nat.lt_of_not_le hone
    have hwide : ∀ r ∈ h :: d :: b, h.width ≤ r.width :=
      List.forall_mem_cons.mpr ⟨Nat.le_refl _, hrows.width_le⟩
    obtain ⟨hdel, -⟩ := List.forall_mem_cons.mp hrows.width_le
    obtain ⟨hheader, hapart⟩ := List.forall_mem_cons.mp hrows.apart
    have hdelimiter := isDelimiter_withoutCell (hk.trans_le hdel) (htwo.trans_le hdel)
      hrows.delimiter
    refine ⟨⟨(h :: d :: b).map (withoutCell k)⟩, ?_, ?_, ?_, ?_⟩
    · have hall : ∀ r ∈ h :: d :: b, deleteCell k r = .ok (withoutCell k r) := fun r hr =>
        deleteCell_eq (hk.trans_le (hwide r hr))
      rw [Table.deleteColumn, if_neg hone, mapM_ok hall]
      rfl
    · have hshorter := width_withoutCell hk
      refine SoundRows.sound ⟨?_, by omega, ?_, hrows.margin, ?_⟩
      · exact hdelimiter
      · intro r hr
        rw [← List.map_cons] at hr
        obtain ⟨r', hr', rfl⟩ := List.mem_map.mp hr
        have hle := hrows.width_le r' hr'
        have := width_withoutCell (hk.trans_le hle)
        omega
      · refine List.forall_mem_cons.mpr ⟨apart_withoutCell k hheader, fun r hr => ?_⟩
        obtain ⟨r', hr', rfl⟩ := List.mem_map.mp hr
        exact apart_withoutCell k (hapart r' hr')
    · simp only [height, List.length_map]
    · have hbody : ∀ r ∈ b, (Row.contents ∘ withoutCell k) r =
          ((·.eraseIdx k) ∘ Row.contents) r := fun r _ => contents_withoutCell k r
      rw [headerWidth_mk, if_pos htwo, List.map_cons, List.map_cons, grid_mk hdelimiter,
        grid_mk hrows.delimiter, contents_withoutCell, stated_withoutCell, List.map_map,
        List.map_congr_left hbody, ← List.map_map]
      rfl

/-- A column of the header is moved cell by cell. -/
theorem Complete.moveColumn_eq (ht : t.Complete) {k l : Nat} (hk : k < t.headerWidth)
    (hl : l < t.headerWidth) : t.moveColumn k l = .ok ⟨t.rows.map (withCellMoved k l)⟩ := by
  have hwide : ∀ r ∈ t.rows, k < r.width ∧ l < r.width := fun r hr =>
    ⟨hk.trans_le (ht.headerWidth_le r hr), hl.trans_le (ht.headerWidth_le r hr)⟩
  rw [Table.moveColumn]
  split
  · next heq =>
    obtain rfl := Int.ofNat_inj.mp heq
    have hsame : ∀ r ∈ t.rows, withCellMoved k k r = id r := fun r hr =>
      withCellMoved_self (hwide r hr).1
    rw [List.map_congr_left hsame, List.map_id]
  · have hall : ∀ r ∈ t.rows, moveCell k l r = .ok (withCellMoved k l r) := fun r hr =>
      moveCell_eq (hwide r hr).1 (hwide r hr).2
    rw [mapM_ok hall]
    rfl

/-- To move a column fails at no column of the header. The table stays complete, though its contents
may not be apart any more. -/
theorem Complete.moveColumn (ht : t.Complete) {source target : Int} (hsource : 0 ≤ source)
    (hsource' : source < t.headerWidth) (htarget : 0 ≤ target) (htarget' : target < t.headerWidth) :
    ∃ t', t.moveColumn source target = .ok t' ∧ t'.Complete ∧ t'.SameShape t ∧
      t'.marginLeft = t.marginLeft ∧ t'.grid = t.grid.moveColumn source.toNat target.toNat := by
  obtain ⟨k, rfl⟩ := Int.eq_ofNat_of_zero_le hsource
  obtain ⟨l, rfl⟩ := Int.eq_ofNat_of_zero_le htarget
  have hk : k < t.headerWidth := Int.ofNat_lt.mp hsource'
  have hl : l < t.headerWidth := Int.ofNat_lt.mp htarget'
  have hwidth : ∀ r ∈ t.rows, (withCellMoved k l r).width = r.width := fun r hr =>
    width_withCellMoved (hk.trans_le (ht.headerWidth_le r hr)) (hl.trans_le (ht.headerWidth_le r hr))
  refine ⟨_, ht.moveColumn_eq hk hl, ?_⟩
  obtain ⟨h, d, b, rfl, hd⟩ := ht.exists_rows
  obtain ⟨hpos, hle⟩ := (complete_mk_iff hd).mp ht
  have hd' : d ∈ d :: b := List.mem_cons_self
  have hdel := isDelimiter_withCellMoved (hk.trans_le (hle d hd')) (hl.trans_le (hle d hd')) hd
  refine ⟨?_, ?_, rfl, ?_⟩
  · rw [List.map_cons, List.map_cons, complete_mk_iff hdel, ← List.map_cons]
    rw [hwidth h List.mem_cons_self]
    refine ⟨hpos, fun r hr => ?_⟩
    obtain ⟨r', hr', rfl⟩ := List.mem_map.mp hr
    rw [hwidth r' (List.mem_cons_of_mem _ hr')]
    exact hle r' hr'
  · rw [SameShape, List.map_map]
    exact List.map_congr_left hwidth
  · have hbody : ∀ r ∈ b, (Row.contents ∘ withCellMoved k l) r =
        (Grid.moved [] k l ∘ Row.contents) r := fun r _ => contents_withCellMoved k l r
    rw [List.map_cons, List.map_cons, grid_mk hdel, grid_mk hd, contents_withCellMoved,
      stated_withCellMoved, List.map_map, List.map_congr_left hbody, ← List.map_map]
    rfl

/-- A cell of the column that is moved is found at the target. -/
theorem Complete.cell?_moveColumn (ht : t.Complete) {source target : Int} (hsource : 0 ≤ source)
    (hsource' : source < t.headerWidth) (htarget : 0 ≤ target) (htarget' : target < t.headerWidth)
    {t' : Table} (h : t.moveColumn source target = .ok t') (row : Int) :
    t'.cell? row target = t.cell? row source := by
  obtain ⟨k, rfl⟩ := Int.eq_ofNat_of_zero_le hsource
  obtain ⟨l, rfl⟩ := Int.eq_ofNat_of_zero_le htarget
  have hk : k < t.headerWidth := Int.ofNat_lt.mp hsource'
  have hl : l < t.headerWidth := Int.ofNat_lt.mp htarget'
  rw [ht.moveColumn_eq hk hl] at h
  rw [← Except.ok.inj h, Table.cell?, Table.cell?, row?, row?]
  split
  · rw [List.getElem?_map]
    cases hr : t.rows[row.toNat]? with
    | none => rfl
    | some r =>
      have hle := ht.headerWidth_le r (List.mem_of_getElem? hr)
      simp [getElem?_withCellMoved (hk.trans_le hle) (hl.trans_le hle)]
  · rfl

/-- The move of a column keeps a table sound if it keeps its contents apart. -/
theorem Sound.moveColumn (ht : t.Sound m) {source target : Int} (hsource : 0 ≤ source)
    (hsource' : source < t.headerWidth) (htarget : 0 ≤ target) (htarget' : target < t.headerWidth)
    (hapart : (t.grid.moveColumn source.toNat target.toNat).Apart) :
    ∃ t', t.moveColumn source target = .ok t' ∧ t'.Sound m ∧ t'.SameShape t ∧
      t'.marginLeft = t.marginLeft ∧ t'.grid = t.grid.moveColumn source.toNat target.toNat := by
  obtain ⟨t', hok, hcomplete, hshape, hmargin, hgrid⟩ :=
    ht.complete.moveColumn hsource hsource' htarget htarget'
  exact ⟨t', hok, ⟨hcomplete, hgrid ▸ hapart, hmargin ▸ ht.margin⟩, hshape, hmargin, hgrid⟩

end Table

end TextTable
