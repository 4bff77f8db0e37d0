import TextTable.Proofs.Signed
import TextTable.Proofs.Table.Landing
import TextTable.Table.Transform

/-!
# Changes of rows

Rows may be put in, taken out and moved below the delimiter row: a sound table stays sound, and none
of this fails at a position that the table has (`Sound.insertRow`, `Sound.deleteRow`,
`Sound.moveRow`). For the grid, a change of rows is one of the list of rows in the body. Each change
is seen from `SoundRows`, which has the header and the delimiter row in view, and put together again
by `SoundRows.body`.
-/

namespace TextTable

namespace Row

/-! ## Changes of one row -/

@[simp] theorem width_blank (w : Nat) : (blank w).width = w := List.length_replicate

/-- A row of empty cells has nothing that could close a fence. -/
theorem apart_blank (w : Nat) : Apart (blank w).contents := by
  refine apart_of_plain fun t ht => ?_
  rw [contents, blank, List.map_replicate] at ht
  rw [List.eq_of_mem_replicate ht]
  exact Text.blank_nil.plain

theorem contents_take_drop (r : Row) (k : Nat) :
    (r.cells.take k).map Cell.content ++ (r.cells.drop k).map Cell.content = r.contents := by
  rw [← List.map_append, List.take_append_drop, contents]

end Row

namespace Grid

/-! ## Changes of a grid -/

/-- The grid with a row of blank cells put in below `i` rows of the body. -/
def insertRow (g : Grid) (i : Nat) : Grid :=
  { g with body := g.body.insertIdx i (List.replicate g.header.length []) }

/-- The grid without a row of the body. -/
def deleteRow (g : Grid) (i : Nat) : Grid := { g with body := g.body.eraseIdx i }

/-- The grid with a row of the body moved to another place among the others. -/
def moveRow (g : Grid) (i j : Nat) : Grid :=
  { g with body := (g.body.eraseIdx i).insertIdx j (g.body[i]?.getD []) }

end Grid

namespace Table

variable {m : Margin} {s : Style} {t : Table}

/-! ## Sound tables by their rows -/

/-- What it means for the rows of a table that the table is sound. -/
structure SoundRows (m : Margin) (h d : Row) (b : List Row) : Prop where
  delimiter : d.isDelimiter = true
  width_pos : 0 < h.width
  width_le : ∀ r ∈ d :: b, h.width ≤ r.width
  margin : ∀ c ∈ h.marginLeft, m.contains c = true
  apart : ∀ r ∈ h :: b, Row.Apart r.contents

theorem SoundRows.sound {h d : Row} {b : List Row} (ht : SoundRows m h d b) :
    (Table.mk (h :: d :: b)).Sound m :=
  (sound_mk_iff ht.delimiter).mpr
    ⟨(complete_mk_iff ht.delimiter).mpr ⟨ht.width_pos, ht.width_le⟩, ht.margin, ht.apart⟩

/-- A sound table, with its header and its delimiter row in view. -/
theorem Sound.exists_rows (ht : t.Sound m) :
    ∃ h d b, t = ⟨h :: d :: b⟩ ∧ SoundRows m h d b := by
  obtain ⟨h, d, b, rfl, hd⟩ := ht.complete.exists_rows
  obtain ⟨hcomplete, hmargin, hapart⟩ := (sound_mk_iff hd).mp ht
  obtain ⟨hpos, hle⟩ := (complete_mk_iff hd).mp hcomplete
  exact ⟨h, d, b, rfl, hd, hpos, hle, hmargin, hapart⟩

theorem Sound.two_le_height (ht : t.Sound m) : 2 ≤ t.height := by
  obtain ⟨h, d, b, rfl, -⟩ := ht.exists_rows
  simp [height]

/-! ## Rows -/

section Rows

variable {h d : Row} {b : List Row}

/-- Below the delimiter row, any rows of the table and any blank ones may stand. -/
theorem SoundRows.body (ht : SoundRows m h d b) {b' : List Row}
    (hb : ∀ r ∈ b', r ∈ b ∨ r = Row.blank h.width) : (Table.mk (h :: d :: b')).Sound m := by
  obtain ⟨hdel, hdeep⟩ := List.forall_mem_cons.mp ht.width_le
  obtain ⟨hheader, hapart⟩ := List.forall_mem_cons.mp ht.apart
  refine SoundRows.sound ⟨ht.delimiter, ht.width_pos, ?_, ht.margin, ?_⟩
  · refine List.forall_mem_cons.mpr ⟨hdel, fun r hr => ?_⟩
    rcases hb r hr with hr | rfl
    · exact hdeep r hr
    · exact Nat.le_of_eq (Row.width_blank _).symm
  · refine List.forall_mem_cons.mpr ⟨hheader, fun r hr => ?_⟩
    rcases hb r hr with hr | rfl
    · exact hapart r hr
    · exact Row.apart_blank _

end Rows

section Below

variable (h d : Row) (b : List Row) {k : Nat}

/-- A row that is put in below the delimiter row goes into the body. -/
theorem insert_below (hk : k ≤ b.length) (r : Row) :
    Signed.insert (h :: d :: b) ((k + 2 : Nat) : Int) r = h :: d :: b.insertIdx k r :=
  Signed.insert_natCast (Nat.add_le_add_right hk 2) r

theorem erase?_below (hk : k < b.length) :
    Signed.erase? (h :: d :: b) ((k + 2 : Nat) : Int) = some (h :: d :: b.eraseIdx k) :=
  Signed.erase?_natCast (Nat.add_lt_add_right hk 2)

theorem move?_below (hk : k < b.length) {l : Nat} (hl : l < b.length) :
    Signed.move? (h :: d :: b) ((k + 2 : Nat) : Int) ((l + 2 : Nat) : Int) =
      some (h :: d :: (b.eraseIdx k).insertIdx l b[k]) :=
  Signed.move?_natCast (Nat.add_lt_add_right hk 2) (Nat.add_lt_add_right hl 2)

end Below

/-- A row of the body by its row in the table. -/
theorem exists_body_index {h d : Row} {b : List Row} {i : Int} (hi : 2 ≤ i) :
    ∃ k : Nat, i = (k + 2 : Nat) ∧ (i - 2).toNat = k ∧
      (i < (Table.mk (h :: d :: b)).height ↔ k < b.length) ∧
      (i ≤ (Table.mk (h :: d :: b)).height ↔ k ≤ b.length) := by
  refine ⟨(i - 2).toNat, by omega, rfl, ?_, ?_⟩
  all_goals
    simp only [height, List.length_cons]
    omega

/-- An empty row, as wide as the header, can be put in anywhere in the body and at its end. -/
theorem Sound.insertRow (ht : t.Sound m) {i : Int} (hi : 2 ≤ i) (hle : i ≤ t.height) :
    (t.insertRow i (Row.blank t.headerWidth)).Sound m ∧
      (t.insertRow i (Row.blank t.headerWidth)).grid = t.grid.insertRow (i - 2).toNat := by
  obtain ⟨h, d, b, rfl, hrows⟩ := ht.exists_rows
  obtain ⟨k, rfl, hindex, -, hbody⟩ := exists_body_index (h := h) (d := d) (b := b) hi
  rw [hindex, headerWidth_mk, Table.insertRow, insert_below h d b (hbody.mp hle)]
  constructor
  · refine hrows.body fun r hr => ?_
    exact (List.eq_or_mem_of_mem_insertIdx hr).symm
  · have hblank : (Row.blank h.width).contents = List.replicate h.contents.length [] := by
      rw [Row.contents, Row.blank, List.map_replicate, Row.length_contents]
      rfl
    simp [hrows.delimiter, Grid.insertRow, List.map_insertIdx, hblank]

@[simp] theorem height_insertRow (t : Table) (i : Int) (r : Row) :
    (t.insertRow i r).height = t.height + 1 := Signed.length_insert t.rows i r

/-- Any row of the body can be taken out. -/
theorem Sound.deleteRow (ht : t.Sound m) {i : Int} (hi : 1 < i) (hlt : i < t.height) :
    ∃ t', t.deleteRow i = .ok t' ∧ t'.Sound m ∧ t'.height + 1 = t.height ∧
      t'.grid = t.grid.deleteRow (i - 2).toNat := by
  obtain ⟨h, d, b, rfl, hrows⟩ := ht.exists_rows
  obtain ⟨k, rfl, -, hbody, -⟩ := exists_body_index (h := h) (d := d) (b := b) hi
  have hk := hbody.mp hlt
  refine ⟨⟨h :: d :: b.eraseIdx k⟩, ?_, ?_, ?_, ?_⟩
  · rw [Table.deleteRow, if_neg (by omega), erase?_below h d b hk]
    rfl
  · exact hrows.body fun r hr => Or.inl (List.mem_of_mem_eraseIdx hr)
  · have := List.length_eraseIdx_of_lt hk
    simp only [height, List.length_cons]
    omega
  · simp [hrows.delimiter, Grid.deleteRow, List.eraseIdx_map]

/-- Any row of the body can be moved to the place of another one. -/
theorem Sound.moveRow (ht : t.Sound m) {source target : Int} (hs : 1 < source)
    (hs' : source < t.height) (ht' : 1 < target) (ht'' : target < t.height) :
    ∃ t', t.moveRow source target = .ok t' ∧ t'.Sound m ∧ t'.height = t.height ∧
      t'.grid = t.grid.moveRow (source - 2).toNat (target - 2).toNat := by
  obtain ⟨h, d, b, rfl, hrows⟩ := ht.exists_rows
  obtain ⟨k, rfl, hsource, hbody, -⟩ := exists_body_index (h := h) (d := d) (b := b) hs
  obtain ⟨l, rfl, htarget, hbody', -⟩ := exists_body_index (h := h) (d := d) (b := b) ht'
  have hk := hbody.mp hs'
  have hl := hbody'.mp ht''
  refine ⟨⟨h :: d :: (b.eraseIdx k).insertIdx l b[k]⟩, ?_, ?_, ?_, ?_⟩
  · rw [Table.moveRow]
    split
    · next hsame =>
      obtain rfl : k = l := by omega
      rw [List.insertIdx_eraseIdx_getElem hk]
    · rw [move?_below h d b hk hl]
      rfl
  · refine hrows.body fun r hr => Or.inl ?_
    rcases List.eq_or_mem_of_mem_insertIdx hr with rfl | hr
    · exact List.getElem_mem hk
    · exact List.mem_of_mem_eraseIdx hr
  · have := List.length_eraseIdx_of_lt hk
    simp only [height, List.length_cons, List.length_insertIdx]
    rw [if_pos (by omega)]
    omega
  · rw [hsource, htarget, grid_mk hrows.delimiter, grid_mk hrows.delimiter, List.map_insertIdx,
      ← List.eraseIdx_map, Grid.moveRow, List.getElem?_map, List.getElem?_eq_getElem hk]
    rfl

/-- The row that is moved is found at its target. -/
theorem row?_moveRow {t' : Table} {source target : Int} (hs : 1 < source) (hs' : source < t.height)
    (ht : 1 < target) (ht' : target < t.height) (h : t.moveRow source target = .ok t') :
    t'.row? target = t.row? source := by
  by_cases heq : source = target
  · rw [moveRow, if_pos (Or.inr (Or.inr heq))] at h
    rw [← Except.ok.inj h, heq]
  · obtain ⟨k, rfl⟩ := Int.eq_ofNat_of_zero_le (show 0 ≤ source by omega)
    obtain ⟨l, rfl⟩ := Int.eq_ofNat_of_zero_le (show 0 ≤ target by omega)
    have hk : k < t.rows.length := Int.ofNat_lt.mp hs'
    have hl : l < t.rows.length := Int.ofNat_lt.mp ht'
    have hl' : l ≤ (t.rows.eraseIdx k).length := by
      rw [List.length_eraseIdx_of_lt hk]
      exact Nat.le_sub_one_of_lt hl
    rw [moveRow, if_neg (by omega), Signed.move?_natCast hk hl] at h
    rw [← Except.ok.inj h, row?_natCast, row?_natCast, List.getElem?_insertIdx_self, if_pos hl',
      List.getElem?_eq_getElem hk]

end Table

end TextTable
