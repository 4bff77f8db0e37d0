import Mathlib.Data.List.Basic
import TextTable.Editor.Block
import TextTable.Proofs.Signed

/-!
# Runs of table lines

The table under the cursor is the block of accepted table lines *around* the cursor, as long as
possible (`Around`, `Around.block?_eq`). Where the editor accepts every row, it is a *run*: a block
of table lines between lines that are none, or the ends of the document (`Run`). A table line lies
in exactly one run (`exists_run`), and this is the table that the editor finds (`block?_run`).
-/

namespace TextTable

/-- The block is a run in the document that `above`, it and `below` make up. -/
structure Run (m : Margin) (above block below : List Text) : Prop where
  block : ∀ l ∈ block, m.isTableLine l = true
  above : ∀ l ∈ above.getLast?, m.isTableLine l = false
  below : ∀ l ∈ below.head?, m.isTableLine l = false

namespace Run

variable {m : Margin}

/-! ## The run around a row -/

/-- A document begins with as many lines of a kind as there are. -/
theorem exists_leading (p : Text → Bool) :
    ∀ lines : List Text, ∃ a b, lines = a ++ b ∧ (∀ l ∈ a, p l = true) ∧
      ∀ l ∈ b.head?, p l = false
  | [] => ⟨[], [], rfl, by simp, by simp⟩
  | l :: lines => by
      by_cases hl : p l = true
      · obtain ⟨a, b, rfl, ha, hb⟩ := exists_leading p lines
        exact ⟨l :: a, b, rfl, List.forall_mem_cons.mpr ⟨hl, ha⟩, hb⟩
      · exact ⟨[], l :: lines, rfl, by simp, by simpa using hl⟩

/-- The lines at the end of a list with a property, as many as there are. -/
theorem exists_trailing (p : Text → Bool) (lines : List Text) :
    ∃ a b, lines = a ++ b ∧ (∀ l ∈ a.getLast?, p l = false) ∧ ∀ l ∈ b, p l = true := by
  obtain ⟨a, b, hlines, ha, hb⟩ := exists_leading p lines.reverse
  refine ⟨b.reverse, a.reverse, ?_, ?_, ?_⟩
  · rw [← List.reverse_append, ← hlines, List.reverse_reverse]
  · rwa [List.getLast?_reverse]
  · exact fun l hl => ha l (List.mem_reverse.mp hl)

/-- A table line lies in a run. -/
theorem exists_run {lines : List Text} {k : Nat} {line : Text} (hk : lines[k]? = some line)
    (ht : m.isTableLine line = true) :
    ∃ above block below, lines = above ++ block ++ below ∧ Run m above block below ∧
      above.length ≤ k ∧ k < above.length + block.length := by
  obtain ⟨hlt, hline⟩ := List.getElem?_eq_some_iff.mp hk
  obtain ⟨a, b, htake, ha, hb⟩ := exists_trailing m.isTableLine (lines.take k)
  obtain ⟨c, d, hdrop, hc, hd⟩ := exists_leading m.isTableLine (lines.drop k)
  have hfirst : lines.drop k = line :: lines.drop (k + 1) := by
    rw [← hline]
    exact List.drop_eq_getElem_cons hlt
  -- the line itself is gathered downward
  have hne : c ≠ [] := by
    rintro rfl
    rw [hfirst, List.nil_append] at hdrop
    have := hd line (by rw [← hdrop]; rfl)
    rw [ht] at this
    cases this
  have hlen := congrArg List.length htake
  rw [List.length_take, List.length_append] at hlen
  refine ⟨a, b ++ c, d, ?_, ⟨?_, ha, hd⟩, by omega, ?_⟩
  · rw [← List.append_assoc, ← htake, List.append_assoc, ← hdrop, List.take_append_drop]
  · intro l hl
    rcases List.mem_append.mp hl with hl | hl
    · exact hb l hl
    · exact hc l hl
  · have := List.length_pos_iff.mpr hne
    rw [List.length_append]
    omega

end Run

namespace Editor

variable {m : Margin} {e : Editor}

/-! ## Lengths of runs -/

/-- The rows that are counted have the property, and the next one ends the count. -/
theorem runLength_spec (p : Int → Bool) (step : Int) : ∀ (n : Nat) (row : Int),
    runLength p step row n ≤ n ∧
      (∀ i : Nat, i < runLength p step row n → p (row + i * step) = true) ∧
      (runLength p step row n = n ∨ p (row + runLength p step row n * step) = false)
  | 0, row => ⟨Nat.le_refl 0, fun i hi => absurd hi (Nat.not_lt_zero i), Or.inl rfl⟩
  | n + 1, row => by
      obtain ⟨hle, hp, hend⟩ := runLength_spec p step n (row + step)
      have shift : ∀ i : Nat, row + ((i + 1 : Nat) : Int) * step = row + step + i * step := by
        intro i
        rw [Int.natCast_succ, Int.add_mul, Int.one_mul]
        omega
      rw [runLength]
      split
      · next hfirst =>
        refine ⟨Nat.succ_le_succ hle, fun i hi => ?_, ?_⟩
        · cases i with
          | zero => rwa [Int.natCast_zero, Int.zero_mul, Int.add_zero]
          | succ i =>
            rw [shift]
            exact hp i (Nat.lt_of_succ_lt_succ hi)
        · rw [shift]
          exact hend.imp_left (congrArg Nat.succ)
      · next hfirst =>
        refine ⟨Nat.zero_le _, fun i hi => absurd hi (Nat.not_lt_zero i), Or.inr ?_⟩
        rw [Int.natCast_zero, Int.zero_mul, Int.add_zero]
        simpa using hfirst

/-- Where rows stop having a property, or the last row is reached, the count of rows ends. -/
theorem runLength_eq {p : Int → Bool} {step row : Int} {n k : Nat} (hk : k ≤ n)
    (hp : ∀ i : Nat, i < k → p (row + i * step) = true)
    (hend : k = n ∨ p (row + k * step) = false) : runLength p step row n = k := by
  obtain ⟨hle, hcount, hstop⟩ := runLength_spec p step n row
  -- a count that goes on beyond the other one contradicts where the other one ends
  rcases Nat.lt_trichotomy (runLength p step row n) k with hlt | heq | hgt
  · have hfalse := hstop.resolve_left (by omega)
    rw [hp _ hlt] at hfalse
    cases hfalse
  · exact heq
  · have hfalse := hend.resolve_left (by omega)
    rw [hcount _ hgt] at hfalse
    cases hfalse

theorem filterMap_range_getElem? {α : Type} :
    ∀ xs : List α, (List.range xs.length).filterMap (xs[·]?) = xs
  | [] => rfl
  | x :: xs => by
      rw [List.length_cons, List.range_succ_eq_map, List.filterMap_cons, List.filterMap_map]
      exact congrArg (x :: ·) (filterMap_range_getElem? xs)

/-! ## The table under the cursor -/

section Accepting

variable (hr : e.rejected = [])

include hr

/-- An editor that rejects no row accepts every one. -/
theorem accepts_all (row : Int) : e.accepts row = true := by
  rw [accepts, hr]
  rfl

/-- A row that is not in the document is no table line. -/
@[simp] theorem isTableRow_natCast (k : Nat) :
    e.isTableRow m k = (e.lines[k]?).any m.isTableLine := by
  simp [isTableRow, accepts_all hr, line?]

/-- Off the runs there is no table. -/
theorem block?_off {k : Nat} (hrow : e.cursor.row = k) {line : Text} (hk : e.lines[k]? = some line)
    (ht : m.isTableLine line = false) : e.block? m = .ok none := by
  rw [block?, cursorInTable, if_pos (accepts_all hr _), line?, hrow, Signed.get?_natCast, hk]
  simp only [ht]
  rfl

end Accepting

/-- The lines of a block, looked up in the document. -/
theorem getElem?_block {above block below : List Text} (he : e.lines = above ++ block ++ below)
    {i : Nat} (hi : i < block.length) : e.lines[above.length + i]? = block[i]? := by
  rw [he, List.append_assoc, List.getElem?_append_right (Nat.le_add_right _ _),
    Nat.add_sub_cancel_left, List.getElem?_append_left hi]

/-- A block is found again by its first row and its length. -/
theorem linesFrom_block {above block below : List Text} (he : e.lines = above ++ block ++ below) :
    e.linesFrom above.length block.length = block := by
  have hline : ∀ i ∈ List.range block.length,
      e.line? ((above.length : Int) + i) = block[i]? := by
    intro i hi
    rw [line?, ← Int.natCast_add, Signed.get?_natCast, getElem?_block he (List.mem_range.mp hi)]
  rw [linesFrom, List.filterMap_congr hline]
  exact filterMap_range_getElem? block

/-! ### Rows -/

/-- A row of the document belongs to a table or does not. -/
theorem cursorInTable_eq (hlow : 0 ≤ e.cursor.row) (hhigh : e.cursor.row < e.lines.length) :
    e.cursorInTable m = .ok (e.isTableRow m e.cursor.row) := by
  obtain ⟨k, hk⟩ := Int.eq_ofNat_of_zero_le hlow
  have hline : e.line? e.cursor.row = some e.lines[k] := by
    rw [line?, hk, Signed.get?_natCast]
    exact List.getElem?_eq_getElem (by omega)
  rw [cursorInTable, isTableRow, hline]
  cases e.accepts e.cursor.row <;> rfl

/-- A cursor in a table is on a table line. -/
theorem exists_line_of_cursorInTable (hlow : 0 ≤ e.cursor.row)
    (hin : e.cursorInTable m = .ok true) :
    ∃ (k : Nat) (line : Text), e.cursor.row = k ∧ e.lines[k]? = some line ∧
      m.isTableLine line = true := by
  obtain ⟨k, hk⟩ := Int.eq_ofNat_of_zero_le hlow
  rw [cursorInTable] at hin
  split at hin
  · split at hin
    · next line hline =>
      rw [line?, hk, Signed.get?_natCast] at hline
      exact ⟨k, line, hk, hline, Except.ok.inj hin⟩
    · cases hin
  · cases hin

theorem exists_line_of_isTableRow {k : Nat} (h : e.isTableRow m k = true) :
    ∃ line, e.lines[k]? = some line ∧ m.isTableLine line = true := by
  rw [isTableRow, Bool.and_eq_true, line?, Signed.get?_natCast] at h
  exact (Option.any_eq_true _ _).mp h.2

/-- Behind the last row there is no table. -/
theorem isTableRow_length (e : Editor) (m : Margin) : e.isTableRow m e.lines.length = false := by
  rw [isTableRow, line?, Signed.get?_natCast, List.getElem?_eq_none (Nat.le_refl _)]
  exact Bool.and_false _

/-! ### The rows around the cursor -/

/-- The block consists of table rows and the cursor is in it; the rows above and below it, if there
are any, are no table rows. -/
structure Around (e : Editor) (m : Margin) (above block below : List Text) : Prop where
  lines : e.lines = above ++ block ++ below
  rows : ∀ i < block.length, e.isTableRow m ((above.length + i : Nat) : Int) = true
  before : ∀ k : Nat, above.length = k + 1 → e.isTableRow m k = false
  behind : e.isTableRow m ((above.length + block.length : Nat) : Int) = false
  low : (above.length : Int) ≤ e.cursor.row
  high : e.cursor.row < (above.length + block.length : Nat)

namespace Around

variable {above block below : List Text} (h : e.Around m above block below)

include h

/-- A block around the cursor has table lines only. -/
theorem isTableLine : ∀ l ∈ block, m.isTableLine l = true := by
  intro l hl
  obtain ⟨i, hi, rfl⟩ := List.getElem_of_mem hl
  obtain ⟨line, hline, htable⟩ := exists_line_of_isTableRow (h.rows i hi)
  rw [getElem?_block h.lines hi, List.getElem?_eq_getElem hi] at hline
  rwa [Option.some.inj hline]

/-- From any row of the block, the block is as long as it is upward and downward. -/
theorem runLength_above {j : Nat} (hj : j < block.length) :
    runLength (e.isTableRow m) (-1) (((above.length + j : Nat) : Int) - 1) (above.length + j) =
      j := by
  refine runLength_eq (Nat.le_add_left _ _) (fun i hi => ?_) ?_
  · have hrow : ((above.length + j : Nat) : Int) - 1 + i * -1 =
        ((above.length + (j - 1 - i) : Nat) : Int) := by omega
    rw [hrow]
    exact h.rows _ (by omega)
  · cases habove : above.length with
    | zero => exact Or.inl (Nat.zero_add j).symm
    | succ k =>
      have hrow : ((k + 1 + j : Nat) : Int) - 1 + j * -1 = k := by omega
      rw [hrow]
      exact Or.inr (h.before k habove)

/-- From a row of the block, the run below goes to the end of the block. -/
theorem runLength_below {j n : Nat} (hj : j < block.length) (hn : block.length - 1 - j ≤ n) :
    runLength (e.isTableRow m) 1 (((above.length + j : Nat) : Int) + 1) n =
      block.length - 1 - j := by
  refine runLength_eq hn (fun i hi => ?_) (Or.inr ?_)
  · have hrow : ((above.length + j : Nat) : Int) + 1 + i * 1 =
        ((above.length + (j + 1 + i) : Nat) : Int) := by omega
    rw [hrow]
    exact h.rows _ (by omega)
  · have hrow : ((above.length + j : Nat) : Int) + 1 + (block.length - 1 - j : Nat) * 1 =
        ((above.length + block.length : Nat) : Int) := by omega
    rw [hrow]
    exact h.behind

/-- The block is the table under the cursor. -/
theorem block?_eq :
    ∃ f, (Table.ofLines m block).focusAt? e.cursor above.length = some f ∧
      e.block? m = .ok (some ⟨above.length, block, Table.ofLines m block, f⟩) := by
  -- the cursor is on the line `j` of the block
  obtain ⟨j, hrow⟩ : ∃ j : Nat, e.cursor.row = ((above.length + j : Nat) : Int) :=
    ⟨(e.cursor.row - above.length).toNat, by have := h.low; omega⟩
  have hj : j < block.length := by have := h.high; omega
  have hline : (Table.ofLines m block).rows[j]? = some (Row.ofLine m block[j]) := by
    rw [Table.ofLines, List.getElem?_map, List.getElem?_eq_getElem hj]
    rfl
  obtain ⟨f, hf⟩ : ∃ f, (Table.ofLines m block).focusAt? e.cursor above.length = some f := by
    have hindex : e.cursor.row - above.length = j := by omega
    rw [Table.focusAt?, hindex, Table.row?, if_pos (Int.natCast_nonneg j), Int.toNat_natCast, hline]
    exact ⟨_, rfl⟩
  refine ⟨f, hf, ?_⟩
  have hlen := congrArg List.length h.lines
  rw [List.length_append, List.length_append] at hlen
  have hin : e.cursorInTable m = .ok true := by
    rw [cursorInTable_eq (by omega) (by omega), hrow, h.rows j hj]
  have hlast : block.length - 1 - j ≤ (e.lastRow - e.cursor.row).toNat := by
    rw [lastRow, hrow]
    omega
  have hup := h.runLength_above hj
  have hdown := h.runLength_below hj hlast
  have hfirst : ((above.length + j : Nat) : Int) - (j : Nat) = above.length := by omega
  have hcount : j + 1 + (block.length - 1 - j) = block.length := by omega
  rw [hrow] at hdown
  rw [block?, hin]
  simp only [Except.map, if_true, hrow, Int.toNat_natCast, hup, hdown, hfirst, hcount,
    linesFrom_block h.lines, hf, Option.map_some]

end Around

/-- A table row in the document has a block around it. -/
theorem exists_around (hlow : 0 ≤ e.cursor.row) (hhigh : e.cursor.row < e.lines.length)
    (hin : e.isTableRow m e.cursor.row = true) :
    ∃ above block below, e.Around m above block below := by
  obtain ⟨k, hk⟩ := Int.eq_ofNat_of_zero_le hlow
  rw [hk] at hhigh hin
  obtain ⟨hup, habove, habove_end⟩ := runLength_spec (e.isTableRow m) (-1) k ((k : Int) - 1)
  obtain ⟨hdown, hbelow, hbelow_end⟩ :=
    runLength_spec (e.isTableRow m) 1 (e.lines.length - (k + 1)) ((k : Int) + 1)
  generalize runLength (e.isTableRow m) (-1) ((k : Int) - 1) k = up at *
  generalize runLength (e.isTableRow m) 1 ((k : Int) + 1) (e.lines.length - (k + 1)) = down at *
  -- the block has `up` rows above the cursor's row and `down` rows below it
  have hlen : (e.lines.take (k - up)).length = k - up := by
    rw [List.length_take]
    omega
  have hlen' : ((e.lines.drop (k - up)).take (up + 1 + down)).length = up + 1 + down := by
    rw [List.length_take, List.length_drop]
    omega
  refine ⟨e.lines.take (k - up), (e.lines.drop (k - up)).take (up + 1 + down),
    (e.lines.drop (k - up)).drop (up + 1 + down), ?_, ?_, ?_, ?_, ?_, ?_⟩
  · rw [List.append_assoc, List.take_append_drop, List.take_append_drop]
  · intro i hi
    rw [hlen'] at hi
    rw [hlen]
    rcases Nat.lt_trichotomy i up with hlt | heq | hgt
    · have hrow : ((k - up + i : Nat) : Int) = (k : Int) - 1 + ((up - 1 - i : Nat) : Int) * -1 := by
        omega
      rw [hrow]
      exact habove _ (by omega)
    · have hrow : k - up + i = k := by omega
      rwa [hrow]
    · have hrow : ((k - up + i : Nat) : Int) = (k : Int) + 1 + ((i - up - 1 : Nat) : Int) * 1 := by
        omega
      rw [hrow]
      exact hbelow _ (by omega)
  · intro j hj
    rw [hlen] at hj
    have hrow : (j : Int) = (k : Int) - 1 + (up : Int) * -1 := by omega
    rw [hrow]
    exact habove_end.resolve_left (by omega)
  · rw [hlen, hlen']
    rcases hbelow_end with hend | hend
    · have hrow : k - up + (up + 1 + down) = e.lines.length := by omega
      rw [hrow]
      exact isTableRow_length e m
    · have hrow : ((k - up + (up + 1 + down) : Nat) : Int) = (k : Int) + 1 + (down : Int) * 1 := by
        omega
      rwa [hrow]
  · rw [hlen, hk]
    omega
  · rw [hlen, hlen', hk]
    omega

/-! ### Runs around the cursor -/

section InRun

variable {above block below : List Text} (hr : e.rejected = [])
  (he : e.lines = above ++ block ++ below) (hrun : Run m above block below)
  (hlow : (above.length : Int) ≤ e.cursor.row)
  (hhigh : e.cursor.row < (above.length + block.length : Nat))

include hr he hrun hlow hhigh

/-- Where every row is accepted, the run around the cursor is the block around it. -/
theorem around_run : e.Around m above block below where
  lines := he
  rows i hi := by
    rw [isTableRow_natCast hr, getElem?_block he hi, List.getElem?_eq_getElem hi]
    exact hrun.block _ (List.getElem_mem hi)
  before k hk := by
    have hlast : e.lines[k]? = above.getLast? := by
      rw [he, List.append_assoc, List.getElem?_append_left (by omega), List.getLast?_eq_getElem?,
        hk, Nat.add_sub_cancel]
    rw [isTableRow_natCast hr, hlast]
    cases habove : above.getLast? with
    | none => rfl
    | some l => exact hrun.above l habove
  behind := by
    have hhead : e.lines[above.length + block.length]? = below.head? := by
      rw [he, ← List.length_append, List.getElem?_append_right (Nat.le_refl _), Nat.sub_self,
        List.head?_eq_getElem?]
    rw [isTableRow_natCast hr, hhead]
    cases hbelow : below.head? with
    | none => rfl
    | some l => exact hrun.below l hbelow
  low := hlow
  high := hhigh

/-- In a run, the table under the cursor is the run. -/
theorem block?_run :
    ∃ f, (Table.ofLines m block).focusAt? e.cursor above.length = some f ∧
      e.block? m = .ok (some ⟨above.length, block, Table.ofLines m block, f⟩) :=
  (around_run hr he hrun hlow hhigh).block?_eq

end InRun

/-- Where every row is accepted, a cursor on a table line has a run around it. -/
theorem exists_run_around (hr : e.rejected = []) {k : Nat} (hrow : e.cursor.row = k) {line : Text}
    (hline : e.lines[k]? = some line) (ht : m.isTableLine line = true) :
    ∃ above block below, Run m above block below ∧ e.Around m above block below := by
  obtain ⟨above, block, below, hlines, hrun, hfirst, hlast⟩ := Run.exists_run hline ht
  exact ⟨above, block, below, hrun, around_run hr hlines hrun (by omega) (by omega)⟩

end Editor

end TextTable
