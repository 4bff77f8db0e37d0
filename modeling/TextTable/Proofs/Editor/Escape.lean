import TextTable.Proofs.Editor.NormalForm
import TextTable.Proofs.Editor.Sweeping

/-!
# Leaving a table

The escape lays out the table under the cursor and goes to the line behind it (`run_escape`). The
row of that line is known before anything is written, for the layout has one row more than the table
exactly when the table lacks its delimiter row. The line was behind the table before, and so is no
table line; or the document ended with the table, and the line is put in without any text
(`exists_line_behind`).
-/

namespace TextTable

/-- A line is its longest margin and what stands behind it. -/
theorem Margin.exists_leading (m : Margin) (line : Text) :
    ∃ l r, line = l ++ r ∧ m.leading line = l.length ∧ (∀ c ∈ l, m.contains c = true) ∧
      ∀ c ∈ r.head?, m.contains c = false := by
  refine ⟨line.takeWhile m.contains, line.dropWhile m.contains,
    List.takeWhile_append_dropWhile.symm, rfl, fun c hc => List.mem_takeWhile_imp hc, ?_⟩
  intro c hc
  have hhead := List.head?_dropWhile_not m.contains line
  rwa [hc] at hhead

namespace Editor

variable {e : Editor} {m : Margin} {above block below : List Text}

/-- On a line of no table, the cursor is in no table. -/
theorem cursorInTable_off {k : Nat} (hrow : e.cursor.row = k) {line : Text}
    (hline : e.lines[k]? = some line) (hoff : m.isTableLine line = false) :
    e.cursorInTable m = .ok false := by
  rw [cursorInTable]
  split
  · rw [line?, hrow, Signed.get?_natCast, hline]
    simp [hoff]
  · rfl

/-- Behind a run there is a line of no table, or the end of the document, where an empty line is put
in. -/
theorem exists_line_behind (hrun : Run m above block below) :
    ∃ line rest, below ++ (if below = [] then [[]] else []) = line :: rest ∧
      m.isTableLine line = false ∧ (below.head?.map m.leading).getD 0 = m.leading line ∧
      (below = line :: rest ∨ below = [] ∧ line = [] ∧ rest = []) := by
  cases below with
  | nil => exact ⟨[], [], rfl, rfl, rfl, Or.inr ⟨rfl, rfl, rfl⟩⟩
  | cons line rest =>
    refine ⟨line, rest, ?_, hrun.below line rfl, rfl, Or.inl rfl⟩
    rw [if_neg (List.cons_ne_nil _ _), List.append_nil]

end Editor

namespace Workspace

open Editor

variable {o : Options} {w : Workspace} {above block below : List Text}

/-- The escape writes the layout of the table, and below it an empty line if there is no line; and
it puts the cursor behind the margin of the line below. -/
theorem run_escape (hr : w.editor.refused = none)
    (harea : w.editor.Around o.margin above block below) :
    ∃ w', run o .escape w = .ok () w' ∧ w'.editor.rejected = w.editor.rejected ∧
      w'.editor.lines = above ++ relaid o block ++ (below ++ if below = [] then [[]] else []) ∧
      w'.editor.cursor =
        ⟨(above ++ relaid o block).length, ((below.head?.map o.margin.leading).getD 0 : Nat)⟩ := by
  obtain ⟨f, -, hblock⟩ := harea.block?_eq
  have hheight := (Table.length_lines _).symm.trans (length_relaid (o := o) harea.ne_nil)
  obtain ⟨e', hcarry, -, hplaced⟩ :=
    (carryOut_below (e := { w.editor with transactions := w.editor.transactions + 1 }) o
      ⟨(Table.ofLines o.margin block).complete o.toStyle, .below, .forget⟩
      (b := ⟨above.length, block, Table.ofLines o.margin block, f⟩) rfl hheight rfl
      harea.lines).ok hr
  refine ⟨_, run_of_carryOut (c := .escape) hblock rfl hcarry, hplaced.rejected, ?_, ?_⟩
  · rw [hplaced.lines, List.append_assoc]
    rfl
  · rw [hplaced.cursor, List.length_append, relaid, Table.length_lines]
    rfl

/-- With the cursor in a table, in an editor that accepts every row and refuses nothing, the escape
succeeds. The document then has a line right behind the layout of the table, the one that was behind
the table or a new empty one. The cursor is on this line, at the end of the longest margin that the
line begins with, and so inside the line; and it is in no table there. -/
theorem escape_leaves_table (o : Options) (w : Workspace) (haccepts : w.editor.rejected = [])
    (hpermits : w.editor.refused = none) (hlow : 0 ≤ w.editor.cursor.row)
    (hin : w.editor.cursorInTable o.margin = .ok true) :
    ∃ w' above block below line rest, run o .escape w = .ok () w' ∧
      w.editor.Around o.margin above block below ∧
      w'.editor.lines = above ++ relaid o block ++ line :: rest ∧
      (below = line :: rest ∨ below = [] ∧ line = [] ∧ rest = []) ∧
      (∃ l r, line = l ++ r ∧ w'.editor.cursor = ⟨(above ++ relaid o block).length, l.length⟩ ∧
        (∀ c ∈ l, o.margin.contains c = true) ∧ ∀ c ∈ r.head?, o.margin.contains c = false) ∧
      w'.editor.cursorInTable o.margin = .ok false := by
  obtain ⟨k, found, hk, hfound, htable⟩ := exists_line_of_cursorInTable hlow hin
  obtain ⟨above, block, below, hrun, harea⟩ := exists_run_around haccepts hk hfound htable
  obtain ⟨w', hescape, -, hlines, hcursor⟩ := run_escape hpermits harea
  obtain ⟨line, rest, hbelow, hoff, hleading, hline⟩ := exists_line_behind hrun
  obtain ⟨l, r, hsplit, hlength, hl, hr⟩ := o.margin.exists_leading line
  rw [hbelow] at hlines
  rw [hleading, hlength] at hcursor
  have hthere : w'.editor.lines[(above ++ relaid o block).length]? = some line := by
    rw [hlines, List.getElem?_append_right (Nat.le_refl _), Nat.sub_self]
    rfl
  refine ⟨w', above, block, below, line, rest, hescape, harea, hlines, hline,
    ⟨l, r, hsplit, hcursor, hl, hr⟩, cursorInTable_off ?_ hthere hoff⟩
  rw [hcursor]

/-- A quoted table without a delimiter row is escaped from its last row, to a quoted line behind it
whose first pipe is no column's. -/
theorem escape_leaves_table_quoted :
    ∃ w', run { leftMarginChars := [['>']], formatType := .weak } .escape
        ⟨{ lines := [['z'], "> |a".toList, "> |b|c".toList, " > x|".toList], cursor := ⟨2, 5⟩ },
          none⟩ = .ok () w' ∧
      w'.editor.cursorInTable ⟨[['>']]⟩ = .ok false := by
  obtain ⟨w', -, -, -, -, -, hescape, -, -, -, -, hoff⟩ :=
    escape_leaves_table { leftMarginChars := [['>']], formatType := .weak }
      ⟨{ lines := [['z'], "> |a".toList, "> |b|c".toList, " > x|".toList], cursor := ⟨2, 5⟩ }, none⟩
      rfl rfl (by decide) (by decide)
  exact ⟨w', hescape, hoff⟩

end Workspace

end TextTable
