import TextTable.Proofs.Editor.Shows

/-!
# Row commands

The commands that put in, take out and move a row are operations on the list of rows that make up
the body of the grid that an editor shows (`insertRow_shows`, `deleteRow_shows`, `moveRow_shows`).
The header and the delimiter row are no part of the body, and stay: a row is put in below them, and
none of them is taken out or moved.
-/

namespace TextTable

namespace Workspace

variable {o : Options} {w : Workspace} {g : Grid} {f : Focus}

section Shows

variable (hm : o.margin.Simple) (h : w.editor.Open) (hshows : w.editor.Shows o g f)

include hm h hshows

/-- A row is put in above the one of the cursor, or first in the body if the cursor is above it. -/
theorem insertRow_shows :
    ∃ w' f', run o .insertRow w = .ok () w' ∧ w'.editor.Open ∧
      w'.editor.Shows o (g.insertRow (max f.row 2 - 2).toNat) f' ∧
      f'.Reaches (g.insertRow (max f.row 2 - 2).toNat) ⟨max f.row 2, 0, f.offset⟩ := by
  refine run_shows hm h hshows fun t s ht hg _ hlt => ?_
  rw [← hg]
  exact Command.makes_insertRow ht hlt s

/-- A row that is taken out leaves the cursor in the row that takes its place, or else in the row of
text above it. -/
theorem deleteRow_shows :
    ∃ w' f', run o .deleteRow w = .ok () w' ∧ w'.editor.Open ∧
      w'.editor.Shows o (if 2 ≤ f.row then g.deleteRow (f.row - 2).toNat else g) f' ∧
      f'.Reaches (if 2 ≤ f.row then g.deleteRow (f.row - 2).toNat else g)
        (f.withRow (if f.row < 2 ∨ f.row + 1 < g.height then f.row
          else if 2 < f.row then f.row - 1 else 0)) := by
  refine run_shows hm h hshows fun t s ht hg hrow hlt => ?_
  rw [← hg]
  exact Command.makes_deleteRow ht hrow hlt

/-- A row of the body is moved as far as the body goes; the rows above the body are not moved. -/
theorem moveRow_shows (rows : Int) :
    ∃ w' f', run o (.moveRow rows) w = .ok () w' ∧ w'.editor.Open ∧
      w'.editor.Shows o (if 2 ≤ f.row then g.moveRow (f.row - 2).toNat
        (min (max (f.row + rows) 2) ((g.height : Int) - 1) - 2).toNat else g) f' ∧
      f'.Reaches (if 2 ≤ f.row then g.moveRow (f.row - 2).toNat
          (min (max (f.row + rows) 2) ((g.height : Int) - 1) - 2).toNat else g)
        (f.withRow (if 2 ≤ f.row then min (max (f.row + rows) 2) ((g.height : Int) - 1)
          else f.row)) := by
  refine run_shows hm h hshows fun t s ht hg hrow hlt => ?_
  rw [← hg]
  exact Command.makes_moveRow ht hrow hlt rows

end Shows

/-- In an editor that accepts every row and refuses nothing, with the cursor in a table, the row
commands succeed, and what the editor shows then is the grid that it showed before with one change
to its body. A blank row as wide as the header is put in at the cursor's row, or at the top of the
body for a cursor above it, and the cursor goes to its first cell. A row of the body is taken out,
and the cursor goes to the row that takes its place, or else to the row of the body above it, or
else to the header. A row of the body is moved up or down as far as the body goes, and the cursor
goes with it. For a cursor above the body, nothing is taken out or moved. -/
theorem row_commands_refine (o : Options) (hm : o.margin.Simple) (w : Workspace)
    (haccepts : w.editor.rejected = []) (hpermits : w.editor.refused = none) {g : Grid} {f : Focus}
    (hshows : w.editor.Shows o g f) :
    (∃ w' f', run o .insertRow w = .ok () w' ∧
      w'.editor.Shows o (g.insertRow (max f.row 2 - 2).toNat) f' ∧
      f'.row = max f.row 2 ∧ f'.column = 0) ∧
    (∃ w' f', run o .deleteRow w = .ok () w' ∧
      w'.editor.Shows o (if 2 ≤ f.row then g.deleteRow (f.row - 2).toNat else g) f' ∧
      f'.row = if f.row < 2 ∨ f.row + 1 < g.height then f.row
        else if 2 < f.row then f.row - 1 else 0) ∧
    ∀ rows : Int, ∃ w' f', run o (.moveRow rows) w = .ok () w' ∧
      w'.editor.Shows o (if 2 ≤ f.row then g.moveRow (f.row - 2).toNat
        (min (max (f.row + rows) 2) ((g.height : Int) - 1) - 2).toNat else g) f' ∧
      f'.row = if 2 ≤ f.row then min (max (f.row + rows) 2) ((g.height : Int) - 1)
        else f.row := by
  have hopen : w.editor.Open := ⟨haccepts, hpermits⟩
  refine ⟨?_, ?_, fun rows => ?_⟩
  · obtain ⟨w', f', hrun, -, hshows', hreaches⟩ := insertRow_shows hm hopen hshows
    have hpos := (hshows.complete hm hopen).header_pos
    exact ⟨w', f', hrun, hshows', hreaches.row,
      hreaches.column (Int.le_refl 0) (Int.natCast_pos.mpr hpos)⟩
  · obtain ⟨w', f', hrun, -, hshows', hreaches⟩ := deleteRow_shows hm hopen hshows
    exact ⟨w', f', hrun, hshows', hreaches.row⟩
  · obtain ⟨w', f', hrun, -, hshows', hreaches⟩ := moveRow_shows hm hopen hshows rows
    exact ⟨w', f', hrun, hshows', hreaches.row⟩

/-- In a ragged table without a delimiter row, the first row of the body is moved to the end of it.
-/
theorem row_commands_refine_ragged :
    let w : Workspace := ⟨{ lines := [['x'], "|a|`b".toList, "|c".toList, "|d|e|f".toList]
                            cursor := ⟨2, 1⟩ }, none⟩
    let header := [['a'], "`b".toList]
    w.editor.Shows {} ⟨header, [none, none], [[['c'], []], [['d'], ['e'], ['f']]]⟩ ⟨2, 0, 0⟩ ∧
      ∃ w' f', run {} (.moveRow 7) w = .ok () w' ∧
        w'.editor.Shows {} ⟨header, [none, none], [[['d'], ['e'], ['f']], [['c'], []]]⟩ f' ∧
        f'.row = 3 := by
  intro w header
  have hshows : w.editor.Shows {}
      ⟨header, [none, none], [[['c'], []], [['d'], ['e'], ['f']]]⟩ ⟨2, 0, 0⟩ :=
    ⟨by decide, _, rfl, by decide, by decide⟩
  exact ⟨hshows,
    (row_commands_refine {} (by unfold Margin.Simple; decide) w rfl rfl hshows).2.2 7⟩

end Workspace

end TextTable
