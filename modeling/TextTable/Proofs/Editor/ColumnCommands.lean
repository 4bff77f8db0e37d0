import TextTable.Proofs.Editor.Shows

/-!
# Column commands

The commands that put in and take out a column, and that set an alignment, are operations on each
row of the grid that an editor shows, and on its alignments (`insertColumn_shows`,
`deleteColumn_shows`, `alignColumn_shows`). Only the header says which columns there are: a column
is put in no further on than behind the last cell of the header, and what a wider row holds there
moves on with it. The last column of the header is never taken out.
-/

namespace TextTable

namespace Workspace

variable {o : Options} {w : Workspace} {g : Grid} {f : Focus}

section Shows

variable (hm : o.margin.Simple) (h : w.editor.Open) (hshows : w.editor.Shows o g f)

include hm h hshows

/-- From the delimiter row, the cursor goes to the header. -/
theorem insertColumn_shows :
    ∃ w' f', run o .insertColumn w = .ok () w' ∧ w'.editor.Open ∧
      w'.editor.Shows o
        (g.insertColumn (min (max f.column 0) (g.header.length : Int)).toNat) f' ∧
      f'.Reaches (g.insertColumn (min (max f.column 0) (g.header.length : Int)).toNat)
        ((Command.offDelimiter f).withColumn (min (max f.column 0) (g.header.length : Int))) := by
  refine run_shows hm h hshows fun t s ht hg hrow hlt => ?_
  rw [← hg]
  exact Command.makes_insertColumn ht hrow hlt

/-- A column of the header is taken out unless it is the only one, and the cursor stays in the
columns that are left. -/
theorem deleteColumn_shows :
    ∃ w' f', run o .deleteColumn w = .ok () w' ∧ w'.editor.Open ∧
      w'.editor.Shows o (if 2 ≤ g.header.length ∧ 0 ≤ f.column ∧ f.column < g.header.length
        then g.deleteColumn f.column.toNat else g) f' ∧
      f'.Reaches (if 2 ≤ g.header.length ∧ 0 ≤ f.column ∧ f.column < g.header.length
          then g.deleteColumn f.column.toNat else g)
        ((Command.offDelimiter f).withColumn
          (if 2 ≤ g.header.length ∧ 0 ≤ f.column ∧ f.column < g.header.length
            then min f.column ((g.header.length : Int) - 2) else f.column)) := by
  refine run_shows hm h hshows fun t s ht hg hrow hlt => ?_
  rw [← hg]
  exact Command.makes_deleteColumn ht hrow hlt

/-- The cursor stays. -/
theorem alignColumn_shows (a : Alignment) :
    ∃ w' f', run o (.alignColumn a) w = .ok () w' ∧ w'.editor.Open ∧
      w'.editor.Shows o (if 0 ≤ f.column ∧ f.column < g.header.length
        then g.setAlignment f.column.toNat a else g) f' ∧
      f'.Reaches (if 0 ≤ f.column ∧ f.column < g.header.length
        then g.setAlignment f.column.toNat a else g) f := by
  refine run_shows hm h hshows fun t s ht hg hrow hlt => ?_
  rw [← hg]
  exact ⟨_, rfl, Command.makes_alignColumn ht hrow hlt f.column a⟩

end Shows

/-- In an editor that accepts every row and refuses nothing, with the cursor in a table, the column
commands succeed, and what the editor shows then is the grid that it showed before with one change
to all its columns at once. A blank column without alignment is put in at the cursor's column, or at
the nearest end of the header for a cursor off it. A column of the header is taken out with its
alignment, unless it is the only one. The alignment of a column of the header is set. For a cursor
off the columns of the header, nothing is taken out or set. -/
theorem column_commands_refine (o : Options) (hm : o.margin.Simple) (w : Workspace)
    (haccepts : w.editor.rejected = []) (hpermits : w.editor.refused = none) {g : Grid} {f : Focus}
    (hshows : w.editor.Shows o g f) :
    (∃ w' f', run o .insertColumn w = .ok () w' ∧
      w'.editor.Shows o
        (g.insertColumn (min (max f.column 0) (g.header.length : Int)).toNat) f') ∧
    (∃ w' f', run o .deleteColumn w = .ok () w' ∧
      w'.editor.Shows o (if 2 ≤ g.header.length ∧ 0 ≤ f.column ∧ f.column < g.header.length
        then g.deleteColumn f.column.toNat else g) f') ∧
    ∀ a : Alignment, ∃ w' f', run o (.alignColumn a) w = .ok () w' ∧
      w'.editor.Shows o (if 0 ≤ f.column ∧ f.column < g.header.length
        then g.setAlignment f.column.toNat a else g) f' := by
  have hopen : w.editor.Open := ⟨haccepts, hpermits⟩
  refine ⟨?_, ?_, fun a => ?_⟩
  · obtain ⟨w', f', hrun, -, hshows', -⟩ := insertColumn_shows hm hopen hshows
    exact ⟨w', f', hrun, hshows'⟩
  · obtain ⟨w', f', hrun, -, hshows', -⟩ := deleteColumn_shows hm hopen hshows
    exact ⟨w', f', hrun, hshows'⟩
  · obtain ⟨w', f', hrun, -, hshows', -⟩ := alignColumn_shows hm hopen hshows a
    exact ⟨w', f', hrun, hshows'⟩

/-- In a ragged table without a delimiter row, the second column is taken out, and a row that is
wider than the header keeps its last cell. -/
theorem column_commands_refine_ragged :
    let w : Workspace := ⟨{ lines := ["|a|b|c".toList, "|d|`e|f|g".toList, "|h".toList]
                            cursor := ⟨1, 3⟩ }, none⟩
    w.editor.Shows {} ⟨[['a'], ['b'], ['c']], [none, none, none],
        [[['d'], "`e".toList, ['f'], ['g']], [['h'], [], []]]⟩ ⟨2, 1, 0⟩ ∧
      ∃ w' f', run {} .deleteColumn w = .ok () w' ∧
        w'.editor.Shows {} ⟨[['a'], ['c']], [none, none],
          [[['d'], ['f'], ['g']], [['h'], []]]⟩ f' := by
  intro w
  have hshows : w.editor.Shows {} ⟨[['a'], ['b'], ['c']], [none, none, none],
      [[['d'], "`e".toList, ['f'], ['g']], [['h'], [], []]]⟩ ⟨2, 1, 0⟩ :=
    ⟨by decide, _, rfl, by decide, by decide⟩
  exact ⟨hshows,
    (column_commands_refine {} (by unfold Margin.Simple; decide) w rfl rfl hshows).2.1⟩

end Workspace

end TextTable
