import TextTable.Proofs.Editor.Inside
import TextTable.Proofs.Editor.Shows

/-!
# Moves of a column

To move a column of the header always succeeds, and permutes the cells of each row. Whether the
document then says so is another matter. It is read again, and in the new order a backtick may find
a partner that it did not have in the old one; what is between them is one content then
(`moveColumn_joins_columns`). What is shown after the move is the moved grid if and only if the
contents of each of its rows are apart, and then the move back gives the layout of what was there
before (`moveColumn_refines_iff_apart`).
-/

namespace TextTable

/-- What a plan writes can be told from the grid that it makes and the margin. -/
theorem Plan.Makes.written_eq {o : Options} {m : Margin} {t : Table} {g : Grid} {target : Focus}
    {p : Plan} (hp : p.Makes m t g target) :
    p.written o = g.layout o.toStyle p.table.marginLeft := by
  rw [Plan.written, Table.format_eq_layout _ hp.soundFor.sound.complete, hp.grid]

namespace Editor

variable {o : Options} {e : Editor} {g : Grid} {f : Focus}

/-- The contents of what is shown are apart in every row. -/
theorem Shows.apart (hm : o.margin.Simple) (h : e.Open) (hshows : e.Shows o g f) : g.Apart := by
  obtain ⟨above, block, below, f₀, hshown⟩ := hshows.exists_shownBy hm h
  exact hshown.grid ▸ hshown.sound.apart

end Editor

namespace Workspace

open Editor

variable {o : Options} {w : Workspace} {g : Grid} {f : Focus}

/-- A column that may be moved to the column `j` is shown there, with the cursor in it. What is
written is the layout of the moved grid, behind the margin that there was before. -/
theorem moveColumn_shownBy (hm : o.margin.Simple) (h : w.editor.Open)
    {above block below : List Text} {f₀ : Focus}
    (hshown : w.editor.ShownBy o above block below f₀ g f) {i j : Nat} (hi : i < g.header.length)
    (hj : j < g.header.length) (hcolumn : f.column = i) {k : Int}
    (htarget : min (max (f.column + k) 0) ((g.header.length : Int) - 1) = j)
    (hapart : (g.moveColumn i j).Apart) :
    ∃ w' block' f₀' f', run o (.moveColumn k) w = .ok () w' ∧ w'.editor.Open ∧
      w'.editor.ShownBy o above block' below f₀' (g.moveColumn i j) f' ∧ f'.column = j ∧
      block' = ((g.moveColumn i j).layout o.toStyle
        ((Table.ofLines o.margin block).complete o.toStyle).marginLeft).lines ∧
      ((Table.ofLines o.margin block').complete o.toStyle).marginLeft =
        ((Table.ofLines o.margin block).complete o.toStyle).marginLeft := by
  have hs := o.minDelimiterWidth_pos
  obtain ⟨hrow, hlt⟩ := hshown.within
  obtain ⟨p, hplan, hmargin, hmakes⟩ := Command.makes_moveColumn hshown.sound hrow hlt
    (by omega) (by rw [hshown.grid]; omega) k
    (by rwa [hshown.grid, htarget, hcolumn, Int.toNat_natCast, Int.toNat_natCast])
  rw [hshown.grid, htarget, hcolumn, Int.toNat_natCast, Int.toNat_natCast] at hmakes
  obtain ⟨e', f', hrun, hopen, hshown', hreaches⟩ :=
    run_shownBy hm h hshown (c := .moveColumn k) hplan hmakes
  have hsound := hmakes.soundFor.sound
  have hread : Table.ofLines o.margin (p.written o).lines = p.written o :=
    hsound.ofLines_format hm hs
  have hwritten : (p.written o).Complete := hsound.complete_format hs
  have hmargin' : (p.written o).marginLeft = p.table.marginLeft :=
    hsound.complete.marginLeft_format
  refine ⟨_, _, _, f', hrun, hopen, hshown', ?_, ?_, ?_⟩
  · refine hreaches.column (Int.natCast_nonneg _) ?_
    rw [Grid.length_header_moveColumn hi hj]
    exact Int.ofNat_lt.mpr hj
  · rw [hmakes.written_eq, hmargin]
  · rw [hread, hwritten.complete_eq, hmargin', hmargin]

/-- The layout of the table under the cursor is that of its grid. -/
theorem format_lines (hm : o.margin.Simple) (h : w.editor.Open) {above block below : List Text}
    {f₀ : Focus} (hshown : w.editor.ShownBy o above block below f₀ g f) :
    ∃ w', run o .format w = .ok () w' ∧
      w'.editor.lines = above ++ (g.layout o.toStyle
        ((Table.ofLines o.margin block).complete o.toStyle).marginLeft).lines ++ below := by
  obtain ⟨hrow, hlt⟩ := hshown.within
  have hmakes : Plan.Makes o.margin ((Table.ofLines o.margin block).complete o.toStyle) g f
      ⟨_, .cell f _ false false, .forget⟩ :=
    ⟨Command.soundFor_stay hshown.sound hrow hlt false false .forget, hshown.grid, rfl⟩
  obtain ⟨e', f', hrun, -, hshown', -⟩ := run_shownBy hm h hshown (c := .format) rfl hmakes
  exact ⟨_, hrun, by rw [hshown'.lines, hmakes.written_eq]⟩

/-- In an editor that accepts every row and refuses nothing, with the cursor in a column of the
header of a table, the move of the column succeeds. The column goes as many columns on as the header
has. What the editor shows then is the grid that it showed before with the column moved, if the
contents of each row of that grid are apart, and otherwise it is not. And if they are, the move back
leaves the lines that the layout would have left in the first place. -/
theorem moveColumn_refines_iff_apart (o : Options) (hm : o.margin.Simple) (w : Workspace)
    (haccepts : w.editor.rejected = []) (hpermits : w.editor.refused = none) {g : Grid} {f : Focus}
    (hshows : w.editor.Shows o g f) (i : Nat) (hi : i < g.header.length) (hcolumn : f.column = i)
    (columns : Int) (j : Nat)
    (hj : min (max (f.column + columns) 0) ((g.header.length : Int) - 1) = j) :
    ∃ w', run o (.moveColumn columns) w = .ok () w' ∧
      ((∃ f', w'.editor.Shows o (g.moveColumn i j) f') ↔ (g.moveColumn i j).Apart) ∧
      ((g.moveColumn i j).Apart → ∃ w'' w₀, run o (.moveColumn (i - j)) w' = .ok () w'' ∧
        run o .format w = .ok () w₀ ∧ w''.editor.lines = w₀.editor.lines) := by
  have hopen : w.editor.Open := ⟨haccepts, hpermits⟩
  have hj' : j < g.header.length := by omega
  by_cases hapart : (g.moveColumn i j).Apart
  · obtain ⟨above, block, below, f₀, hshown⟩ := hshows.exists_shownBy hm hopen
    obtain ⟨w', block', f₀', f', hrun, hopen', hshown', hcolumn', hblock', hmargin'⟩ :=
      moveColumn_shownBy hm hopen hshown hi hj' hcolumn hj hapart
    have hlen := Grid.length_header_moveColumn hi hj'
    have hback := (hshows.complete hm hopen).moveColumn_moveColumn hi hj'
    obtain ⟨w'', block'', f₀'', f'', hrun'', -, hshown'', -, hblock'', -⟩ :=
      moveColumn_shownBy hm hopen' hshown' (i := j) (j := i) (k := i - j) (by omega)
        (by omega) hcolumn' (by omega) (by rw [hback]; exact hshows.apart hm hopen)
    obtain ⟨w₀, hformat, hlines⟩ := format_lines hm hopen hshown
    have hshows' : ∃ f', w'.editor.Shows o (g.moveColumn i j) f' := ⟨f', hshown'.shows⟩
    refine ⟨w', hrun, iff_of_true hshows' hapart, fun _ => ⟨w'', w₀, hrun'', hformat, ?_⟩⟩
    rw [hshown''.lines, hlines, hblock'', hmargin', hback]
  · obtain ⟨above, block, below, harea⟩ := hshows.exists_around
    obtain ⟨w', hrun, hrejected, hrefused, -⟩ := run_around hm hpermits harea (.moveColumn columns)
    have hopen' : w'.editor.Open := ⟨hrejected.trans haccepts, hrefused⟩
    refine ⟨w', hrun, iff_of_false ?_ hapart, fun h => absurd h hapart⟩
    rintro ⟨f', hshows'⟩
    exact hapart (hshows'.apart hm hopen')

/-- The first of three columns goes to the end, in a table whose rows are longer or shorter than the
header. The backtick of the last row finds no partner there either, so the columns are moved, and
the move by two columns to the left brings them back. -/
theorem moveColumn_refines_iff_apart_ragged :
    let w : Workspace := ⟨{ lines := ["|a|b|c".toList, "|:-:|--:".toList, "|d|e|f|g".toList,
                                      "|h`".toList]
                            cursor := ⟨2, 2⟩ }, none⟩
    let g : Grid := ⟨[['a'], ['b'], ['c']], [some .center, some .right, none],
      [[['d'], ['e'], ['f'], ['g']], ["h`".toList, [], []]]⟩
    w.editor.Shows {} g ⟨2, 0, 1⟩ ∧ (g.moveColumn 0 2).Apart ∧
      ∃ w', run {} (.moveColumn 5) w = .ok () w' ∧
        (∃ f', w'.editor.Shows {} (g.moveColumn 0 2) f') ∧
        ∃ w'' w₀, run {} (.moveColumn ((0 : Nat) - (2 : Nat))) w' = .ok () w'' ∧
          run {} .format w = .ok () w₀ ∧ w''.editor.lines = w₀.editor.lines := by
  intro w g
  have hshows : w.editor.Shows {} g ⟨2, 0, 1⟩ := ⟨by decide, _, rfl, by decide, by decide⟩
  -- each row of the moved grid is what is read from a line without blanks
  have hread : ∀ t, Row.Apart ((Row.parts t).map Text.trim) := fun t => Row.apart_parts rfl
  have hapart : (g.moveColumn 0 2).Apart :=
    ⟨hread "b|c|a".toList, List.forall_mem_cons.mpr ⟨hread "e|f|d|g".toList,
      List.forall_mem_singleton.mpr (hread "||h`".toList)⟩⟩
  obtain ⟨w', hrun, hiff, hback⟩ := moveColumn_refines_iff_apart {} (by unfold Margin.Simple; decide)
    w rfl rfl hshows 0 (by decide) rfl 5 2 (by decide)
  exact ⟨hshows, hapart, w', hrun, hiff.mpr hapart, hback hapart⟩

/-- Two columns with one backtick each change places, the first one escaped. What is between the
backticks, with the pipe, is read as one content then. -/
theorem moveColumn_joins_columns :
    let w : Workspace := ⟨{ lines := ["| a\\` | b` |".toList, "| --- | --- |".toList]
                            cursor := ⟨0, 2⟩ }, none⟩
    let g : Grid := ⟨["a\\`".toList, "b`".toList], [none, none], []⟩
    w.editor.Shows {} g ⟨0, 0, 1⟩ ∧
      ∃ w', run {} (.moveColumn 1) w = .ok () w' ∧
        ¬ ∃ f', w'.editor.Shows {} (g.moveColumn 0 1) f' := by
  intro w g
  have hrun : run {} (.moveColumn 1) w = .ok () ⟨{ w.editor with
      lines := ["| b`  | a\\` |".toList, "| --- | --- |".toList], cursor := ⟨0, 8⟩
      transactions := 1, log := [.replace 0 1 ["| b`  | a\\` |".toList]] }, none⟩ := by
    decide +kernel
  refine ⟨⟨by decide, _, rfl, by decide, by decide⟩, _, hrun, ?_⟩
  rintro ⟨f', -, b, hb, hg, -⟩
  obtain rfl := Option.some.inj (Except.ok.inj hb)
  revert hg
  decide

end Workspace

end TextTable
