import TextTable.Proofs.Editor.NormalForm

/-!
# What an editor shows

An editor with its cursor in a table *shows* a grid, which is what the table says once it is
complete, and a focus, which is where the cursor is in it (`Shows`). A plan that makes a table of
what is shown, and sends the cursor into it, leaves an editor that shows the grid of the planned
table (`carryOut_shownBy`, `run_shows`): this is read again from the lines that were written, and so
is the focus. What is shown with the lines that show it in view is `ShownBy`.
-/

namespace TextTable

namespace Editor

/-- The cursor is in a table that says `g` once it is complete, where its focus is `f`. -/
structure Shows (o : Options) (e : Editor) (g : Grid) (f : Focus) : Prop where
  low : 0 ≤ e.cursor.row
  block : ∃ b, e.block? o.margin = .ok (some b) ∧ (b.table.complete o.toStyle).grid = g ∧
    b.focus.completed b.table = f

variable {o : Options} {e : Editor} {g : Grid} {f target : Focus}

/-- There is a table around a cursor that is in one. -/
theorem exists_around_of_cursorInTable {m : Margin} (hlow : 0 ≤ e.cursor.row)
    (hin : e.cursorInTable m = .ok true) : ∃ above block below, e.Around m above block below := by
  obtain ⟨k, line, hk, hline, -⟩ := exists_line_of_cursorInTable hlow hin
  have hhigh : e.cursor.row < e.lines.length := by
    have := (List.getElem?_eq_some_iff.mp hline).1
    omega
  rw [cursorInTable_eq hlow hhigh] at hin
  exact exists_around hlow hhigh (Except.ok.inj hin)

/-- A table is found only under a cursor in it, and its focus is where the cursor is. -/
theorem block?_found {m : Margin} {b : Block} (h : e.block? m = .ok (some b)) :
    e.cursorInTable m = .ok true ∧ b.table.focusAt? e.cursor b.first = some b.focus := by
  rw [block?] at h
  cases hin : e.cursorInTable m with
  | error fault =>
    rw [hin] at h
    cases h
  | ok inTable =>
    rw [hin] at h
    cases inTable with
    | false => cases h
    | true =>
      obtain ⟨f, hf, rfl⟩ := Option.map_eq_some_iff.mp (Except.ok.inj h)
      exact ⟨rfl, hf⟩

/-- An editor shows something as long as its cursor is in a table. -/
theorem exists_shows_iff :
    (∃ g f, e.Shows o g f) ↔ 0 ≤ e.cursor.row ∧ e.cursorInTable o.margin = .ok true := by
  constructor
  · rintro ⟨g, f, hlow, b, hb, -⟩
    exact ⟨hlow, (block?_found hb).1⟩
  · rintro ⟨hlow, hin⟩
    obtain ⟨above, block, below, harea⟩ := exists_around_of_cursorInTable hlow hin
    obtain ⟨f, -, hblock⟩ := harea.block?_eq
    exact ⟨_, _, hlow, _, hblock, rfl, rfl⟩

theorem Shows.exists_around (h : e.Shows o g f) :
    ∃ above block below, e.Around o.margin above block below := by
  obtain ⟨hlow, hin⟩ := exists_shows_iff.mp ⟨g, f, h⟩
  exact exists_around_of_cursorInTable hlow hin

/-- What is shown is read from this run, with the cursor at `f₀` in the table as it was read. -/
structure ShownBy (o : Options) (e : Editor) (above block below : List Text) (f₀ : Focus)
    (g : Grid) (f : Focus) : Prop where
  lines : e.lines = above ++ block ++ below
  run : Run o.margin above block below
  found : e.block? o.margin = .ok (some ⟨above.length, block, Table.ofLines o.margin block, f₀⟩)
  completed : f₀.completed (Table.ofLines o.margin block) = f
  sound : ((Table.ofLines o.margin block).complete o.toStyle).Sound o.margin
  grid : ((Table.ofLines o.margin block).complete o.toStyle).grid = g
  row : 0 ≤ f.row ∧ f.row < g.height

/-- In an open editor this block is a run. -/
theorem Shows.exists_shownBy (hm : o.margin.Simple) (h : e.Open) (hshows : e.Shows o g f) :
    ∃ above block below f₀, e.ShownBy o above block below f₀ g f := by
  obtain ⟨hlow, hin⟩ := exists_shows_iff.mp ⟨g, f, hshows⟩
  obtain ⟨k, line, hk, hline, htable⟩ := exists_line_of_cursorInTable hlow hin
  obtain ⟨above, block, below, hrun, harea⟩ := exists_run_around h.accepts hk hline htable
  obtain ⟨f₀, hblock, -, hsound, hrow⟩ := harea.exists_focus hm
  obtain ⟨-, b, hb, rfl, rfl⟩ := hshows
  obtain rfl := Option.some.inj (Except.ok.inj (hb.symm.trans hblock))
  rw [hsound.complete.height_eq] at hrow
  exact ⟨above, block, below, f₀, harea.lines, hrun, hblock, rfl, hsound, rfl, hrow⟩

/-- The focus that is shown is on one of the rows of the table. -/
theorem ShownBy.within {above block below : List Text} {f₀ : Focus}
    (h : e.ShownBy o above block below f₀ g f) :
    0 ≤ f.row ∧ f.row < ((Table.ofLines o.margin block).complete o.toStyle).height := by
  have hrow := h.row
  rwa [← h.grid, ← h.sound.complete.height_eq] at hrow

/-- The focus that is shown is in the margin or in a column behind it. -/
theorem ShownBy.left {above block below : List Text} {f₀ : Focus}
    (h : e.ShownBy o above block below f₀ g f) : -1 ≤ f.column := by
  have hcolumn : f.column = f₀.column := by
    rw [← h.completed, Focus.completed]
    split <;> rfl
  rw [hcolumn]
  exact Table.focusAt?_column (block?_found h.found).2

/-- What is shown by a run is shown. -/
theorem ShownBy.shows {above block below : List Text} {f₀ : Focus}
    (h : e.ShownBy o above block below f₀ g f) : e.Shows o g f := by
  obtain ⟨hrow, hlow, -⟩ := Table.focusAt?_row (block?_found h.found).2
  refine ⟨?_, _, h.found, h.grid, h.completed⟩
  dsimp only at hrow hlow
  omega

/-- What is shown is complete. -/
theorem Shows.complete (hm : o.margin.Simple) (h : e.Open) (hshows : e.Shows o g f) :
    g.Complete := by
  obtain ⟨above, block, below, f₀, hshown⟩ := hshows.exists_shownBy hm h
  exact hshown.grid ▸ hshown.sound.complete.full

/-- Carrying out a plan shows the grid of the planned table, in the place where the table was, with
the cursor where it was sent. -/
theorem carryOut_shownBy (hm : o.margin.Simple) (h : e.Open) {b : Block} {above below : List Text}
    (he : e.lines = above ++ b.lines ++ below) (hfirst : b.first = above.length)
    (hrun : Run o.margin above b.lines below) {t : Table} {p : Plan}
    (hp : p.Makes o.margin t g target) :
    ∃ e' f', p.carryOut o b e = .ok () e' ∧ e'.Open ∧
      e'.ShownBy o above (p.written o).lines below f' g f' ∧ f'.Reaches g target := by
  have hs := o.minDelimiterWidth_pos
  have hsound := hp.soundFor.sound
  have hcomplete : (p.written o).Complete := hsound.complete_format hs
  obtain ⟨x, hf⟩ := hp.focus?_eq o
  obtain ⟨e', hcarry, hopen, hlines, hcursor⟩ := h.placed (carryOut_cell o p hf hfirst he)
  have hkept := hp.soundFor.completeFor.keeps_spot hf above.length e.cursor
  rw [← hcursor] at hkept
  -- what was written is read again
  obtain ⟨f', hf', hblock⟩ := hopen.block?_format hm hsound hlines (hrun.write hs hsound) hkept.row
  obtain ⟨f₁, hf₁, hreaches⟩ := hp.exists_reached hf above.length e.cursor
  rw [← hcursor] at hf₁
  obtain rfl : f' = f₁ := Option.some.inj (hf'.symm.trans hf₁)
  have hgrid : (p.written o).grid = g := (hsound.complete.grid_format hs).trans hp.grid
  have hread : Table.ofLines o.margin (p.written o).lines = p.written o :=
    hsound.ofLines_format hm hs
  obtain ⟨-, hrow, hlt⟩ := Table.focusAt?_row hf₁
  rw [hcomplete.height_eq, hgrid] at hlt
  refine ⟨e', f', hcarry, hopen, ⟨hlines, hrun.write hs hsound, ?_, ?_, ?_, ?_, hrow, hlt⟩,
    hreaches⟩
  · rw [hread]
    exact hblock
  · rw [hread]
    exact hcomplete.completed_eq f'
  · rw [hread, hcomplete.complete_eq]
    exact hsound.format hs
  · rw [hread, hcomplete.complete_eq, hgrid]

end Editor

namespace Workspace

open Editor

variable {o : Options} {w : Workspace} {g g' : Grid} {f target : Focus}

/-- A command that plans a change of the grid shows the changed grid, in the place where the table
was. -/
theorem run_shownBy (hm : o.margin.Simple) (h : w.editor.Open) {above block below : List Text}
    {f₀ : Focus} (hshown : w.editor.ShownBy o above block below f₀ g f) {c : Command} {p : Plan}
    (hplan : c.plan o (if c.checksSession then Session.check w.session ⟨above.length, 0⟩ f₀
      else w.session) ((Table.ofLines o.margin block).complete o.toStyle) f = .ok p)
    (hp : p.Makes o.margin ((Table.ofLines o.margin block).complete o.toStyle) g' target) :
    ∃ e' f', run o c w = .ok () ⟨e', p.remember o
        ⟨above.length, block, Table.ofLines o.margin block, f₀⟩ f
        (if c.checksSession then Session.check w.session ⟨above.length, 0⟩ f₀ else w.session)⟩ ∧
      e'.Open ∧ e'.ShownBy o above (p.written o).lines below f' g' f' ∧ f'.Reaches g' target := by
  obtain ⟨e', f', hcarry, hopen, hshown', hreaches⟩ := carryOut_shownBy hm h.begun
    (b := ⟨above.length, block, Table.ofLines o.margin block, f₀⟩) hshown.lines rfl hshown.run hp
  rw [← hshown.completed] at hplan ⊢
  exact ⟨e', f', run_of_carryOut hshown.found hplan hcarry, hopen, hshown', hreaches⟩

/-- A command that plans a change of the grid shows the changed grid. -/
theorem run_shows (hm : o.margin.Simple) (h : w.editor.Open) (hshows : w.editor.Shows o g f)
    {c : Command}
    (hplan : ∀ (t : Table) (s : Option Session), t.Sound o.margin → t.grid = g → 0 ≤ f.row →
      f.row < t.height → ∃ p, c.plan o s t f = .ok p ∧ p.Makes o.margin t g' target) :
    ∃ w' f', run o c w = .ok () w' ∧ w'.editor.Open ∧ w'.editor.Shows o g' f' ∧
      f'.Reaches g' target := by
  obtain ⟨above, block, below, f₀, hshown⟩ := hshows.exists_shownBy hm h
  obtain ⟨hrow, hlt⟩ := hshown.within
  obtain ⟨p, hp, hmakes⟩ := hplan _
    (if c.checksSession then Session.check w.session ⟨above.length, 0⟩ f₀ else w.session)
    hshown.sound hshown.grid hrow hlt
  obtain ⟨e', f', hok, hopen, hshown', hreaches⟩ := run_shownBy hm h hshown hp hmakes
  exact ⟨_, f', hok, hopen, hshown'.shows, hreaches⟩

end Workspace

end TextTable
