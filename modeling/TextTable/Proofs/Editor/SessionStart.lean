import TextTable.Proofs.Editor.Sessions

/-!
# Where sessions begin

The first move of a session remembers the column where it began if this is a column of the header,
and otherwise the first one (`exists_begun`). But it is the header that the move has made that
counts. A move to the next cell puts in a column if it comes from the last column of a row of the
body or from behind it, and then the place right behind the old header is a column of the new one
(`homeOf_off`, `session_begins_in_new_column`).
-/

namespace TextTable

namespace Command

/-- Without a session, a move to the next row returns to the column where it begins, as a session
would remember it. -/
theorem returnColumn_none {o : Options} (hsmart : o.smartCursor = true) (g : Grid) (f : Focus) :
    returnColumn o none g f = (Session.homeOf f g.header.length).column := by
  rw [returnColumn, if_pos hsmart, Session.homeOf_column]
  rfl

end Command

namespace Session

/-- A session remembers a column of the header. -/
theorem homeOf_within (start : Focus) {width : Nat} (hwidth : 0 < width) :
    0 ≤ (homeOf start width).column ∧ (homeOf start width).column < width := by
  rw [homeOf_column]
  split
  · assumption
  · omega

/-- The home of a focus off the header is the first column, unless it is right behind a header that
a move to the next cell makes wider. -/
theorem homeOf_off {c : Command} {f : Focus} {n : Nat}
    (hoff : f.column < 0 ∨ (n : Int) ≤ f.column) :
    (homeOf f (c.widthAfter f n)).column =
      if c = .nextCell ∧ 2 ≤ f.row ∧ f.column = n then f.column else 0 := by
  rw [homeOf_column, Command.widthAfter]
  by_cases hc : c = .nextCell
  · simp only [hc, true_and]
    by_cases hout : 2 ≤ f.row ∧ (n : Int) ≤ f.column + 1
    · rw [if_pos hout]
      split <;> split <;> omega
    · rw [if_neg hout]
      split <;> split <;> omega
  · simp only [hc, false_and, if_false]
    rw [if_neg (by omega)]

end Session

namespace Workspace

open Editor

variable {o : Options} {w : Workspace} {g : Grid} {f : Focus} {c : Command}

/-- From wherever it begins, the first move begins a session that returns to its home. -/
theorem exists_begun (hm : o.margin.Simple) (hsmart : o.smartCursor = true) (h : w.editor.Open)
    (hnone : w.session = none) {above block below : List Text} {f₀ : Focus}
    (hshown : w.editor.ShownBy o above block below f₀ g f) (hc : c.checksSession = true) :
    ∃ w' block' g' f' s, run o c w = .ok () w' ∧
      InSession o (Session.homeOf f (c.widthAfter f g.header.length)).column w' above block' below
        g' f' s := by
  have hpos : 0 < g.header.length := hshown.grid ▸ hshown.sound.complete.full.header_pos
  have hreturn := Command.returnColumn_none hsmart g f
  obtain ⟨hhome, hhome'⟩ := Session.homeOf_within f hpos
  rw [← hreturn, ← hnone] at hhome hhome'
  have hcheck : Session.check w.session ⟨above.length, 0⟩ f₀ = w.session := by
    rw [hnone]
    rfl
  obtain ⟨w', block', g', f', s, hrun, hsession, -⟩ :=
    exists_recorded hm hsmart h hshown hcheck hc hhome hhome'
      (Session.homeOf_within f (hpos.trans_le (c.le_widthAfter f _)))
      fun hlast => ⟨_, by rw [hnone]; rfl, rfl, rfl, hlast⟩
  exact ⟨w', block', g', f', s, hrun, hsession⟩

/-- In an editor that accepts every row and refuses nothing, with a smart cursor but no session, and
with the cursor in a table but in no column of its header, a move to the next cell or the next row
succeeds and begins a session. The session returns to the first column, except when the move is to
the next cell, from right behind the header and in a row of the body; then it returns to the new
column. The column that it returns to is where a move to the next row leads. -/
theorem session_begins_off_header (o : Options) (hm : o.margin.Simple)
    (hsmart : o.smartCursor = true) (w : Workspace) (haccepts : w.editor.rejected = [])
    (hpermits : w.editor.refused = none) (hnone : w.session = none) {g : Grid} {f : Focus}
    (hshows : w.editor.Shows o g f) (hoff : f.column < 0 ∨ (g.header.length : Int) ≤ f.column)
    {c : Command} (hc : c = .nextCell ∨ c = .nextRow) :
    ∃ w' s g' f', run o c w = .ok () w' ∧ w'.session = some s ∧
      s.start.column = (if c = .nextCell ∧ 2 ≤ f.row ∧ f.column = g.header.length then f.column
        else 0) ∧
      w'.editor.Shows o g' f' ∧
      ∃ w'' g'' f'', run o .nextRow w' = .ok () w'' ∧ w''.editor.Shows o g'' f'' ∧
        f''.row = max (f'.row + 1) 2 ∧ f''.column = s.start.column := by
  have hopen : w.editor.Open := ⟨haccepts, hpermits⟩
  obtain ⟨above, block, below, f₀, hshown⟩ := hshows.exists_shownBy hm hopen
  have hchecks : c.checksSession = true := by rcases hc with rfl | rfl <;> rfl
  obtain ⟨w', block', g', f', s, hrun, h'⟩ :=
    exists_begun hm hsmart hopen hnone hshown hchecks
  obtain ⟨w'', block'', g'', f'', s'', hrun', h'', hnext⟩ :=
    h'.exists_next hm hsmart (c := .nextRow) rfl
  obtain ⟨hrow, hcolumn⟩ := hnext rfl
  refine ⟨w', s, g', f', hrun, h'.session, h'.tracks.start.trans (Session.homeOf_off hoff),
    h'.shown.shows, w'', g'', f'', hrun', h''.shown.shows, hrow, ?_⟩
  rw [hcolumn, h'.tracks.start]

/-- A session begins two columns behind the only column of the header and returns to the first one,
though the move puts in a column. -/
theorem session_begins_off_header_long :
    let o : Options := { smartCursor := true }
    let w : Workspace := ⟨{ lines := ["|a".toList, "|b|c|d".toList], cursor := ⟨1, 5⟩ }, none⟩
    w.editor.Shows o ⟨[['a']], [none], [[['b'], ['c'], ['d']]]⟩ ⟨2, 2, 0⟩ ∧
      ∃ w' s g' f', run o .nextCell w = .ok () w' ∧ w'.session = some s ∧ s.start.column = 0 ∧
        w'.editor.Shows o g' f' ∧ ∃ w'' g'' f'', run o .nextRow w' = .ok () w'' ∧
          w''.editor.Shows o g'' f'' ∧ f''.row = max (f'.row + 1) 2 ∧
          f''.column = s.start.column := by
  intro o w
  have hshows : w.editor.Shows o ⟨[['a']], [none], [[['b'], ['c'], ['d']]]⟩ ⟨2, 2, 0⟩ :=
    ⟨by decide, _, rfl, by decide, by decide⟩
  exact ⟨hshows, session_begins_off_header o (by unfold Margin.Simple; decide) rfl w rfl rfl rfl
    hshows (Or.inr (by decide)) (Or.inl rfl)⟩

/-- From right behind the only column of the header, a move to the next cell puts in a column, and
the session returns to this one. A move to the next row from there would return to the first
column. -/
theorem session_begins_in_new_column :
    let o : Options := { smartCursor := true }
    let w : Workspace := ⟨{
      lines := ["| a |".toList, "| --- |".toList, "| 1 |".toList]
      cursor := ⟨2, 5⟩ }, none⟩
    w.editor.Shows o ⟨[['a']], [none], [[['1']]]⟩ ⟨2, 1, 0⟩ ∧
      (∃ w' w'' g f, run o .nextCell w = .ok () w' ∧ run o .nextRow w' = .ok () w'' ∧
        w''.editor.Shows o g f ∧ f.column = 1) ∧
      ∃ w' g f, run o .nextRow w = .ok () w' ∧ w'.editor.Shows o g f ∧ f.column = 0 := by
  intro o w
  let grown : Workspace := ⟨{
      lines := ["| a   |     |".toList, "| --- | --- |".toList, "| 1   |     |".toList]
      cursor := ⟨2, 8⟩
      transactions := 1
      log := [.replace 0 3
        ["| a   |     |".toList, "| --- | --- |".toList, "| 1   |     |".toList]] },
      some ⟨⟨0, 0⟩, ⟨2, 1, 0⟩, ⟨2, 1, 1⟩⟩⟩
  have hcell : run o .nextCell w = .ok () grown := by decide +kernel
  have hreturn : run o .nextRow grown = .ok () ⟨{
      lines := grown.editor.lines ++ ["|     |     |".toList]
      cursor := ⟨3, 8⟩
      transactions := 2
      log := grown.editor.log ++ [.insert 3 "|     |     |".toList] },
      some ⟨⟨0, 0⟩, ⟨2, 1, 0⟩, ⟨3, 1, 1⟩⟩⟩ := by
    decide +kernel
  have hrow : run o .nextRow w = .ok () ⟨{
      lines := ["| a   |".toList, "| --- |".toList, "| 1   |".toList, "|     |".toList]
      cursor := ⟨3, 2⟩
      transactions := 1
      log := [.replace 0 1 ["| a   |".toList], .insert 2 "| 1   |".toList,
        .replace 3 4 ["|     |".toList]] },
      some ⟨⟨0, 0⟩, ⟨2, 0, 0⟩, ⟨3, 0, 1⟩⟩⟩ := by
    decide +kernel
  refine ⟨⟨by decide, _, rfl, by decide, by decide⟩, ?_, ?_⟩
  · exact ⟨grown, _, ⟨[['a'], []], [none, none], [[['1'], []], [[], []]]⟩, ⟨3, 1, 1⟩, hcell, hreturn,
      ⟨by decide, _, rfl, by decide, by decide⟩, rfl⟩
  · exact ⟨_, ⟨[['a']], [none], [[['1']], [[]]]⟩, ⟨3, 0, 1⟩, hrow,
      ⟨by decide, _, rfl, by decide, by decide⟩, rfl⟩

end Workspace

end TextTable
