import TextTable.Proofs.Editor.Sessions

/-!
# Moves in the middle of a history

Between the moves of a session, anything may be done to the editor (`Workspace.Reachable`). A
session that goes on has been found to be in its table and in its cell, but the header may have
become shorter since it began. So a move to the next cell, which looks at the header, always leads
to a cell of a text row in a column of the header; and a move to the next row does so if and only if
the header still has the column that the session returns to (`moves_land_iff`,
`nextRow_leaves_header`).

What holds throughout a history is that a session, if there is one, returns to a column behind the
margin (`Session.Homed`). It is shown for one request (`request_homed`) and then, by induction on
the history, for whatever can be reached (`Reachable.homed`).
-/

namespace TextTable

/-- The focus is in a row of text, in a column of the header. -/
structure Focus.InText (f : Focus) (g : Grid) : Prop where
  row : 0 ≤ f.row ∧ f.row < g.height ∧ f.row ≠ 1
  column : 0 ≤ f.column ∧ f.column < g.header.length

/-- A focus that is sent to a column behind the margin is not in the margin, and it is in a column
of the header if and only if it is sent to one. -/
theorem Focus.Reaches.column_spec {f target : Focus} {g : Grid} (h : f.Reaches g target)
    (hpos : 0 ≤ target.column) :
    0 ≤ f.column ∧ (f.column < g.header.length ↔ target.column < g.header.length) := by
  by_cases hin : target.column < g.header.length
  · rw [h.column hpos hin]
    exact ⟨hpos, Iff.rfl⟩
  · have hbehind := h.behind (Int.not_lt.mp hin)
    exact ⟨by omega, iff_of_false (Int.not_lt.mpr hbehind) hin⟩

/-- What a workspace can become, from an editor without a session: by requests with any options,
whether they succeed or fail, by the end of a session, and by whatever is done to the editor in
between. -/
inductive Workspace.Reachable : Workspace → Prop
  | begun (e : Editor) : Reachable ⟨e, none⟩
  | edited {w : Workspace} (e : Editor) (before : Reachable w) : Reachable ⟨e, w.session⟩
  | ended {w : Workspace} (before : Reachable w) : Reachable w.endSession
  | succeeded {w w' : Workspace} {o : Options} {r : Request} (before : Reachable w)
      (run : r.run o w = .ok () w') : Reachable w'
  | failed {w w' : Workspace} {o : Options} {r : Request} {fault : Fault} (before : Reachable w)
      (run : r.run o w = .error fault w') : Reachable w'

namespace Session

/-! ## Where sessions begin -/

/-- A session, if there is one, returns to a column behind the margin. -/
def Homed (s : Option Session) : Prop := ∀ s' ∈ s, 0 ≤ s'.start.column

variable {s : Option Session}

theorem homed_none : Homed none := fun _ h => absurd h (Option.not_mem_none _)

/-- A check ends the session or leaves it as it is. -/
theorem Homed.check (h : Homed s) (tableStart : Position) (f : Focus) :
    Homed (check s tableStart f) := by
  rcases check_eq_or s tableStart f with heq | heq
  · rwa [heq]
  · rw [heq]
    exact homed_none

/-- A session that begins in the margin returns to the first column, and one that goes on returns
where it did. -/
theorem Homed.record (h : Homed s) (tableStart : Position) (start last : Focus) (width : Int) :
    Homed (record s tableStart start last width) := by
  cases s with
  | none =>
    intro s' hs'
    obtain rfl := Option.some.inj hs'
    rw [homeOf_column]
    split
    · next hin => exact hin.1
    · exact Int.le_refl 0
  | some s =>
    intro s' hs'
    obtain rfl := Option.some.inj hs'
    exact h s rfl

/-- What a plan remembers is a move, or nothing. -/
theorem Homed.remember (h : Homed s) (p : Plan) (o : Options) (b : Block) (start : Focus) :
    Homed (p.remember o b start s) := by
  rw [Plan.remember]
  split
  · exact homed_none
  · exact h.record _ _ _ _
  · exact h

end Session

namespace Workspace

open Editor Session

variable {o : Options} {w w' : Workspace} {g : Grid} {f : Focus}

/-- A command that succeeds leaves a session that returns to a column behind the margin, if it was
begun so: a session begins in a column of the header or in the first one, and later moves do not
change where it returns to. -/
theorem run_homed {c : Command} (h : run o c w = .ok () w') (hw : Homed w.session) :
    Homed w'.session := by
  rw [run] at h
  split at h
  · cases h
  · obtain ⟨-, rfl⟩ := EStateM.Result.ok.inj h
    exact hw
  · next b _ =>
    obtain ⟨p, -, -, hsession⟩ := runOn_ok h
    rw [hsession]
    refine Homed.remember ?_ p o b _
    rw [sessionFor]
    split
    · exact hw.check _ _
    · exact hw

/-- So does any request, whatever commands it is made of. -/
theorem request_homed {r : Request} (h : r.run o w = .ok () w') (hw : Homed w.session) :
    Homed w'.session := by
  by_cases hr : r = .formatAll
  · subst hr
    rw [formatAll_session h]
    exact homed_none
  · obtain ⟨c, hrun, -⟩ := exists_command hr h
    exact run_homed hrun hw

/-- Whatever has happened, a session returns to a column behind the margin. -/
theorem Reachable.homed (h : Reachable w) : Homed w.session := by
  induction h with
  | begun e => exact homed_none
  | edited e _ ih => exact ih
  | ended _ _ => exact homed_none
  | succeeded _ hrun ih => exact request_homed hrun ih
  | @failed w w' o r fault _ hrun ih =>
    obtain ⟨⟨n, s, rfl, hs⟩, -⟩ := repeatable_request o r w fault w' hrun
    rcases hs with rfl | rfl
    · exact ih
    · exact homed_none

end Workspace

namespace Command

/-! ## Where moves lead -/

/-- The column that a move to the next row returns to is never in the margin, and it is one of the
header unless a session remembers one that is not. -/
theorem returnColumn_spec (o : Options) {s : Option Session} (hs : Session.Homed s) {g : Grid}
    (hg : 0 < g.header.length) (f : Focus) :
    0 ≤ returnColumn o s g f ∧ (returnColumn o s g f < g.header.length ↔
      (o.smartCursor = true → ∀ s' ∈ s, s'.start.column < g.header.length)) := by
  rw [returnColumn]
  cases o.smartCursor with
  | false => exact ⟨Int.le_refl 0, by simpa using hg⟩
  | true =>
    cases s with
    | none =>
      have hdefault : 0 ≤ (if 0 ≤ f.column ∧ f.column < g.header.length then f.column else 0) ∧
          (if 0 ≤ f.column ∧ f.column < g.header.length then f.column else 0) <
            g.header.length := by
        split
        · assumption
        · exact ⟨Int.le_refl 0, Int.ofNat_lt.mpr hg⟩
      simpa [Session.startColumn?] using hdefault
    | some s => exact ⟨hs s rfl, by simp [Session.startColumn?]⟩

end Command

namespace Workspace

open Editor

variable {o : Options} {w : Workspace} {g : Grid} {f : Focus}

/-- In a workspace with any history behind it, whose editor accepts every row, refuses nothing and
has its cursor in a table, a move to the next cell leads to a column of the header in a row of text.
So does a move to the next row if and only if the smart cursor is off, or no session goes on, or the
header has the column that the session returns to. In any case that move does not lead to the
delimiter row or into the margin. -/
theorem moves_land_iff (o : Options) (hm : o.margin.Simple) {w : Workspace} (hw : w.Reachable)
    (haccepts : w.editor.rejected = []) (hpermits : w.editor.refused = none) {g : Grid} {f : Focus}
    (hshows : w.editor.Shows o g f) :
    (∃ w' g' f', run o .nextCell w = .ok () w' ∧ w'.editor.Shows o g' f' ∧ f'.InText g') ∧
      ∃ b w' g' f', w.editor.block? o.margin = .ok (some b) ∧ run o .nextRow w = .ok () w' ∧
        w'.editor.Shows o g' f' ∧ f'.row ≠ 1 ∧ 0 ≤ f'.column ∧
        (f'.InText g' ↔ (o.smartCursor = true →
          ∀ s ∈ Session.check w.session b.start b.focus, s.start.column < g.header.length)) := by
  have hopen : w.editor.Open := ⟨haccepts, hpermits⟩
  obtain ⟨above, block, below, f₀, hshown⟩ := hshows.exists_shownBy hm hopen
  obtain ⟨hrow, hlt⟩ := hshown.within
  constructor
  · obtain ⟨p, g', target, hplan, hmakes, -, hne, hcolumn, hin⟩ :=
      Command.makes_nextCell hshown.sound hrow hlt hshown.left
    obtain ⟨e', f', hrun, -, hshown', hreaches⟩ :=
      run_shownBy hm hopen hshown (c := .nextCell) hplan hmakes
    obtain ⟨hcolumn', hin'⟩ := hreaches.column_spec hcolumn
    exact ⟨_, g', f', hrun, hshown'.shows, ⟨hshown'.row.1, hshown'.row.2, hreaches.row ▸ hne⟩,
      hcolumn', hin'.mpr hin⟩
  · obtain ⟨hreturn, hreturn'⟩ := Command.returnColumn_spec o
      (hw.homed.check ⟨above.length, 0⟩ f₀) hshown.sound.complete.full.header_pos f
    have hmakes := Command.makes_nextRow hshown.sound hrow hlt
      (Session.check w.session ⟨above.length, 0⟩ f₀)
    rw [hshown.grid] at hreturn hreturn' hmakes
    obtain ⟨e', f', hrun, -, hshown', hreaches⟩ :=
      run_shownBy hm hopen hshown (c := .nextRow) rfl hmakes
    obtain ⟨hcolumn, hin⟩ := hreaches.column_spec hreturn
    have hne : f'.row ≠ 1 := by
      rw [hreaches.row]
      dsimp only
      split <;> omega
    refine ⟨_, _, _, f', hshown.found, hrun, hshown'.shows, hne, hcolumn, Iff.trans ?_ hreturn'⟩
    rw [Grid.header_growTo] at hin
    constructor
    · intro h
      have hlt' := h.column.2
      rw [Grid.header_growTo] at hlt'
      exact hin.mp hlt'
    · intro h
      refine ⟨⟨hshown'.row.1, hshown'.row.2, hne⟩, hcolumn, ?_⟩
      rw [Grid.header_growTo]
      exact hin.mpr h

/-- A session that began in the second column goes on after the new row was filled in. -/
theorem moves_land_iff_second_column :
    let o : Options := { smartCursor := true }
    let w : Workspace := ⟨{
      lines := ["| a   | b   |".toList, "| --- | --- |".toList, "| 1   | 2   |".toList]
      cursor := ⟨2, 9⟩ }, some ⟨⟨0, 0⟩, ⟨0, 1, 0⟩, ⟨2, 1, 1⟩⟩⟩
    w.Reachable ∧
      (∃ w' g' f', run o .nextCell w = .ok () w' ∧ w'.editor.Shows o g' f' ∧ f'.InText g') ∧
      ∃ w' g' f', run o .nextRow w = .ok () w' ∧ w'.editor.Shows o g' f' ∧ f'.InText g' := by
  intro o w
  have hrun : (Request.command .nextRow).run o
      ⟨{ lines := ["|a|b".toList], cursor := ⟨0, 3⟩ }, none⟩ = .ok () ⟨{
      lines := ["| a   | b   |".toList, "| --- | --- |".toList, "|     |     |".toList]
      cursor := ⟨2, 8⟩
      transactions := 1
      log := [.insert 0 "| a   | b   |".toList, .insert 1 "| --- | --- |".toList,
        .replace 2 3 ["|     |     |".toList]] }, w.session⟩ := by
    decide +kernel
  have hbegan := (Reachable.begun _).succeeded hrun
  have hreachable : w.Reachable := hbegan.edited w.editor
  have hshows : w.editor.Shows o ⟨[['a'], ['b']], [none, none], [[['1'], ['2']]]⟩ ⟨2, 1, 2⟩ :=
    ⟨by decide, _, rfl, by decide, by decide⟩
  obtain ⟨hcell, b, w', g', f', -, hrow, hshows', -, -, hiff⟩ :=
    moves_land_iff o (by unfold Margin.Simple; decide) hreachable rfl rfl hshows
  refine ⟨hreachable, hcell, w', g', f', hrow, hshows', hiff.mpr fun _ s hs => ?_⟩
  obtain rfl := Option.some.inj (Option.mem_filter_iff.mp hs).1
  decide

/-- A session begins in the second column, and then the header loses this column. The cursor is
still where the last move ended, so the session goes on, and the next row is left behind its last
cell, in the column that is no longer there. -/
theorem nextRow_leaves_header :
    let o : Options := { smartCursor := true }
    let w : Workspace := ⟨{
      lines := ["| a | b |".toList, "| --- | --- |".toList, "| 1 | 2 |".toList]
      cursor := ⟨0, 6⟩ }, none⟩
    ∃ w₁ e w', run o .nextRow w = .ok () w₁ ∧
      replaceLines 0 1 ["| a |".toList] w₁.editor = .ok () e ∧
      run o .nextRow ⟨e, w₁.session⟩ = .ok () w' ∧
      w'.editor.Shows o ⟨[['a']], [none, none], [[['1'], ['2']], [[]]]⟩ ⟨3, 1, 0⟩ := by
  intro o w
  let begun : Workspace := ⟨{
      lines := ["| a   | b   |".toList, "| --- | --- |".toList, "| 1   | 2   |".toList]
      cursor := ⟨2, 9⟩
      selection := some ⟨⟨2, 8⟩, ⟨2, 9⟩⟩
      transactions := 1
      log := [.replace 0 1 ["| a   | b   |".toList], .replace 2 3 ["| 1   | 2   |".toList]] },
      some ⟨⟨0, 0⟩, ⟨0, 1, 1⟩, ⟨2, 1, 1⟩⟩⟩
  let cut : Editor := { begun.editor with
      lines := ["| a |".toList, "| --- | --- |".toList, "| 1   | 2   |".toList]
      log := begun.editor.log ++ [.replace 0 1 ["| a |".toList]] }
  have hfirst : run o .nextRow w = .ok () begun := by decide +kernel
  have hsecond : run o .nextRow ⟨cut, begun.session⟩ = .ok () ⟨{
      lines := ["| a   |".toList, "| --- | --- |".toList, "| 1   | 2   |".toList,
        "|     |".toList]
      cursor := ⟨3, 7⟩
      transactions := 2
      log := cut.log ++ [.replace 0 1 ["| a   |".toList], .insert 3 "|     |".toList] },
      some ⟨⟨0, 0⟩, ⟨0, 1, 1⟩, ⟨3, 1, 0⟩⟩⟩ := by
    decide +kernel
  exact ⟨begun, cut, _, hfirst, rfl, hsecond, by decide, _, rfl, by decide, by decide⟩

end Workspace

end TextTable
