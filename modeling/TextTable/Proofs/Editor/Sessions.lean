import TextTable.Proofs.Editor.FormatAll
import TextTable.Proofs.Editor.Frame
import TextTable.Proofs.Editor.Inside
import TextTable.Proofs.Editor.Shows

/-!
# Sessions

With a smart cursor, moves to the next cell and to the next row make a session (`InSession`). It
goes on as long as the cursor, found again on the screen, is in the cell that the last move is
remembered to have ended in; and it always is (`Focus.Reaches.sameCell`). So a move to the next row
returns to the column where the first move began, however many cells, rows and columns were passed
or put in on the way: `InSession.exists_next` is about one move, and `InSession.exists_moves` about
a list of them. Every request that is no move ends the session (`request_ends`).
-/

namespace TextTable

namespace Session

/-- A session in the table that begins at `tableStart`, begun in a column, with its last move ended
in the cell of a focus. -/
structure Tracks (s : Session) (tableStart : Position) (column : Int) (f : Focus) : Prop where
  tableStart : s.tableStart = tableStart
  start : s.start.column = column
  last : f.sameCell s.last = true

/-- A session that is in place, or that a move from the focus would begin in the column. -/
def Ready (s : Option Session) (tableStart : Position) (column : Int) (f : Focus) : Prop :=
  (s = none ∧ f.column = column) ∨ ∃ s', s = some s' ∧ s'.Tracks tableStart column f

variable {s : Option Session} {tableStart : Position} {column : Int} {f : Focus}

/-- A session that is in place passes its check. -/
theorem Ready.check_eq (h : Ready s tableStart column f) : check s tableStart f = s := by
  rcases h with ⟨rfl, -⟩ | ⟨s', rfl, htracks⟩
  · rfl
  · rw [check, Option.filter_some, if_pos]
    rw [htracks.tableStart, htracks.last]
    simp

/-- Moves to the next row return to the column. -/
theorem Ready.returnColumn_eq {o : Options} (hsmart : o.smartCursor = true) {g : Grid}
    (h : Ready s tableStart column f) (hpos : 0 ≤ f.column) (hin : f.column < g.header.length) :
    Command.returnColumn o s g f = column := by
  rw [Command.returnColumn, if_pos hsmart]
  rcases h with ⟨rfl, hcolumn⟩ | ⟨s', rfl, htracks⟩
  · rw [if_pos ⟨hpos, hin⟩]
    exact hcolumn
  · exact htracks.start

/-- A move that is recorded leaves a session in place. -/
theorem Ready.exists_record (h : Ready s tableStart column f) {width : Nat} (hpos : 0 ≤ f.column)
    (hin : f.column < width) {f' last : Focus} (hlast : f'.sameCell last = true) :
    ∃ s', record s tableStart f last width = some s' ∧ s'.Tracks tableStart column f' := by
  rcases h with ⟨rfl, hcolumn⟩ | ⟨s', rfl, htracks⟩
  · have hhome : homeOf f width = f := by
      rw [homeOf_eq, if_pos ⟨hpos, hin⟩]
    rw [record, hhome]
    exact ⟨_, rfl, rfl, hcolumn, hlast⟩
  · exact ⟨_, rfl, htracks.tableStart, htracks.start, hlast⟩

end Session

/-- A focus that is reached is in the cell of the target. -/
theorem Focus.Reaches.sameCell {f target : Focus} {g : Grid} (h : f.Reaches g target)
    (hpos : 0 ≤ target.column) (hin : target.column < g.header.length) :
    f.sameCell target = true := by
  rw [Focus.sameCell, h.row, h.column hpos hin]
  simp

namespace Command

variable {o : Options} {t : Table} {f : Focus}

/-- The number of columns that a header of `n` columns has after a move from the focus: in a row of
the body, the cell next to the last column is in a new one. -/
def widthAfter (c : Command) (f : Focus) (n : Nat) : Nat :=
  if c = .nextCell ∧ 2 ≤ f.row ∧ (n : Int) ≤ f.column + 1 then n + 1 else n

/-- No move takes out a column of the header. -/
theorem le_widthAfter (c : Command) (f : Focus) (n : Nat) : n ≤ widthAfter c f n := by
  rw [widthAfter]
  split
  · exact Nat.le_succ n
  · exact Nat.le_refl n

/-- Wherever the cursor is, a move to the next cell leads to a row of text and to a column of the
header. -/
theorem makes_nextCell (ht : t.Sound o.margin) (hrow : 0 ≤ f.row) (hlt : f.row < t.height)
    (hleft : -1 ≤ f.column) :
    ∃ p g target, planNextCell o t f = .ok p ∧ p.Makes o.margin t g target ∧
      g.header.length = widthAfter .nextCell f t.grid.header.length ∧ target.row ≠ 1 ∧
      0 ≤ target.column ∧ target.column < g.header.length := by
  have hpos := ht.complete.full.header_pos
  by_cases hdown : f.row = 1 ∨ (f.row = 0 ∧ (t.grid.header.length : Int) - 1 ≤ f.column)
  · obtain ⟨p, hplan, hmakes⟩ := makes_nextCell_down ht hdown
    refine ⟨p, _, _, hplan, hmakes, ?_, (by decide : (2 : Int) ≠ 1), ?_, ?_⟩
    · rw [Grid.header_growTo, widthAfter, if_neg (by omega)]
    · dsimp only
      split <;> omega
    · rw [Grid.header_growTo]
      dsimp only
      split <;> omega
  · obtain ⟨p, hplan, hmakes⟩ := makes_nextCell_along ht hrow hlt hdown
    have hlen := Grid.length_header_insertColumn (g := t.grid) (Nat.le_refl t.grid.header.length)
    refine ⟨p, _, _, hplan, hmakes, ?_, fun h => hdown (Or.inl h), ?_, ?_⟩
    · rw [widthAfter]
      split
      · rw [if_pos ⟨rfl, by omega, by assumption⟩, hlen]
      · rw [if_neg (by tauto)]
    · dsimp only [Focus.withColumn]
      omega
    · dsimp only [Focus.withColumn]
      split <;> omega

/-- What the moves of a session plan: the cursor goes to a column of the header, and a move to the
next row leads to the column that is returned to. -/
theorem makes_sessionMove {c : Command} (hc : c.checksSession = true) (ht : t.Sound o.margin)
    (hrow : 0 ≤ f.row) (hlt : f.row < t.height) (hleft : -1 ≤ f.column) (s : Option Session)
    (hreturn : 0 ≤ returnColumn o s t.grid f)
    (hreturn' : returnColumn o s t.grid f < t.grid.header.length) :
    ∃ p g target, c.plan o s t f = .ok p ∧ p.Makes o.margin t g target ∧
      g.header.length = widthAfter c f t.grid.header.length ∧
      0 ≤ target.column ∧ target.column < g.header.length ∧
      (c = .nextRow → target.row = max (f.row + 1) 2 ∧
        target.column = returnColumn o s t.grid f) := by
  cases c with
  | nextCell =>
    obtain ⟨p, g, target, hplan, hmakes, hlen, -, htarget, htarget'⟩ :=
      makes_nextCell ht hrow hlt hleft
    exact ⟨p, g, target, hplan, hmakes, hlen, htarget, htarget', nofun⟩
  | nextRow =>
    refine ⟨_, _, _, rfl, makes_nextRow ht hrow hlt s, ?_, hreturn, ?_, fun _ => ⟨?_, rfl⟩⟩
    · rw [Grid.header_growTo, widthAfter, if_neg (by simp)]
    · rwa [Grid.header_growTo]
    · dsimp only
      split <;> omega
  | _ => cases hc

end Command

/-- A plan whose move is recorded remembers the record, for the header that it makes. -/
theorem Plan.Makes.remember_eq {m : Margin} {t : Table} {g : Grid} {target : Focus}
    {p : Plan} (hp : p.Makes m t g target) (hmemory : p.memory = .record) (o : Options) (b : Block)
    (s : Option Session) (f : Focus) :
    ∃ x, p.remember o b f s =
      Session.record s b.start f (target.withOffset x) g.header.length := by
  obtain ⟨x, hlast⟩ := hp.focus?_eq o
  have hwidth : (p.written o).headerWidth = g.header.length := by
    simp [Plan.written, hp.soundFor.sound.complete.grid_format o.minDelimiterWidth_pos, hp.grid]
  refine ⟨x, ?_⟩
  rw [Plan.remember, hmemory, hlast, ← hwidth]

/-- The request ends the session, and an alignment that it names exists. -/
def Request.Ends : Request → Prop
  | .command c => c.endsSession = true
  | .alignNamed name => (Alignment.ofName? name).isSome = true
  | .formatAll => True

namespace Workspace

open Editor

variable {o : Options} {w : Workspace} {g : Grid} {f : Focus} {c : Command}

/-! ## Moves -/

/-- The session `s` is in place, with the cursor in a column of the header of the table in a run,
and moves to the next row return to a column of the header. -/
structure InSession (o : Options) (column : Int) (w : Workspace) (above block below : List Text)
    (g : Grid) (f : Focus) (s : Session) : Prop where
  opened : w.editor.Open
  shown : w.editor.ShownBy o above block below f g f
  focused : 0 ≤ f.column ∧ f.column < g.header.length
  returns : 0 ≤ column ∧ column < g.header.length
  session : w.session = some s
  tracks : s.Tracks ⟨above.length, 0⟩ column f

/-- A move leaves a session in place if its record would return to a column of the header. A move to
the next row leads to the column that the session before it returns to. -/
theorem exists_recorded (hm : o.margin.Simple) (hsmart : o.smartCursor = true)
    (h : w.editor.Open) {above block below : List Text} {f₀ : Focus}
    (hshown : w.editor.ShownBy o above block below f₀ g f)
    (hcheck : Session.check w.session ⟨above.length, 0⟩ f₀ = w.session)
    (hc : c.checksSession = true) (hreturn : 0 ≤ Command.returnColumn o w.session g f)
    (hreturn' : Command.returnColumn o w.session g f < g.header.length) {column : Int}
    (hcolumn : 0 ≤ column ∧ column < c.widthAfter f g.header.length)
    (hrecord : ∀ {f' last : Focus}, f'.sameCell last = true → ∃ s,
      Session.record w.session ⟨above.length, 0⟩ f last (c.widthAfter f g.header.length) = some s ∧
        s.Tracks ⟨above.length, 0⟩ column f') :
    ∃ w' block' g' f' s, run o c w = .ok () w' ∧
      InSession o column w' above block' below g' f' s ∧
      (c = .nextRow → f'.row = max (f.row + 1) 2 ∧
        f'.column = Command.returnColumn o w.session g f) := by
  obtain ⟨hrow, hlt⟩ := hshown.within
  rw [← hshown.grid] at hreturn hreturn' hcolumn hrecord ⊢
  obtain ⟨p, g', target, hplan, hmakes, hlen, htarget, htarget', hnext⟩ :=
    Command.makes_sessionMove hc hshown.sound hrow hlt hshown.left w.session hreturn hreturn'
  have hsession : (if c.checksSession then Session.check w.session ⟨above.length, 0⟩ f₀
      else w.session) = w.session := by
    rw [if_pos hc, hcheck]
  obtain ⟨e', f', hrun, hopen, hshown', hreaches⟩ :=
    run_shownBy hm h hshown (by rw [hsession]; exact hplan) hmakes
  rw [hsession] at hrun
  have hmemory : p.memory = .record := by
    rw [(Command.plan_of hplan).records hc, Command.recordIf, if_pos hsmart]
  obtain ⟨x, hremember⟩ := hmakes.remember_eq hmemory o
    ⟨above.length, block, Table.ofLines o.margin block, f₀⟩ w.session f
  have hended : f'.sameCell (target.withOffset x) = true := hreaches.sameCell htarget htarget'
  rw [← hlen] at hcolumn hrecord
  obtain ⟨s, hs, htracks⟩ := hrecord hended
  have hcolumn' := hreaches.column htarget htarget'
  refine ⟨_, _, g', f', s, hrun, ⟨hopen, hshown', ?_, hcolumn, hremember.trans hs, htracks⟩,
    fun hrow' => ?_⟩
  · rw [hcolumn']
    exact ⟨htarget, htarget'⟩
  · obtain ⟨hnextRow, hnextColumn⟩ := hnext hrow'
    exact ⟨hreaches.row.trans hnextRow, hcolumn'.trans hnextColumn⟩

/-- A move of a session that is in place, or of none, leaves a session in place. A move to the next
row leads to the column that the session returns to. -/
theorem exists_inSession (hm : o.margin.Simple) (hsmart : o.smartCursor = true)
    (h : w.editor.Open) {above block below : List Text} {f₀ : Focus}
    (hshown : w.editor.ShownBy o above block below f₀ g f) {column : Int}
    (hf : 0 ≤ f.column ∧ f.column < g.header.length)
    (hcolumn : 0 ≤ column ∧ column < g.header.length)
    (hready : Session.Ready w.session ⟨above.length, 0⟩ column f)
    (hcheck : Session.check w.session ⟨above.length, 0⟩ f₀ = w.session)
    (hc : c.checksSession = true) :
    ∃ w' block' g' f' s, run o c w = .ok () w' ∧
      InSession o column w' above block' below g' f' s ∧
      (c = .nextRow → f'.row = max (f.row + 1) 2 ∧ f'.column = column) := by
  have hwide := Int.ofNat_le.mpr (c.le_widthAfter f g.header.length)
  have hreturn := hready.returnColumn_eq hsmart hf.1 hf.2
  have hrecorded := exists_recorded hm hsmart h hshown hcheck hc
    (by rw [hreturn]; exact hcolumn.1) (by rw [hreturn]; exact hcolumn.2)
    ⟨hcolumn.1, Int.lt_of_lt_of_le hcolumn.2 hwide⟩
    (hready.exists_record hf.1 (Int.lt_of_lt_of_le hf.2 hwide))
  rwa [hreturn] at hrecorded

/-- A session that is in place stays there. -/
theorem InSession.exists_next (hm : o.margin.Simple) (hsmart : o.smartCursor = true)
    {above block below : List Text} {column : Int} {s : Session}
    (h : InSession o column w above block below g f s) (hc : c.checksSession = true) :
    ∃ w' block' g' f' s', run o c w = .ok () w' ∧
      InSession o column w' above block' below g' f' s' ∧
      (c = .nextRow → f'.row = max (f.row + 1) 2 ∧ f'.column = column) := by
  have hready : Session.Ready w.session ⟨above.length, 0⟩ column f :=
    Or.inr ⟨s, h.session, h.tracks⟩
  exact exists_inSession hm hsmart h.opened h.shown h.focused h.returns hready hready.check_eq hc

/-! ## Requests that end the session -/

/-- The layout of all tables forgets the session: its transaction succeeds or fails as a whole, and
the session is ended behind it. -/
theorem formatAll_session {w' : Workspace} (h : formatAll o w = .ok () w') : w'.session = none := by
  simp only [formatAll] at h
  split at h
  · cases h
  · obtain ⟨-, rfl⟩ := EStateM.Result.ok.inj h
    rfl

/-- Whatever the session is, a request about the table under the cursor, or all tables, that is no
move succeeds and ends it. -/
theorem request_ends (hm : o.margin.Simple) (h : w.editor.Open) (hshows : w.editor.Shows o g f)
    {r : Request} (hr : r.Ends) : ∃ w', r.run o w = .ok () w' ∧ w'.session = none := by
  obtain ⟨above, block, below, harea⟩ := hshows.exists_around
  obtain ⟨f₀, -, hblock⟩ := harea.block?_eq
  have hcommand : ∀ c : Command, c.endsSession = true →
      ∃ w', run o c w = .ok () w' ∧ w'.session = none := by
    intro c hc
    obtain ⟨w', hrun, -⟩ := run_around hm h.permits harea c
    refine ⟨w', hrun, ?_⟩
    rw [run, hblock] at hrun
    obtain ⟨p, hplan, -, hsession⟩ := runOn_ok hrun
    rw [hsession, Plan.remember, (Command.plan_of hplan).forgets hc]
  cases r with
  | command c => exact hcommand c hr
  | alignNamed name =>
    obtain ⟨a, hrun⟩ := exists_alignColumn o hr
    rw [hrun]
    exact hcommand _ rfl
  | formatAll =>
    have hlow : 0 ≤ w.editor.cursor.row := Int.le_trans (Int.natCast_nonneg _) harea.low
    have hhigh : w.editor.cursor.row < w.editor.lines.length := by
      have := harea.high
      rw [harea.lines, List.length_append, List.length_append]
      omega
    obtain ⟨w', hrun, -⟩ := formatAll_relaid hm h hlow hhigh
    exact ⟨w', hrun, formatAll_session hrun⟩

/-! ## Sequences of moves -/

/-- However many moves follow each other, a session that is in place stays there. -/
theorem InSession.exists_moves (hm : o.margin.Simple) (hsmart : o.smartCursor = true)
    {above block below : List Text} {column : Int} {s : Session}
    (h : InSession o column w above block below g f s) {cs : List Command}
    (hcs : ∀ c ∈ cs, c.checksSession = true) :
    ∃ w', (cs.forM fun c => run o c) w = .ok () w' ∧
      ∃ block' g' f' s', InSession o column w' above block' below g' f' s' := by
  refine forM_ok (g := fun (_ : Unit) _ => ()) (b := ())
    (R := fun _ w' => ∃ block' g' f' s', InSession o column w' above block' below g' f' s')
    (fun c hc _ w₁ h₁ => ?_) ⟨block, g, f, s, h⟩
  obtain ⟨block₁, g₁, f₁, s₁, h₁⟩ := h₁
  obtain ⟨w', block', g', f', s', hrun, h', -⟩ := h₁.exists_next hm hsmart (hcs c hc)
  exact ⟨w', hrun, block', g', f', s', h'⟩

/-- In an editor that accepts every row and refuses nothing, with a smart cursor but no session, and
with the cursor in a column of the header of a table, any number of moves to the next cell and the
next row succeed, one after the other, and after any number of them a move to the next row leads to
the column where the cursor was in the first place, in the next row below the delimiter row. After
the first move there is always a session. It began in this column, in the table under the cursor,
and remembers the cell under the cursor. A request that is no move ends it. -/
theorem session_returns (o : Options) (hm : o.margin.Simple) (hsmart : o.smartCursor = true)
    (w : Workspace) (haccepts : w.editor.rejected = []) (hpermits : w.editor.refused = none)
    (hnone : w.session = none) {g : Grid} {f : Focus} (hshows : w.editor.Shows o g f)
    (hpos : 0 ≤ f.column) (hin : f.column < g.header.length) (cs : List Command)
    (hcs : ∀ c ∈ cs, c = .nextCell ∨ c = .nextRow) :
    ∃ w' g' f', (cs.forM fun c => run o c) w = .ok () w' ∧ w'.editor.Shows o g' f' ∧
      (∃ w'' g'' f'', run o .nextRow w' = .ok () w'' ∧ w''.editor.Shows o g'' f'' ∧
        f''.row = max (f'.row + 1) 2 ∧ f''.column = f.column) ∧
      (cs ≠ [] →
        (∃ b s, w'.editor.block? o.margin = .ok (some b) ∧ w'.session = some s ∧
          s.tableStart = b.start ∧ s.start.column = f.column ∧
          s.last.row = f'.row ∧ s.last.column = f'.column) ∧
        ∀ r : Request, r.Ends → ∃ w'', r.run o w' = .ok () w'' ∧ w''.session = none) := by
  have hopen : w.editor.Open := ⟨haccepts, hpermits⟩
  obtain ⟨above, block, below, f₀, hshown⟩ := hshows.exists_shownBy hm hopen
  have hready : Session.Ready w.session ⟨above.length, 0⟩ f.column f := Or.inl ⟨hnone, rfl⟩
  have hcheck : Session.check w.session ⟨above.length, 0⟩ f₀ = w.session := by
    rw [hnone]
    rfl
  have hfirst : ∀ c : Command, c.checksSession = true → ∃ w' block' g' f' s, run o c w = .ok () w' ∧
      InSession o f.column w' above block' below g' f' s ∧
      (c = .nextRow → f'.row = max (f.row + 1) 2 ∧ f'.column = f.column) := fun c hc =>
    exists_inSession hm hsmart hopen hshown ⟨hpos, hin⟩ ⟨hpos, hin⟩ hready hcheck hc
  have hmoves : ∀ c ∈ cs, c.checksSession = true := by
    intro c hc
    rcases hcs c hc with rfl | rfl <;> rfl
  cases cs with
  | nil =>
    obtain ⟨w', block', g', f', s, hrun, h', hnext⟩ := hfirst .nextRow rfl
    obtain ⟨hrow, hcolumn⟩ := hnext rfl
    exact ⟨w, g, f, rfl, hshows, ⟨w', g', f', hrun, h'.shown.shows, hrow, hcolumn⟩,
      fun h => absurd rfl h⟩
  | cons c cs =>
    obtain ⟨hc, hrest⟩ := List.forall_mem_cons.mp hmoves
    obtain ⟨w₁, block₁, g₁, f₁, s₁, hrun₁, h₁, -⟩ := hfirst c hc
    obtain ⟨w', hruns, block', g', f', s, h'⟩ := h₁.exists_moves hm hsmart hrest
    obtain ⟨w'', block'', g'', f'', s'', hrun'', h'', hnext⟩ :=
      h'.exists_next hm hsmart (c := .nextRow) rfl
    obtain ⟨hrow, hcolumn⟩ := hnext rfl
    have hlast := h'.tracks.last
    rw [Focus.sameCell, Bool.and_eq_true, decide_eq_true_iff, decide_eq_true_iff] at hlast
    refine ⟨w', g', f', (bind_ok hrun₁).trans hruns, h'.shown.shows,
      ⟨w'', g'', f'', hrun'', h''.shown.shows, hrow, hcolumn⟩, fun _ => ⟨?_, fun r hr => ?_⟩⟩
    · exact ⟨_, s, h'.shown.found, h'.session, h'.tracks.tableStart, h'.tracks.start,
        hlast.1.symm, hlast.2.symm⟩
    · exact request_ends hm h'.opened h'.shown.shows hr

/-- From behind the only cell of a short row, the cursor goes on to the last column and to a new
one, and returns to the second column of a new row; to align that column ends the session. -/
theorem session_returns_short :
    let o : Options := { smartCursor := true }
    let w : Workspace := ⟨{ lines := ["|a|b|c".toList, "|d".toList], cursor := ⟨1, 3⟩ }, none⟩
    w.editor.Shows o ⟨[['a'], ['b'], ['c']], [none, none, none], [[['d'], [], []]]⟩ ⟨2, 1, 0⟩ ∧
      ∃ w' g' f', ([.nextCell, .nextCell, .nextRow].forM fun c => run o c) w = .ok () w' ∧
        w'.editor.Shows o g' f' ∧
        (∃ w'' g'' f'', run o .nextRow w' = .ok () w'' ∧ w''.editor.Shows o g'' f'' ∧
          f''.row = max (f'.row + 1) 2 ∧ f''.column = 1) ∧
        (∃ s, w'.session = some s ∧ s.start.column = 1) ∧
        ∃ w'', (Request.command (.alignColumn none)).run o w' = .ok () w'' ∧
          w''.session = none := by
  intro o w
  have hshows : w.editor.Shows o ⟨[['a'], ['b'], ['c']], [none, none, none], [[['d'], [], []]]⟩
      ⟨2, 1, 0⟩ := ⟨by decide, _, rfl, by decide, by decide⟩
  obtain ⟨w', g', f', hruns, hshows', hnext, hafter⟩ :=
    session_returns o (by unfold Margin.Simple; decide) rfl w rfl rfl rfl hshows (by decide)
      (by decide) [.nextCell, .nextCell, .nextRow] (by decide)
  obtain ⟨⟨b, s, -, hs, -, hstart, -⟩, hends⟩ := hafter (by decide)
  exact ⟨hshows, w', g', f', hruns, hshows', hnext, ⟨s, hs, hstart⟩, hends _ rfl⟩

end Workspace

end TextTable
