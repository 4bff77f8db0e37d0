import TextTable.Editor.Workspace
import TextTable.Proofs.Editor.Plans
import TextTable.Proofs.Editor.Replay
import TextTable.Proofs.Editor.Runs
import TextTable.Proofs.Table.Height

/-!
# Carrying out plans

A plan is carried out in two steps: the lines of the table are exchanged, and the cursor is put into
the written table or below it (`carryOut_cell`, `carryOut_below`). Whatever the plan is, the lines
above and below the table stay as they are, except that a document that ends with the table gets an
empty line for a cursor below it.

Where an edit ends is told by its lines and its cursor (`Placed`). A plan that is sound for its
table, or complete, is known to put the cursor at a place that the written table keeps
(`CompleteFor.keeps_spot`), and one that makes something, to reach what it was sent to
(`Makes.exists_reached`).
-/

namespace TextTable

namespace Editor

/-- The editor has these lines and its cursor on `p`; the rejected rows and the count of
transactions are the same. -/
structure Placed (e : Editor) (lines : List Text) (p : Position) (e' : Editor) : Prop where
  lines : e'.lines = lines
  cursor : e'.cursor = p
  rejected : e'.rejected = e.rejected
  transactions : e'.transactions = e.transactions

variable {e : Editor} {lines lines' : List Text} {p : Position}

/-- After lines were written, the cursor is put somewhere. -/
theorem Writes.place {x y : Edit Unit} (hx : Writes x e lines)
    (hy : ∀ e₁, e₁.lines = lines → e₁.cursor = e.cursor → Ends y e₁ (Placed e₁ lines' p)) :
    Ends (x >>= fun _ => y) e (Placed e lines' p) := by
  refine Ends.bind hx fun e₁ hwrite => (hy e₁ hwrite.lines_eq hwrite.cursor_eq).imp fun e₂ h => ?_
  exact ⟨h.lines, h.cursor, h.rejected.trans hwrite.rejected_eq,
    h.transactions.trans hwrite.transactions_eq⟩

/-! ## Putting the cursor somewhere -/

/-- Setting the cursor writes nothing. -/
theorem setCursor_ends (e : Editor) (p : Position) : Ends (setCursor p) e (Placed e e.lines p) :=
  .of_ite (setCursor_eq e p) rfl ⟨rfl, rfl, rfl, rfl⟩

theorem select_ends (e : Editor) (span : Span) :
    Ends (select span) e (Placed e e.lines span.stop) :=
  .of_ite (select_eq e span) rfl ⟨rfl, rfl, rfl, rfl⟩

/-- In a table, the cursor is put on its spot. -/
theorem land_ends (e : Editor) (top : Int) (t : Table) (f : Focus) (selected : Bool) :
    Ends (land top t f selected) e (Placed e e.lines (t.spot f top selected e.cursor)) := by
  rw [land, Table.spot]
  cases if selected then t.contentSpan? f top else none with
  | some span => exact select_ends e span
  | none =>
    cases t.positionOf? f top with
    | some p => exact setCursor_ends e p
    | none => exact Or.inl ⟨e, rfl, rfl, rfl, rfl, rfl, rfl⟩

/-- Below some lines, the cursor is put behind the margin of the next line, which is put in if there
is none. -/
theorem landBelow_ends (m : Margin) {front below : List Text} (he : e.lines = front ++ below) :
    Ends (landBelow m front.length) e
      (Placed e (front ++ below ++ if below = [] then [[]] else [])
        ⟨front.length, ((below.head?.map m.leading).getD 0 : Nat)⟩) := by
  have hget := get_ok e
  cases below with
  | nil =>
    rw [List.append_nil] at he ⊢
    have hlast : e.lastRow < front.length := by
      rw [lastRow, he]
      omega
    have hins : Signed.insert e.lines front.length [] = front ++ [[]] := by
      simp [he, Signed.insert]
    have hinsert : Writes (insertLine front.length []) e (front ++ [[]]) := by
      rw [← hins]
      exact .of_ite (insertLine_eq e _ _) (Rewritten.one e _ _)
    refine (hinsert.place fun e₁ hlines _ => ?_).of_eq
      (by rw [landBelow, bind_ok hget, if_pos hlast])
    have hset := setCursor_ends e₁ ⟨front.length, 0⟩
    rwa [hlines] at hset
  | cons line below =>
    have hlast : ¬ e.lastRow < front.length := by
      rw [lastRow, he, List.length_append, List.length_cons]
      omega
    have hline : e.line? front.length = some line := by
      simp [line?, he]
    have hset := setCursor_ends e ⟨front.length, m.leading line⟩
    rw [if_neg (List.cons_ne_nil _ _), List.append_nil, ← he]
    exact hset.of_eq (by rw [landBelow, bind_ok hget, if_neg hlast, hline])

end Editor

namespace Plan

/-! ## Where a plan sends the cursor -/

variable {o : Options} {m : Margin} {p : Plan} {t : Table} {g : Grid} {f target : Focus}

/-- A plan that sends the cursor below the table leaves the table as it is. -/
theorem CompleteFor.table_eq (hp : p.CompleteFor t)
    (hf : p.landing.focus? (p.written o) = none) : p.table = t := by
  obtain ⟨table, landing, memory⟩ := p
  cases landing with
  | cell target before moved selected => cases hf
  | below => exact hp.landing

/-- The written table has as many rows as the complete one, if the cursor goes below it. -/
theorem CompleteFor.height_written (hp : p.CompleteFor t)
    (hf : p.landing.focus? (p.written o) = none) : (p.written o).height = t.height := by
  simp [written, hp.table_eq hf]

/-- The written table keeps the place that the plan sends the cursor to. -/
theorem CompleteFor.keeps_spot (hp : p.CompleteFor t)
    (hf : p.landing.focus? (p.written o) = some f) (top : Int) (q : Position) :
    (p.written o).Keeps top ((p.written o).spot f top p.landing.selected q) := by
  obtain ⟨table, landing, memory⟩ := p
  cases landing with
  | below => cases hf
  | cell target before moved selected =>
    obtain rfl := Option.some.inj hf
    obtain ⟨hcomplete, hrow, hlt, hbefore⟩ := hp
    have hshape := hcomplete.sameShape_format (s := o.toStyle) o.minDelimiterWidth_pos
    rw [← hshape.height_eq] at hlt
    obtain ⟨q', hq', hkeeps⟩ := Table.keeps_landing top hcomplete.flush_format hrow hlt
      (hbefore.imp_right hshape.trans)
    exact Table.keeps_spot hq' hkeeps selected q

/-- In the written table, the cursor goes to the focus that it was sent to, at some offset. -/
theorem Makes.focus?_eq (hp : p.Makes m t g target) (o : Options) :
    ∃ x, p.landing.focus? (p.written o) = some (target.withOffset x) := by
  obtain ⟨-, -, htarget⟩ := hp
  obtain ⟨table, landing, memory⟩ := p
  cases landing with
  | below => cases htarget
  | cell target' before moved selected =>
    obtain rfl := Option.some.inj htarget
    exact ⟨_, rfl⟩

/-- In the written table, the cursor reaches the focus that it was sent to. -/
theorem Makes.exists_reached (hp : p.Makes m t g target)
    (hf : p.landing.focus? (p.written o) = some f) (top : Int) (q : Position) :
    ∃ f', (p.written o).focusAt? ((p.written o).spot f top p.landing.selected q) top = some f' ∧
      f'.Reaches g target := by
  have hs := o.minDelimiterWidth_pos
  obtain ⟨f', hf', -⟩ := hp.soundFor.completeFor.keeps_spot hf top q
  refine ⟨f', hf', ?_⟩
  obtain ⟨⟨hsound, hlanding⟩, hgrid, htarget⟩ := hp
  obtain ⟨table, landing, memory⟩ := p
  cases landing with
  | below => cases htarget
  | cell target' before moved selected =>
    obtain rfl := Option.some.inj htarget
    obtain rfl := Option.some.inj hf
    obtain ⟨hrow, hlt, hbefore⟩ := hlanding
    have hcomplete := hsound.complete.format (s := o.toStyle) hs
    have hshape := hsound.complete.sameShape_format (s := o.toStyle) hs
    have hbasis := hbefore.imp_right hshape.trans
    rw [← hshape.height_eq] at hlt
    rw [← hgrid, ← hsound.complete.grid_format hs]
    constructor
    · have hspot := Table.spot_row top
        (Table.offsetAfter target' before (table.format o.toStyle) moved) hrow hlt selected q
      have hfound := (Table.focusAt?_row hf').1
      exact hfound.trans ((congrArg (· - top) hspot).trans (Int.add_sub_cancel _ _))
    · intro hcolumn hin
      exact Table.column_spot hbasis hf' (hcomplete.focusedCell?_isSome hrow hlt hcolumn hin)
    · exact hcomplete.behind_spot hbasis hf' hrow hlt

end Plan

namespace Editor

variable {e : Editor}

/-! ## Carrying out a plan -/

section CarryOut

variable (o : Options) (plan : Plan) {b : Block} {above below : List Text}

/-- The table is written between the lines that were around it, and the cursor is put into it. -/
theorem carryOut_cell {f : Focus} (hf : plan.landing.focus? (plan.written o) = some f)
    (hfirst : b.first = above.length) (he : e.lines = above ++ b.lines ++ below) :
    Ends (plan.carryOut o b) e (Placed e (above ++ (plan.written o).lines ++ below)
      ((plan.written o).spot f above.length plan.landing.selected e.cursor)) := by
  simp only [Plan.carryOut, hf, hfirst]
  refine (exchange_writes he _).place fun e₁ hlines hcursor => ?_
  have hland := land_ends e₁ above.length (plan.written o) f plan.landing.selected
  rwa [hlines, hcursor] at hland

/-- The table is written between the lines that were around it, and the cursor is put below it. -/
theorem carryOut_below (hf : plan.landing.focus? (plan.written o) = none)
    (hheight : (plan.written o).height = b.lines.length + if b.table.lacksDelimiter then 1 else 0)
    (hfirst : b.first = above.length) (he : e.lines = above ++ b.lines ++ below) :
    Ends (plan.carryOut o b) e
      (Placed e (above ++ (plan.written o).lines ++ below ++ if below = [] then [[]] else [])
        ⟨(above.length + (plan.written o).height : Nat),
          ((below.head?.map o.margin.leading).getD 0 : Nat)⟩) := by
  have hlen : (above ++ (plan.written o).lines).length =
      above.length + (plan.written o).height := by
    simp
  have hnext : (if b.table.lacksDelimiter then b.next + 1 else b.next) =
      ((above ++ (plan.written o).lines).length : Nat) := by
    rw [hlen, hheight, Block.next, hfirst]
    split <;> omega
  simp only [Plan.carryOut, hf, hfirst, hnext]
  refine (exchange_writes he _).place fun e₁ hlines _ => ?_
  rw [← hlen]
  exact landBelow_ends o.margin hlines

end CarryOut

/-! ## The table under the cursor -/

namespace Around

variable {o : Options} {e : Editor} {above block below : List Text}

/-- Around the cursor there is at least its own line. -/
theorem ne_nil {m : Margin} (h : e.Around m above block below) : block ≠ [] := by
  have hlow := h.low
  have hhigh := h.high
  exact List.length_pos_iff.mp (by omega)

/-- The table under the cursor is sound once it is complete, and the focus is on one of its rows. -/
theorem exists_focus (hm : o.margin.Simple) (h : e.Around o.margin above block below) :
    ∃ f, e.block? o.margin =
        .ok (some ⟨above.length, block, Table.ofLines o.margin block, f⟩) ∧
      (Table.ofLines o.margin block).focusAt? e.cursor above.length = some f ∧
      ((Table.ofLines o.margin block).complete o.toStyle).Sound o.margin ∧
      0 ≤ (f.completed (Table.ofLines o.margin block)).row ∧
      (f.completed (Table.ofLines o.margin block)).row <
        ((Table.ofLines o.margin block).complete o.toStyle).height := by
  obtain ⟨f, hf, hblock⟩ := h.block?_eq
  have hsound := Table.sound_complete_block o.minDelimiterWidth_pos hm h.isTableLine h.ne_nil
  obtain ⟨-, hrow, hlt⟩ := Table.focusAt?_row hf
  rw [Table.height_ofLines] at hlt
  have hwithin := Table.completed_within f (Table.ofLines o.margin block) hrow hlt
  rw [← Table.height_complete_ofLines o.toStyle _ h.ne_nil] at hwithin
  exact ⟨f, hblock, hf, hsound, hwithin⟩

end Around

end Editor

namespace Workspace

/-! ## Running commands -/

/-- Where there is a table and a plan for it that can be carried out, the command succeeds, and the
session is what the plan makes of it. -/
theorem run_of_carryOut {o : Options} {c : Command} {w : Workspace} {b : Block} {p : Plan}
    {e' : Editor} (hblock : w.editor.block? o.margin = .ok (some b))
    (hplan : c.plan o (if c.checksSession then Session.check w.session b.start b.focus
      else w.session) (b.table.complete o.toStyle) (b.focus.completed b.table) = .ok p)
    (hcarry : p.carryOut o b { w.editor with transactions := w.editor.transactions + 1 } =
      .ok () e') :
    run o c w = .ok () ⟨e', p.remember o b (b.focus.completed b.table)
      (if c.checksSession then Session.check w.session b.start b.focus else w.session)⟩ := by
  rw [run, hblock]
  simp only [runOn, hplan, Editor.transact_eq_ok.mpr hcarry]

end Workspace

end TextTable
