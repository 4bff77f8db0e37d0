import TextTable.Proofs.Editor.FormatAll
import TextTable.Proofs.Editor.Frame
import TextTable.Proofs.Editor.Inside
import TextTable.Proofs.Editor.Shows
import TextTable.Proofs.Table.Places

/-!
# Selections

What a request selects is the content of a cell, or nothing (`SelectsContent`). The ends of a
selection are added up from the cells of the written table, while the document is what the exchange
of the lines has left; that both agree is what makes a selection the text that stands there
(`selectsContent_of_contentSpan?`). Whatever was selected before is not selected any more, because
each way through a request ends with the cursor being put somewhere or a content being selected
(`selection_land`, `selection_landBelow`, `selection_sweep`).
-/

namespace TextTable

/-- The written table has a row for the focus that a plan sends the cursor to. -/
theorem Plan.CompleteFor.focus?_within {o : Options} {p : Plan} {t : Table} {f : Focus}
    (hp : p.CompleteFor t) (hf : p.landing.focus? (p.written o) = some f) :
    0 ≤ f.row ∧ f.row < (p.written o).height := by
  rw [written, Table.height_format]
  obtain ⟨table, landing, memory⟩ := p
  cases landing with
  | below => cases hf
  | cell target before moved selected =>
    obtain rfl := Option.some.inj hf
    obtain ⟨-, hrow, hlt, -⟩ := hp
    exact ⟨hrow, hlt⟩

namespace Editor

/-- The document has the table between these lines. The content of one of its cells is selected and
is not empty, and the cursor is at the end of it. -/
structure SelectsContent (e : Editor) (above : List Text) (t : Table) (below : List Text) :
    Prop where
  lines : e.lines = above ++ t.lines ++ below
  selected : ∃ (i j : Nat) (r : Row) (c : Cell) (line : Text) (start stop : Nat),
    t.rows[i]? = some r ∧ r.cells[j]? = some c ∧ c.content ≠ [] ∧
      e.selection = some ⟨⟨(above.length + i : Nat), start⟩, ⟨(above.length + i : Nat), stop⟩⟩ ∧
      e.cursor = ⟨(above.length + i : Nat), stop⟩ ∧
      e.lines[above.length + i]? = some line ∧ (line.take stop).drop start = c.content

variable {o : Options} {e e' : Editor} {above below : List Text} {t : Table} {f : Focus}

/-- In a document that has the table, the span of a content is the content. -/
theorem selectsContent_of_contentSpan? {span : Span} (hlines : e.lines = above ++ t.lines ++ below)
    (hspan : t.contentSpan? f above.length = some span) (hselection : e.selection = some span)
    (hcursor : e.cursor = span.stop) : e.SelectsContent above t below := by
  obtain ⟨i, j, r, c, hr, hc, hne, -, -, rfl⟩ := Table.exists_of_contentSpan? hspan
  have hline : t.lines[i]? = some r.text := by
    rw [Table.lines, List.getElem?_map, hr]
    rfl
  have hrow : (i : Int) + above.length = (above.length + i : Nat) := by omega
  rw [hrow] at hselection hcursor
  refine ⟨hlines, i, j, r, c, r.text, _, _, hr, hc, hne, hselection, hcursor, ?_,
    Row.cut_content hc⟩
  rw [getElem?_block hlines (List.getElem?_eq_some_iff.mp hline).1, hline]

/-! ## What edits leave selected -/

/-- Where the cursor is put somewhere, nothing is selected. -/
theorem selection_setCursor {p : Position} (h : setCursor p e = .ok () e') :
    e'.selection = none := by
  rw [setCursor_eq] at h
  rw [eq_of_ite_ok h]

/-- In a table that has the row of the focus, nothing is selected but a content. -/
theorem selection_land {top : Int} {selected : Bool} (hrow : 0 ≤ f.row) (hlt : f.row < t.height)
    (h : land top t f selected e = .ok () e') :
    e'.selection = none ∨
      ∃ span, t.contentSpan? f top = some span ∧ e'.selection = some span ∧
        e'.cursor = span.stop := by
  rw [land] at h
  cases hspan : if selected then t.contentSpan? f top else none with
  | some span =>
    rw [hspan] at h
    rw [Option.ite_none_right_eq_some] at hspan
    dsimp only at h
    rw [select_eq] at h
    rw [eq_of_ite_ok h]
    exact Or.inr ⟨span, hspan.2, rfl, rfl⟩
  | none =>
    -- the cursor is put somewhere, or else an earlier selection would stay
    obtain ⟨p, hp⟩ := Table.exists_positionOf? hrow hlt top
    rw [hspan, hp] at h
    exact Or.inl (selection_setCursor h)

/-- Below a table, nothing is selected. -/
theorem selection_landBelow {m : Margin} {row : Int} (h : landBelow m row e = .ok () e') :
    e'.selection = none := by
  rw [landBelow, bind_ok (get_ok e)] at h
  by_cases hend : e.lastRow < row
  · rw [if_pos hend] at h
    obtain ⟨-, e₁, -, hset⟩ := bind_eq_ok.mp h
    exact selection_setCursor hset
  · rw [if_neg hend] at h
    cases hline : e.line? row with
    | some line =>
      rw [hline] at h
      exact selection_setCursor h
    | none =>
      rw [hline] at h
      cases h

/-- After all tables were laid out, nothing is selected. -/
theorem selection_sweep (h : sweep o e = .ok () e') : e'.selection = none := by
  rw [sweep, bind_ok (get_ok e)] at h
  obtain ⟨p, e₁, -, hset⟩ := bind_eq_ok.mp h
  exact selection_setCursor hset

/-- A plan that keeps the table complete selects nothing, or a content of the written table. -/
theorem selection_carryOut {b : Block} {p : Plan} (hp : p.CompleteFor t)
    (hfirst : b.first = above.length) (he : e.lines = above ++ b.lines ++ below)
    (h : p.carryOut o b e = .ok () e') :
    e'.selection = none ∨ e'.SelectsContent above (p.written o) below := by
  obtain ⟨-, e₁, -, hland⟩ := bind_eq_ok.mp h
  cases hf : p.landing.focus? (p.written o) with
  | none =>
    rw [hf] at hland
    exact Or.inl (selection_landBelow hland)
  | some f =>
    obtain ⟨hrow, hlt⟩ := hp.focus?_within hf
    have hlines := (Ends.of_ok h (carryOut_cell o p hf hfirst he)).lines
    rw [hf, hfirst] at hland
    exact (selection_land hrow hlt hland).imp_right fun ⟨span, hspan, hselection, hcursor⟩ =>
      selectsContent_of_contentSpan? hlines hspan hselection hcursor

end Editor

namespace Workspace

open Editor

variable {o : Options} {w : Workspace}

/-! ## Requests -/

/-- A command on a table succeeds, and selects nothing or a content of the table that its plan
writes. -/
theorem run_selection (hm : o.margin.Simple) (hr : w.editor.refused = none)
    {above block below : List Text} (harea : w.editor.Around o.margin above block below) {b : Block}
    (hb : w.editor.block? o.margin = .ok (some b)) (c : Command) :
    ∃ w', run o c w = .ok () w' ∧
      (w'.editor.selection = none ∨ ∃ p, b.first = above.length ∧ b.lines = block ∧
        c.plan o (sessionFor c b w.session) (b.table.complete o.toStyle)
          (b.focus.completed b.table) = .ok p ∧
        w'.editor.SelectsContent above (p.written o) below) := by
  obtain ⟨w', hrun, -⟩ := run_around hm hr harea c
  refine ⟨w', hrun, ?_⟩
  obtain ⟨f, hblock, -, hsound, hrow, hlt⟩ := harea.exists_focus hm
  obtain rfl := Option.some.inj (Except.ok.inj (hblock.symm.trans hb))
  rw [run, hblock] at hrun
  obtain ⟨p, hplan, hcarry, -⟩ := runOn_ok hrun
  obtain ⟨p', hplan', hp⟩ := Command.exists_plan_complete hsound hrow hlt _ c
  obtain rfl := Except.ok.inj (hplan.symm.trans hplan')
  exact (selection_carryOut hp rfl harea.lines hcarry).imp_right fun hselects =>
    ⟨p, rfl, rfl, hplan, hselects⟩

/-- The layout of all tables succeeds and selects nothing. -/
theorem formatAll_selection (hm : o.margin.Simple) (h : w.editor.Open)
    (hlow : 0 ≤ w.editor.cursor.row) (hhigh : w.editor.cursor.row < w.editor.lines.length) :
    ∃ w', formatAll o w = .ok () w' ∧ w'.editor.selection = none := by
  obtain ⟨e', hsweep, -⟩ := sweep_relaid hm h.begun hlow hhigh
  exact ⟨_, formatAll_of_sweep hsweep, selection_sweep hsweep⟩

/-- In an editor that accepts every row and refuses nothing, with the cursor in a table, every
request succeeds, whatever is remembered and whatever is selected. Afterwards nothing is selected;
or the request runs a command, and the selection is the content of a cell of the table that this
command plans, where it stands in the document, and the cursor is at its end. -/
theorem request_selects_content (o : Options) (hm : o.margin.Simple) (w : Workspace)
    (haccepts : w.editor.rejected = []) (hpermits : w.editor.refused = none)
    (hlow : 0 ≤ w.editor.cursor.row) {b : Block}
    (hb : w.editor.block? o.margin = .ok (some b)) (r : Request) (hr : Known r) :
    ∃ w', r.run o w = .ok () w' ∧
      (w'.editor.selection = none ∨ ∃ c p above below, r.run o = run o c ∧
        w.editor.lines = above ++ b.lines ++ below ∧ b.first = above.length ∧
        c.plan o (sessionFor c b w.session) (b.table.complete o.toStyle)
          (b.focus.completed b.table) = .ok p ∧
        w'.editor.SelectsContent above (p.written o) below) := by
  obtain ⟨above, block, below, harea⟩ :=
    exists_around_of_cursorInTable hlow (block?_found hb).1
  rcases run_eq_or o hr with ⟨c, hc⟩ | hall
  · obtain ⟨w', hrun, hselection⟩ := run_selection hm hpermits harea hb c
    refine ⟨w', (congrFun hc w).trans hrun, hselection.imp_right ?_⟩
    rintro ⟨p, hfirst, rfl, hplan, hselects⟩
    exact ⟨c, p, above, below, hc, harea.lines, hfirst, hplan, hselects⟩
  · have hhigh : w.editor.cursor.row < w.editor.lines.length := by
      have hend := harea.high
      rw [harea.lines, List.length_append, List.length_append]
      omega
    obtain ⟨w', hrun, hselection⟩ := formatAll_selection hm ⟨haccepts, hpermits⟩ hlow hhigh
    exact ⟨w', (congrFun hall w).trans hrun, Or.inl hselection⟩

/-- A part of the second line is selected, and then the content of the next cell of the first. -/
theorem request_selects_content_next_cell :
    ∃ w' t above below, (Request.command .nextCell).run { formatType := .weak }
        ⟨{ lines := ["|a|bc".toList, "|d".toList], cursor := ⟨0, 1⟩
           selection := some ⟨⟨1, 0⟩, ⟨1, 2⟩⟩ }, none⟩ = .ok () w' ∧
      w'.editor.selection = some ⟨⟨0, 6⟩, ⟨0, 8⟩⟩ ∧ w'.editor.SelectsContent above t below := by
  obtain ⟨w', hrun, hselection⟩ :=
    request_selects_content { formatType := .weak } (by unfold Margin.Simple; decide)
      ⟨{ lines := ["|a|bc".toList, "|d".toList], cursor := ⟨0, 1⟩
         selection := some ⟨⟨1, 0⟩, ⟨1, 2⟩⟩ }, none⟩ rfl rfl (by decide)
      (b := ⟨0, ["|a|bc".toList, "|d".toList],
        Table.ofLines ⟨[]⟩ ["|a|bc".toList, "|d".toList], ⟨0, 0, 0⟩⟩) rfl
      (.command .nextCell) trivial
  have hspan : w'.editor.selection = some ⟨⟨0, 6⟩, ⟨0, 8⟩⟩ := by
    obtain ⟨-, rfl⟩ := EStateM.Result.ok.inj hrun
    decide
  obtain ⟨c, p, above, below, -, -, -, -, hselects⟩ :=
    hselection.resolve_left (by rw [hspan]; simp)
  exact ⟨w', _, above, below, hrun, hspan, hselects⟩

end Workspace

end TextTable
