import TextTable.Proofs.Editor.CarryOut
import TextTable.Proofs.Editor.Plans
import TextTable.Proofs.Editor.Runs

/-!
# What commands leave behind

A document is `Settled` for its cursor when laying out the table there changes nothing
(`format_settled`): the cursor is on a line of no table, or in a run that is written as the layout
of a sound table, at a place that this table keeps. Every command but that of moving a column leaves
a settled document (`run_settled`), because what it writes is the layout of a sound table between
the lines that were around the run before (`carryOut_settled`).
-/

namespace TextTable

/-! ## Settled documents -/

/-- Laying out the table under a cursor at `p` changes nothing. -/
inductive Settled (m : Margin) (s : Style) (lines : List Text) (p : Position) : Prop
  /-- the cursor is on a line of no table -/
  | aside (k : Nat) (line : Text) (hrow : p.row = k) (hline : lines[k]? = some line)
      (hoff : m.isTableLine line = false)
  /-- the cursor is in the layout of a sound table -/
  | inside (above below : List Text) (t : Table)
      (hlines : lines = above ++ (t.format s).lines ++ below)
      (hrun : Run m above (t.format s).lines below) (hsound : t.Sound m)
      (hkeeps : (t.format s).Keeps above.length p)

/-- The cursor of a settled document is on one of its lines. -/
theorem Settled.row {m : Margin} {s : Style} {lines : List Text} {p : Position}
    (h : Settled m s lines p) :
    0 ≤ p.row ∧ p.row < lines.length := by
  cases h with
  | aside k line hrow hline _ =>
    have hlt := (List.getElem?_eq_some_iff.mp hline).1
    omega
  | inside above below t hlines _ _ hkeeps =>
    have hrow := hkeeps.row
    have hlen := congrArg List.length hlines
    rw [List.length_append, List.length_append, Table.length_lines] at hlen
    omega

/-- What is around a run may stay when the run is written anew. -/
theorem Run.write {m : Margin} {s : Style} {above block below : List Text} {t : Table}
    (hrun : Run m above block below) (hs : 0 < s.minDelimiterWidth) (ht : t.Sound m) :
    Run m above (t.format s).lines below := ⟨ht.lines_format hs, hrun.above, hrun.below⟩

namespace Editor

/-- The editor accepts every row and refuses nothing. -/
structure Open (e : Editor) : Prop where
  accepts : e.rejected = []
  permits : e.refused = none

variable {e : Editor} {o : Options}

/-- An editor that refuses nothing and rejects no row still does so when its lines are other ones.
-/
theorem Open.rewritten (h : e.Open) {e' : Editor} {lines : List Text}
    (hw : Rewritten e lines e') : e'.Open :=
  ⟨hw.rejected_eq.trans h.accepts, hw.refused_eq.trans h.permits⟩

theorem Open.begun (h : e.Open) : Open { e with transactions := e.transactions + 1 } :=
  ⟨h.accepts, h.permits⟩

/-- In an open editor an edit that ends somewhere does not fail. -/
theorem Open.placed (h : e.Open) {x : Edit Unit} {lines : List Text} {p : Position}
    (hx : Ends x e (Placed e lines p)) :
    ∃ e', x e = .ok () e' ∧ e'.Open ∧ e'.lines = lines ∧ e'.cursor = p := by
  obtain ⟨e', hok, hrefused, hplaced⟩ := hx.ok h.permits
  exact ⟨e', hok, ⟨hplaced.rejected.trans h.accepts, hrefused⟩, hplaced.lines, hplaced.cursor⟩

/-- The layout of a sound table is found under a cursor in it, and is read as it was written. -/
theorem Open.block?_format (hm : o.margin.Simple) (h : e.Open) {above below : List Text} {t : Table}
    (ht : t.Sound o.margin) (he : e.lines = above ++ (t.format o.toStyle).lines ++ below)
    (hrun : Run o.margin above (t.format o.toStyle).lines below)
    (hrow : above.length ≤ e.cursor.row ∧
      e.cursor.row < above.length + (t.format o.toStyle).height) :
    ∃ f, (t.format o.toStyle).focusAt? e.cursor above.length = some f ∧
      e.block? o.margin =
        .ok (some ⟨above.length, (t.format o.toStyle).lines, t.format o.toStyle, f⟩) := by
  rw [← Table.length_lines] at hrow
  obtain ⟨f, hf, hblock⟩ := block?_run h.accepts he hrun hrow.1 (by omega)
  rw [ht.ofLines_format hm o.minDelimiterWidth_pos] at hf hblock
  exact ⟨f, hf, hblock⟩

/-! ## Carrying out a plan -/

/-- Below the layout of a sound table there is a line of no table, or there will be. -/
theorem settled_below {m : Margin} {s : Style} {above block below : List Text}
    (hrun : Run m above block below) {column : Int} :
    Settled m s (above ++ block ++ below ++ if below = [] then [[]] else [])
      ⟨(above.length + block.length : Nat), column⟩ := by
  rw [← List.length_append]
  cases below with
  | nil =>
    rw [List.append_nil, if_pos rfl]
    exact .aside _ [] rfl List.getElem?_concat_length rfl
  | cons line below =>
    rw [if_neg (List.cons_ne_nil _ _), List.append_nil]
    refine .aside _ line rfl ?_ (hrun.below line rfl)
    rw [List.getElem?_append_right (Nat.le_refl _), Nat.sub_self]
    rfl

/-- A plan for the table of a run, carried out, leaves a settled document. -/
theorem carryOut_settled (h : e.Open) {b : Block} {above below : List Text}
    (he : e.lines = above ++ b.lines ++ below) (hfirst : b.first = above.length)
    (hrun : Run o.margin above b.lines below) {p : Plan} {t : Table} (hp : p.SoundFor o.margin t)
    (hheight : t.height = b.lines.length + if b.table.lacksDelimiter then 1 else 0) :
    ∃ e', p.carryOut o b e = .ok () e' ∧ e'.Open ∧
      Settled o.margin o.toStyle e'.lines e'.cursor := by
  have hs := o.minDelimiterWidth_pos
  have hrun' := hrun.write hs hp.sound
  cases hf : p.landing.focus? (p.written o) with
  | some f =>
    obtain ⟨e', hcarry, hopen, hlines, hcursor⟩ := h.placed (carryOut_cell o p hf hfirst he)
    refine ⟨e', hcarry, hopen, ?_⟩
    rw [hlines, hcursor]
    exact .inside above below p.table rfl hrun' hp.sound (hp.completeFor.keeps_spot hf _ _)
  | none =>
    -- the command looks for the line below by the height that the table had before
    have hwritten := (hp.completeFor.height_written hf).trans hheight
    obtain ⟨e', hcarry, hopen, hlines, hcursor⟩ :=
      h.placed (carryOut_below o p hf hwritten hfirst he)
    refine ⟨e', hcarry, hopen, ?_⟩
    rw [hlines, hcursor, ← Table.length_lines]
    exact settled_below hrun'

/-! ## Laying out a settled document -/

/-- In a settled document, another layout changes no line, makes no modification and leaves the
cursor where it is. -/
theorem format_settled (hm : o.margin.Simple) (h : e.Open)
    (hsettled : Settled o.margin o.toStyle e.lines e.cursor) (s : Option Session) :
    ∃ w', Workspace.run o .format ⟨e, s⟩ = .ok () w' ∧ w'.editor.lines = e.lines ∧
      w'.editor.cursor = e.cursor ∧ w'.editor.log = e.log := by
  have hs := o.minDelimiterWidth_pos
  cases hsettled with
  | aside k line hrow hline hoff =>
    refine ⟨⟨e, s⟩, ?_, rfl, rfl, rfl⟩
    rw [Workspace.run, block?_off h.accepts hrow hline hoff]
  | inside above below t hlines hrun hsound hkeeps =>
    obtain ⟨f, hf, hblock⟩ := h.block?_format hm hsound hlines hrun hkeeps.row
    obtain ⟨f', hf', hposition⟩ := hkeeps
    obtain rfl : f = f' := Option.some.inj (hf.symm.trans hf')
    have hcomplete := hsound.complete_format hs
    have hwritten : Plan.written ⟨t.format o.toStyle, .cell f (t.format o.toStyle) false false,
        .forget⟩ o = t.format o.toStyle := hsound.format_format hs
    have hcarry : Plan.carryOut ⟨t.format o.toStyle, .cell f (t.format o.toStyle) false false,
        .forget⟩ o ⟨above.length, (t.format o.toStyle).lines, t.format o.toStyle, f⟩
          { e with transactions := e.transactions + 1 } =
        .ok () { e with cursor := e.cursor, selection := none
                        transactions := e.transactions + 1 } := by
      rw [Plan.carryOut, hwritten, bind_ok (exchange_self _ _ _)]
      simp only [Landing.focus?, Landing.selected, land, hposition, Bool.false_eq_true, if_false]
      exact setCursor_ok (by exact h.permits) e.cursor
    have hplan : Command.plan o s (t.format o.toStyle) f .format =
        .ok ⟨t.format o.toStyle, .cell f (t.format o.toStyle) false false, .forget⟩ := rfl
    have hrun := Workspace.run_of_carryOut (c := .format) (w := ⟨e, s⟩) hblock
      (by rw [hcomplete.completed_eq, hcomplete.complete_eq]; exact hplan) hcarry
    exact ⟨_, hrun, rfl, rfl, rfl⟩

end Editor

/-! ## Running commands -/

namespace Workspace

/-- With the cursor inside the document, every command but that of moving a column succeeds and
leaves a settled document. -/
theorem run_settled {o : Options} (hm : o.margin.Simple) {w : Workspace} (h : w.editor.Open)
    (hlow : 0 ≤ w.editor.cursor.row) (hhigh : w.editor.cursor.row < w.editor.lines.length)
    {c : Command} (hc : ∀ columns, c ≠ .moveColumn columns) :
    ∃ w', run o c w = .ok () w' ∧ w'.editor.Open ∧
      Settled o.margin o.toStyle w'.editor.lines w'.editor.cursor := by
  have hs := o.minDelimiterWidth_pos
  obtain ⟨k, hk⟩ := Int.eq_ofNat_of_zero_le hlow
  have hlt : k < w.editor.lines.length := by omega
  have hline : w.editor.lines[k]? = some w.editor.lines[k] := List.getElem?_eq_getElem hlt
  by_cases htable : o.margin.isTableLine w.editor.lines[k] = true
  · obtain ⟨above, block, below, hrun, harea⟩ :=
      Editor.exists_run_around h.accepts hk hline htable
    obtain ⟨f, hblock, -, hsound, hrow, hlt⟩ := harea.exists_focus hm
    have hheight := Table.height_complete_ofLines o.toStyle o.margin harea.ne_nil
    obtain ⟨p, hplan, hp⟩ := Command.exists_plan hsound hrow hlt
      (if c.checksSession then Session.check w.session ⟨above.length, 0⟩ f else w.session) hc
    obtain ⟨e', hcarry, hopen, hsettled⟩ := Editor.carryOut_settled h.begun
      (b := ⟨above.length, block, Table.ofLines o.margin block, f⟩) harea.lines rfl hrun hp hheight
    exact ⟨_, run_of_carryOut hblock hplan hcarry, hopen, hsettled⟩
  · refine ⟨w, ?_, h, .aside k _ hk hline (by simpa using htable)⟩
    rw [run, Editor.block?_off h.accepts hk hline (by simpa using htable)]

end Workspace

end TextTable
