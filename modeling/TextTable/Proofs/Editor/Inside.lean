import TextTable.Proofs.Editor.Plans
import TextTable.Proofs.Editor.Request
import TextTable.Proofs.Editor.Sweeping

/-!
# The cursor stays in the document

In an editor that refuses nothing, a request whose cursor is inside the document never fails, and it
leaves the cursor inside the document (`request_inside`); so does any list of requests
(`requests_inside`). All that it writes are layouts of complete tables, which have a line for each
row that a plan aims at, and a column for each place that the cursor is put on
(`Table.Complete.inside_format`). This also holds for the move of a column, and whatever rows the
editor rejects.
-/

namespace TextTable

/-- The position is on a row of the document, in its line or at the end of it. -/
def Position.Inside (p : Position) (lines : List Text) : Prop :=
  ∃ (k : Nat) (line : Text), p.row = k ∧ lines[k]? = some line ∧ 0 ≤ p.column ∧
    p.column ≤ line.length

namespace Position.Inside

variable {p : Position} {above below lines : List Text}

theorem row (h : p.Inside lines) : 0 ≤ p.row ∧ p.row < lines.length := by
  obtain ⟨k, line, hrow, hline, -, -⟩ := h
  have := (List.getElem?_eq_some_iff.mp hline).1
  omega

/-- What follows below makes no difference to a position above. -/
theorem above_iff (hrow : p.row < above.length) :
    p.Inside (above ++ below) ↔ p.Inside above := by
  constructor
  · rintro ⟨k, line, hk, hline, hcolumn⟩
    exact ⟨k, line, hk, by rwa [List.getElem?_append_left (by omega)] at hline, hcolumn⟩
  · rintro ⟨k, line, hk, hline, hcolumn⟩
    exact ⟨k, line, hk, by rwa [List.getElem?_append_left (by omega)], hcolumn⟩

/-- Other lines above move a position up or down. -/
theorem of_below (h : p.Inside (above ++ below)) (above' : List Text)
    (hrow : (above.length : Int) ≤ p.row) :
    (p.down ((above'.length : Int) - above.length)).Inside (above' ++ below) := by
  obtain ⟨k, line, hk, hline, hcolumn⟩ := h
  rw [List.getElem?_append_right (by omega)] at hline
  refine ⟨above'.length + (k - above.length), line, ?_, ?_, hcolumn⟩
  · rw [Position.down_row]
    omega
  · rwa [List.getElem?_append_right (by omega), Nat.add_sub_cancel_left]

end Position.Inside

/-- The places that the layout of a complete table keeps are inside the document around it. -/
theorem Table.Complete.inside_format {s : Style} {t : Table} (hs : 0 < s.minDelimiterWidth)
    (ht : t.Complete) {above : List Text} {p : Position}
    (h : (t.format s).Keeps above.length p) (below : List Text) :
    p.Inside (above ++ (t.format s).lines ++ below) := by
  obtain ⟨i, r, hr, hrow, hcolumn⟩ := h.in_line ht.flush_format (ht.format hs).filled
  have hlt := (List.getElem?_eq_some_iff.mp hr).1
  refine ⟨above.length + i, r.text, by omega, ?_, hcolumn⟩
  rw [List.append_assoc, List.getElem?_append_right (Nat.le_add_right _ _), Nat.add_sub_cancel_left,
    List.getElem?_append_left (by rwa [lines, List.length_map]), lines, List.getElem?_map, hr]
  rfl

namespace Editor

variable {o : Options} {e : Editor} {above block below : List Text} {p : Position}

/-! ## Commands -/

/-- The line below some lines, which may have been put in, holds its own margin. -/
theorem inside_below (m : Margin) (front below : List Text) :
    Position.Inside ⟨front.length, ((below.head?.map m.leading).getD 0 : Nat)⟩
      (front ++ below ++ if below = [] then [[]] else []) := by
  cases below with
  | nil =>
    rw [List.append_nil, if_pos rfl]
    exact ⟨front.length, [], rfl, List.getElem?_concat_length, Int.le_refl 0, Int.le_refl 0⟩
  | cons line below =>
    rw [if_neg (List.cons_ne_nil _ _), List.append_nil]
    refine ⟨front.length, line, rfl, ?_, Int.natCast_nonneg _, ?_⟩
    · rw [List.getElem?_append_right (Nat.le_refl _), Nat.sub_self]
      rfl
    · exact Int.ofNat_le.mpr (List.takeWhile_sublist _).length_le

/-- A plan that keeps the table complete is carried out, and the cursor ends inside the document. -/
theorem carryOut_inside (hr : e.refused = none) {b : Block}
    (he : e.lines = above ++ b.lines ++ below) (hfirst : b.first = above.length) {p : Plan}
    {t : Table} (hp : p.CompleteFor t)
    (hheight : t.height = b.lines.length + if b.table.lacksDelimiter then 1 else 0) :
    ∃ e', p.carryOut o b e = .ok () e' ∧ e'.rejected = e.rejected ∧ e'.refused = none ∧
      e'.cursor.Inside e'.lines := by
  cases hf : p.landing.focus? (p.written o) with
  | some f =>
    obtain ⟨e', hcarry, hrefused, hplaced⟩ := (carryOut_cell o p hf hfirst he).ok hr
    refine ⟨e', hcarry, hplaced.rejected, hrefused, ?_⟩
    rw [hplaced.lines, hplaced.cursor]
    exact hp.complete.inside_format o.minDelimiterWidth_pos (hp.keeps_spot hf _ _) below
  | none =>
    have hwritten := (hp.height_written hf).trans hheight
    obtain ⟨e', hcarry, hrefused, hplaced⟩ := (carryOut_below o p hf hwritten hfirst he).ok hr
    refine ⟨e', hcarry, hplaced.rejected, hrefused, ?_⟩
    rw [hplaced.lines, hplaced.cursor, ← Table.length_lines, ← List.length_append]
    exact inside_below _ _ _

/-! ## Sweeps -/

/-- The layout of a block of table lines leaves a cursor inside the document. -/
theorem inside_placeAfter (hm : o.margin.Simple)
    (hblock : ∀ l ∈ block, o.margin.isTableLine l = true) (hne : block ≠ [])
    (h : p.Inside (above ++ block ++ below)) :
    (placeAfter o above.length block p).Inside (above ++ relaid o block ++ below) := by
  by_cases habove : p.row < above.length
  · rw [placeAfter_above habove, List.append_assoc, Position.Inside.above_iff habove]
    rwa [List.append_assoc, Position.Inside.above_iff habove] at h
  · by_cases hin : p.row < above.length + block.length
    · have hcomplete := (Table.sound_complete_block (s := o.toStyle) o.minDelimiterWidth_pos hm
        hblock hne).complete
      exact hcomplete.inside_format o.minDelimiterWidth_pos
        (placeAfter_keeps hm hblock (Int.not_lt.mp habove) hin) below
    · have hbelow : ((above ++ block).length : Int) ≤ p.row := by
        rw [List.length_append]
        omega
      have hmoved := h.of_below (above ++ relaid o block) hbelow
      have hgain : ((above ++ relaid o block).length : Int) - (above ++ block).length =
          (relaid o block).length - block.length := by
        rw [List.length_append, List.length_append]
        omega
      rw [hgain] at hmoved
      rwa [placeAfter_below (by omega)]

/-- A sweep through table lines and others, whatever is rejected, with the cursor inside the
document as it is by then. -/
structure SweptInside (o : Options) (passed gathered rest : List Text) (p : Position)
    (e : Editor) : Prop where
  permits : e.refused = none
  lines : e.lines = passed ++ gathered ++ rest
  inTable : ∀ l ∈ gathered, o.margin.isTableLine l = true
  inside : p.Inside e.lines

/-- Each step of a sweep keeps the cursor inside of what the document is by then. -/
theorem sweepInvariant_inside (hm : o.margin.Simple) : SweepInvariant o (SweptInside o) where
  permits h := h.permits
  lines h := h.lines
  gather {passed gathered line rest p e} h htable := by
    obtain ⟨l, hline, hl⟩ := exists_line_of_isTableRow htable
    rw [h.lines, ← List.length_append, List.getElem?_append_right (Nat.le_refl _),
      Nat.sub_self] at hline
    obtain rfl : line = l := Option.some.inj hline
    refine ⟨h.permits, by rw [h.lines]; simp, fun l' hl' => ?_, h.inside⟩
    rcases List.mem_append.mp hl' with hl' | hl'
    · exact h.inTable l' hl'
    · rwa [List.mem_singleton.mp hl']
  pass h _ := ⟨h.permits, by rw [h.lines]; simp, by simp, h.inside⟩
  layOut {passed gathered rest p e e'} h hne _ hwrite _ := by
    have hinside := h.inside
    rw [h.lines] at hinside
    refine ⟨hwrite.refused_eq.trans h.permits, ?_, by simp, ?_⟩
    · rw [hwrite.lines_eq, List.append_nil, List.append_assoc _ (rest.take 1),
        List.take_append_drop]
    · rw [hwrite.lines_eq]
      exact inside_placeAfter hm h.inTable hne hinside

theorem sweep_inside (hm : o.margin.Simple) (hr : e.refused = none)
    (hin : e.cursor.Inside e.lines) :
    ∃ e', sweep o e = .ok () e' ∧ e'.refused = none ∧ e'.cursor.Inside e'.lines := by
  obtain ⟨lines, q, e', hend, hsweep⟩ :=
    (sweepInvariant_inside hm).sweep_ok ⟨hr, rfl, by simp, hin⟩
  exact ⟨_, hsweep, hend.permits, hend.inside⟩

end Editor

namespace Workspace

open Editor

variable {o : Options} {w : Workspace}

/-- A command on a table succeeds and leaves the cursor inside the document, wherever the cursor is
in the table. -/
theorem run_around (hm : o.margin.Simple) (hr : w.editor.refused = none)
    {above block below : List Text} (harea : w.editor.Around o.margin above block below)
    (c : Command) :
    ∃ w', run o c w = .ok () w' ∧ w'.editor.rejected = w.editor.rejected ∧
      w'.editor.refused = none ∧ w'.editor.cursor.Inside w'.editor.lines := by
  obtain ⟨f, hblock, -, hsound, hrow, hlt⟩ := harea.exists_focus hm
  have hheight := Table.height_complete_ofLines o.toStyle o.margin harea.ne_nil
  obtain ⟨p, hplan, hp⟩ := Command.exists_plan_complete hsound hrow hlt
    (if c.checksSession then Session.check w.session ⟨above.length, 0⟩ f else w.session) c
  have hbegun : ({ w.editor with transactions := w.editor.transactions + 1 } : Editor).refused =
    none := hr
  obtain ⟨e', hcarry, hrejected, hrefused, hinside⟩ := carryOut_inside hbegun
    (b := ⟨above.length, block, Table.ofLines o.margin block, f⟩) harea.lines rfl hp hheight
  exact ⟨_, run_of_carryOut hblock hplan hcarry, hrejected, hrefused, hinside⟩

/-- A command succeeds and leaves the cursor inside the document. -/
theorem run_inside (hm : o.margin.Simple) (hr : w.editor.refused = none)
    (hin : w.editor.cursor.Inside w.editor.lines) (c : Command) :
    ∃ w', run o c w = .ok () w' ∧ w'.editor.refused = none ∧
      w'.editor.cursor.Inside w'.editor.lines := by
  obtain ⟨hlow, hhigh⟩ := hin.row
  cases htable : w.editor.isTableRow o.margin w.editor.cursor.row with
  | false =>
    have hoff := cursorInTable_eq (m := o.margin) hlow hhigh
    rw [htable] at hoff
    refine ⟨w, ?_, hr, hin⟩
    rw [run, block?, hoff]
    rfl
  | true =>
    obtain ⟨above, block, below, harea⟩ := exists_around hlow hhigh htable
    obtain ⟨w', hrun, -, hr', hin'⟩ := run_around hm hr harea c
    exact ⟨w', hrun, hr', hin'⟩

/-- So does the layout of all tables. -/
theorem formatAll_inside (hm : o.margin.Simple) (hr : w.editor.refused = none)
    (hin : w.editor.cursor.Inside w.editor.lines) :
    ∃ w', formatAll o w = .ok () w' ∧ w'.editor.refused = none ∧
      w'.editor.cursor.Inside w'.editor.lines := by
  have hbegun : ({ w.editor with transactions := w.editor.transactions + 1 } : Editor).refused =
    none := hr
  obtain ⟨e', hsweep, hr', hin'⟩ := sweep_inside hm hbegun hin
  exact ⟨_, formatAll_of_sweep hsweep, hr', hin'⟩

/-! ## Requests -/

/-- An alignment that is asked for by its name exists. -/
def Known : Request → Prop
  | .alignNamed name => (Alignment.ofName? name).isSome = true
  | _ => True

/-- A request whose alignment exists runs a command, or lays out all tables. -/
theorem run_eq_or (o : Options) {r : Request} (hknown : Known r) :
    (∃ c, r.run o = run o c) ∨ r.run o = formatAll o := by
  cases r with
  | command c => exact Or.inl ⟨c, rfl⟩
  | alignNamed name =>
    obtain ⟨a, hrun⟩ := exists_alignColumn o hknown
    exact Or.inl ⟨_, hrun⟩
  | formatAll => exact Or.inr rfl

/-- A request with a known alignment succeeds and leaves the cursor inside. -/
theorem request_inside (hm : o.margin.Simple) (hr : w.editor.refused = none)
    (hin : w.editor.cursor.Inside w.editor.lines) {r : Request} (hknown : Known r) :
    ∃ w', r.run o w = .ok () w' ∧ w'.editor.refused = none ∧
      w'.editor.cursor.Inside w'.editor.lines := by
  rcases run_eq_or o hknown with ⟨c, hrun⟩ | hrun
  · rw [hrun]
    exact run_inside hm hr hin c
  · rw [hrun]
    exact formatAll_inside hm hr hin

/-- However many requests are made one after the other, none of them fails. -/
theorem requests_inside (hm : o.margin.Simple) {requests : List Request}
    (hr : w.editor.refused = none) (hin : w.editor.cursor.Inside w.editor.lines)
    (hknown : ∀ r ∈ requests, Known r) :
    ∃ w', (requests.forM fun r => r.run o) w = .ok () w' ∧ w'.editor.refused = none ∧
      w'.editor.cursor.Inside w'.editor.lines :=
  forM_ok (g := fun (_ : Unit) _ => ()) (b := ())
    (R := fun _ (w : Workspace) =>
      w.editor.refused = none ∧ w.editor.cursor.Inside w.editor.lines)
    (fun _ hmem _ _ h => request_inside hm h.1 h.2 (hknown _ hmem)) ⟨hr, hin⟩

/-- In an editor that refuses nothing, with the cursor on a row of the document and in its line or
at the end of it, every request succeeds, whatever rows are rejected and whatever session there is;
and then the cursor is again on a row of the document and in its line or at the end of it. -/
theorem request_keeps_inside (o : Options) (hm : o.margin.Simple) (w : Workspace)
    (hpermits : w.editor.refused = none) (hin : w.editor.cursor.Inside w.editor.lines)
    (r : Request) (hr : Known r) :
    ∃ w', r.run o w = .ok () w' ∧ w'.editor.cursor.Inside w'.editor.lines := by
  obtain ⟨w', hrun, -, hin'⟩ := request_inside hm hpermits hin hr
  exact ⟨w', hrun, hin'⟩

/-- Below a rejected row, the first column of a ragged table is moved to the end. -/
theorem request_keeps_inside_ragged :
    ∃ w', (Request.command (.moveColumn 7)).run { leftMarginChars := [['>']] }
        ⟨{ lines := ["|x".toList, "> |a|b|`".toList, "> |c".toList], cursor := ⟨2, 3⟩
           rejected := [0] }, none⟩ = .ok () w' ∧
      w'.editor.cursor.Inside w'.editor.lines :=
  request_keeps_inside { leftMarginChars := [['>']] } (by unfold Margin.Simple; decide)
    ⟨{ lines := ["|x".toList, "> |a|b|`".toList, "> |c".toList], cursor := ⟨2, 3⟩
       rejected := [0] }, none⟩ rfl
    ⟨2, "> |c".toList, rfl, rfl, by decide, by decide⟩ (.command (.moveColumn 7)) trivial

end Workspace

end TextTable
