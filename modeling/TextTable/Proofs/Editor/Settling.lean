import TextTable.Proofs.Editor.FormatAll
import TextTable.Proofs.Editor.Request

/-!
# What requests leave behind

Whether it is about the table under the cursor or about all tables, a request that moves no column
leaves a settled document (`request_settled`). So the table under the cursor may be laid out again
after every request, and nothing will change.
-/

namespace TextTable.Workspace

variable {o : Options}

/-- The request moves no column, and an alignment that it names exists. -/
def Normalizing : Request → Prop
  | .command c => ∀ columns, c ≠ .moveColumn columns
  | .alignNamed name => (Alignment.ofName? name).isSome = true
  | .formatAll => True

/-- With the cursor inside the document, every request but that of moving a column succeeds and
leaves a settled document. -/
theorem request_settled (hm : o.margin.Simple) {w : Workspace} (h : w.editor.Open)
    (hlow : 0 ≤ w.editor.cursor.row) (hhigh : w.editor.cursor.row < w.editor.lines.length)
    {r : Request} (hr : Normalizing r) :
    ∃ w', r.run o w = .ok () w' ∧ w'.editor.Open ∧
      Settled o.margin o.toStyle w'.editor.lines w'.editor.cursor := by
  cases r with
  | command c => exact run_settled hm h hlow hhigh hr
  | alignNamed name =>
    obtain ⟨a, hrun⟩ := exists_alignColumn o hr
    rw [hrun]
    exact run_settled hm h hlow hhigh fun _ hc => by cases hc
  | formatAll => exact formatAll_settled hm h hlow hhigh

/-- In an editor that accepts every row and refuses nothing, with the cursor inside the document,
every request but that of moving a column succeeds; and when the table under the cursor is laid out
right after it, no modification is made, and the lines and the cursor are left as the request left
them. -/
theorem request_leaves_normal_form (o : Options) (hm : o.margin.Simple) (w : Workspace)
    (haccepts : w.editor.rejected = []) (hpermits : w.editor.refused = none)
    (hlow : 0 ≤ w.editor.cursor.row) (hhigh : w.editor.cursor.row < w.editor.lines.length)
    (r : Request) (hr : Normalizing r) :
    ∃ w', r.run o w = .ok () w' ∧
      ∃ w'', (Request.command .format).run o w' = .ok () w'' ∧
        w''.editor.log = w'.editor.log ∧ w''.editor.lines = w'.editor.lines ∧
        w''.editor.cursor = w'.editor.cursor := by
  obtain ⟨w', hrun, hopen, hsettled⟩ := request_settled hm ⟨haccepts, hpermits⟩ hlow hhigh hr
  obtain ⟨w'', hformat, hlines, hcursor, hlog⟩ := Editor.format_settled hm hopen hsettled w'.session
  exact ⟨w', hrun, w'', hformat, hlog, hlines, hcursor⟩

/-- A quoted table without a delimiter row, in which a code span is left open, is centered. -/
theorem request_leaves_normal_form_centered :
    ∃ w', (Request.alignNamed "center".toList).run { leftMarginChars := [['>']] }
        ⟨{ lines := ["> | a | `b".toList, ['c']], cursor := ⟨0, 5⟩ }, none⟩ = .ok () w' ∧
      ∃ w'', (Request.command .format).run { leftMarginChars := [['>']] } w' = .ok () w'' ∧
        w''.editor.log = w'.editor.log ∧ w''.editor.lines = w'.editor.lines ∧
        w''.editor.cursor = w'.editor.cursor :=
  request_leaves_normal_form { leftMarginChars := [['>']] } (by unfold Margin.Simple; decide)
    ⟨{ lines := ["> | a | `b".toList, ['c']], cursor := ⟨0, 5⟩ }, none⟩ rfl rfl (by decide)
    (by decide) (.alignNamed "center".toList) rfl

end TextTable.Workspace
