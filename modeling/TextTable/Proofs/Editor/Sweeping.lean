import TextTable.Editor.Sweep
import TextTable.Proofs.Editor.CarryOut
import TextTable.Proofs.Editor.Runs

/-!
# Sweeping through a document

A sweep stands between the lines that it has passed and the rest of the document, with the lines of
a table in its hands that it has gathered in between. Each step gathers a line, passes one, or lays
out what was gathered (`SweepInvariant`). So what holds at the beginning of a sweep holds at its
end, as long as each of these steps keeps it (`sweepFrom_ok`, `sweep_ok`).

A position is moved by the layout of each table on the way: one above it stays (`placeAfter_above`),
one below it moves along (`placeAfter_below`), and one in the table goes to a place that the layout
keeps (`placeAfter_keeps`).
-/

namespace TextTable

namespace Editor

variable {o : Options} {block : List Text} {p : Position}

/-! ## Laying out one block -/

/-- The lines that a block is exchanged for when it is laid out. -/
def relaid (o : Options) (block : List Text) : List Text :=
  (((Table.ofLines o.margin block).complete o.toStyle).format o.toStyle).lines

/-- Where a cursor is once the block that begins on the row `first` is laid out. -/
def placeAfter (o : Options) (first : Int) (block : List Text) (p : Position) : Position :=
  let table := Table.ofLines o.margin block
  let complete := table.complete o.toStyle
  let formatted := complete.format o.toStyle
  match table.focusAt? p first with
  | some f =>
    let f := f.completed table
    let offset := Table.offsetAfter f complete formatted false
    (formatted.positionOf? (f.withOffset offset) first).getD p
  | none =>
    if first + block.length ≤ p.row then p.down (((relaid o block).length : Int) - block.length)
    else p

/-- The layout of a run exchanges its lines and says where a position of the document goes. -/
theorem formatBlock_eq (o : Options) (first : Int) (block : List Text) (p : Position) :
    formatBlock o first block p = (do
      exchange first block (relaid o block)
      return (((relaid o block).length : Int) - block.length, placeAfter o first block p)) := by
  rw [formatBlock, placeAfter]
  cases (Table.ofLines o.margin block).focusAt? p first <;> rfl

/-- In an editor that refuses nothing, a block is laid out between the lines that are around it; one
that is laid out already is left alone. -/
theorem formatBlock_ok {e : Editor} (hr : e.refused = none) {above below : List Text}
    (he : e.lines = above ++ block ++ below) (p : Position) :
    ∃ e', formatBlock o above.length block p e =
        .ok (((relaid o block).length : Int) - block.length, placeAfter o above.length block p) e' ∧
      Rewritten e (above ++ relaid o block ++ below) e' ∧ (relaid o block = block → e' = e) := by
  rw [formatBlock_eq]
  by_cases hsame : relaid o block = block
  · refine ⟨e, ?_, ?_, fun _ => rfl⟩
    · have hexchange := exchange_self above.length block e
      rw [hsame, bind_ok hexchange]
      rfl
    · rw [hsame, ← he]
      exact Rewritten.refl e
  · obtain ⟨e', hexchange, hwrite⟩ := exchange_ok hr he (relaid o block)
    rw [bind_ok hexchange]
    exact ⟨e', rfl, hwrite, fun h => absurd h hsame⟩

/-- The layout of a run is longer by the delimiter row that the run lacks. -/
theorem length_relaid (hne : block ≠ []) : (relaid o block).length =
    block.length + if (Table.ofLines o.margin block).lacksDelimiter then 1 else 0 := by
  simp [relaid, Table.height_complete_ofLines _ _ hne]

section TableLines

variable (hblock : ∀ l ∈ block, o.margin.isTableLine l = true) (hne : block ≠ [])

include hblock hne

/-- The layout of a run is made of table lines. -/
theorem isTableLine_relaid (hm : o.margin.Simple) :
    ∀ l ∈ relaid o block, o.margin.isTableLine l = true :=
  (Table.sound_complete_block o.minDelimiterWidth_pos hm hblock hne).lines_format
    o.minDelimiterWidth_pos

/-- A block that is laid out once is laid out for good. -/
theorem relaid_relaid (hm : o.margin.Simple) : relaid o (relaid o block) = relaid o block := by
  have hs := o.minDelimiterWidth_pos
  have hsound := Table.sound_complete_block (s := o.toStyle) hs hm hblock hne
  rw [relaid, relaid, hsound.ofLines_format hm hs, (hsound.complete_format hs).complete_eq,
    hsound.format_format hs]

end TableLines

/-! ### Places -/

/-- Above the block, a cursor stays. -/
theorem placeAfter_above {first : Int} (h : p.row < first) : placeAfter o first block p = p := by
  simp only [placeAfter]
  split
  · next f hf =>
    have := Table.focusAt?_row hf
    omega
  · exact if_neg (by omega)

/-- Below the block, a cursor moves along with its line. -/
theorem placeAfter_below {first : Int} (h : first + block.length ≤ p.row) :
    placeAfter o first block p = p.down (((relaid o block).length : Int) - block.length) := by
  simp only [placeAfter]
  split
  · next f hf =>
    have := Table.focusAt?_row hf
    rw [Table.height_ofLines] at this
    omega
  · exact if_pos h

/-- Where the block stands in the document makes no difference. -/
theorem placeAfter_down (first : Int) (block : List Text) (p : Position) (rows : Int) :
    placeAfter o (first + rows) block (p.down rows) = (placeAfter o first block p).down rows := by
  simp only [placeAfter, Table.focusAt?_down, Table.positionOf?_down]
  cases (Table.ofLines o.margin block).focusAt? p first with
  | some f =>
    dsimp only
    cases Table.positionOf? _ _ first <;> rfl
  | none =>
    have hrow : first + rows + block.length ≤ (p.down rows).row ↔ first + block.length ≤ p.row := by
      rw [Position.down_row]
      omega
    simp only [hrow]
    split
    · simp [Int.add_comm]
    · rfl

/-- In a block of table lines, a cursor goes to a place that the laid out table keeps. -/
theorem placeAfter_keeps (hm : o.margin.Simple)
    (hblock : ∀ l ∈ block, o.margin.isTableLine l = true) {first : Int} (hlow : first ≤ p.row)
    (hhigh : p.row < first + block.length) :
    (((Table.ofLines o.margin block).complete o.toStyle).format o.toStyle).Keeps first
      (placeAfter o first block p) := by
  have hs := o.minDelimiterWidth_pos
  have hne : block ≠ [] := by
    rintro rfl
    rw [List.length_nil] at hhigh
    omega
  have hcomplete := (Table.sound_complete_block (s := o.toStyle) hs hm hblock hne).complete
  have hshape := hcomplete.sameShape_format hs
  simp only [placeAfter]
  cases hf : (Table.ofLines o.margin block).focusAt? p first with
  | some f =>
    obtain ⟨-, hrow, hin⟩ := Table.focusAt?_row hf
    rw [Table.height_ofLines] at hin
    obtain ⟨hrow', hin'⟩ := Table.completed_within f (Table.ofLines o.margin block) hrow hin
    rw [← Table.height_complete_ofLines o.toStyle _ hne, ← hshape.height_eq] at hin'
    have hbefore : false = true ∨ Table.SameShape _ _ := Or.inr hshape
    obtain ⟨q, hq, hkeeps⟩ := Table.keeps_landing first hcomplete.flush_format hrow' hin' hbefore
    simp only [hq]
    exact hkeeps
  | none =>
    have hout := Table.focusAt?_off hf
    rw [Table.height_ofLines] at hout
    omega

/-! ## Sweeps -/

/-- What holds of a sweep that has passed some lines, which are laid out, has gathered some, and has
the rest of the document before it, with the cursor's place and the editor as they are by now. -/
abbrev SweepState : Type := List Text → List Text → List Text → Position → Editor → Prop

/-- Each step of a sweep keeps what holds. -/
structure SweepInvariant (o : Options) (I : SweepState) : Prop where
  permits {passed gathered rest p e} : I passed gathered rest p e → e.refused = none
  lines {passed gathered rest p e} :
    I passed gathered rest p e → e.lines = passed ++ gathered ++ rest
  /-- a line of a table is gathered -/
  gather {passed gathered line rest p e} : I passed gathered (line :: rest) p e →
    e.isTableRow o.margin (passed.length + gathered.length : Nat) = true →
    I passed (gathered ++ [line]) rest p e
  /-- another line is passed -/
  pass {passed line rest p e} : I passed [] (line :: rest) p e →
    e.isTableRow o.margin passed.length = false → I (passed ++ [line]) [] rest p e
  /-- where the table ends, it is laid out, and the line behind it is passed -/
  layOut {passed gathered rest p e e'} : I passed gathered rest p e → gathered ≠ [] →
    e.isTableRow o.margin (passed.length + gathered.length : Nat) = false →
    Rewritten e (passed ++ relaid o gathered ++ rest) e' →
    (relaid o gathered = gathered → e' = e) →
    I (passed ++ relaid o gathered ++ rest.take 1) [] (rest.drop 1)
      (placeAfter o passed.length gathered p) e'

namespace SweepInvariant

variable {I : SweepState} (hI : SweepInvariant o I)

include hI

/-- What holds of a sweep somewhere holds at its end, where the document is passed. -/
theorem sweepFrom_ok {rest : List Text} : ∀ {passed gathered : List Text} {p : Position}
    {e : Editor}, I passed gathered rest p e →
      ∃ lines q e', sweepFrom o rest.length (passed.length + gathered.length : Nat) gathered p e =
        .ok q e' ∧ I lines [] [] q e' := by
  -- by induction on the lines that are still ahead; each of them is gathered or passed
  induction rest with
  | nil =>
    intro passed gathered p e h
    have hlines := hI.lines h
    rw [List.length_nil, sweepFrom]
    by_cases hne : gathered = []
    · subst hne
      rw [if_pos rfl]
      exact ⟨passed, p, e, rfl, h⟩
    · have hend : e.isTableRow o.margin (passed.length + gathered.length : Nat) = false := by
        have hlen := congrArg List.length hlines
        rw [List.append_nil, List.length_append] at hlen
        rw [← hlen]
        exact isTableRow_length e o.margin
      have hfirst : ((passed.length + gathered.length : Nat) : Int) - gathered.length =
          passed.length := by omega
      obtain ⟨e', hformat, hwrite, hsame⟩ := formatBlock_ok (o := o) (hI.permits h) hlines p
      rw [if_neg hne, hfirst]
      exact ⟨_, _, e', (bind_ok hformat).trans rfl, hI.layOut h hne hend hwrite hsame⟩
  | cons line rest ih =>
    intro passed gathered p e h
    have hlines := hI.lines h
    have hline : e.line? ((passed.length + gathered.length : Nat) : Int) = some line := by
      rw [line?, Signed.get?_natCast, hlines, ← List.length_append,
        List.getElem?_append_right (Nat.le_refl _), Nat.sub_self]
      rfl
    rw [List.length_cons, sweepFrom, bind_ok (get_ok e), hline]
    cases htable : e.isTableRow o.margin (passed.length + gathered.length : Nat) with
    | true =>
      have hnext := ih (hI.gather h htable)
      rw [List.length_append, List.length_singleton] at hnext
      rw [if_pos rfl]
      exact hnext
    | false =>
      rw [if_neg Bool.false_ne_true]
      by_cases hne : gathered = []
      · subst hne
        have hnext := ih (hI.pass h htable)
        rw [List.length_append, List.length_singleton] at hnext
        rw [if_pos rfl]
        exact hnext
      · have hfirst : ((passed.length + gathered.length : Nat) : Int) - gathered.length =
            passed.length := by omega
        obtain ⟨e', hformat, hwrite, hsame⟩ := formatBlock_ok (o := o) (hI.permits h) hlines p
        have hnext := hI.layOut h hne htable hwrite hsame
        -- the table may have gained a line, and so the next row is looked up further down
        have hrow : (((passed ++ relaid o gathered ++ [line]).length +
            ([] : List Text).length : Nat) : Int) =
              ((passed.length + gathered.length : Nat) : Int) +
                (((relaid o gathered).length : Int) - gathered.length) + 1 := by
          simp only [List.length_append, List.length_cons, List.length_nil]
          omega
        have hrest := ih hnext
        rw [List.take_succ_cons, List.take_zero, hrow] at hrest
        rw [if_neg hne, hfirst, bind_ok hformat]
        exact hrest

/-- What holds before the first line of a document is looked at holds when all of it is passed; then
the cursor is put on its place. -/
theorem sweep_ok {e : Editor} (h : I [] [] e.lines e.cursor e) :
    ∃ lines q e', I lines [] [] q e' ∧
      sweep o e = .ok () { e' with cursor := q, selection := none } := by
  obtain ⟨lines, q, e', hsweep, hend⟩ := hI.sweepFrom_ok h
  refine ⟨lines, q, e', hend, ?_⟩
  rw [sweep, bind_ok (get_ok e)]
  exact (bind_ok hsweep).trans (setCursor_ok (hI.permits hend) q)

end SweepInvariant

end Editor

/-- Where the sweep succeeds, the layout of all tables does. -/
theorem Workspace.formatAll_of_sweep {o : Options} {w : Workspace} {e' : Editor}
    (h : Editor.sweep o { w.editor with transactions := w.editor.transactions + 1 } = .ok () e') :
    formatAll o w = .ok () ⟨e', none⟩ := by
  simp only [formatAll, Editor.transact_eq_ok.mpr h]

end TextTable
