import TextTable.Proofs.Editor.Document
import TextTable.Proofs.Editor.NormalForm

/-!
# Laying out all tables

The layout of all tables leaves the layout of the document (`formatAll_relaid`). A cursor on a line
of no table moves along with its line. In a table it goes where the layout of this table alone would
put it, as many rows further down as the lines above the table have gained (`Relocated`). Laid out
again, the document stays as it is, and so does the cursor.

The sweep goes through the document line by line. What has been swept is said by `Swept`, which is
kept by each of its three steps: a line of a table is gathered (`Swept.gather`), a line of no table
is passed (`Swept.pass`), and lines that were gathered are laid out (`Swept.layOut`).
-/

namespace TextTable

namespace Editor

/-- The number of rows that lines gain when they are laid out as a document. -/
def gained (o : Options) (lines : List Text) : Int := (relaidAll o lines).length - lines.length

/-- Where a cursor goes from `p` when the document is laid out. -/
inductive Relocated (o : Options) (lines : List Text) (p q : Position) : Prop
  /-- along with a line of no table -/
  | aside (above : List Text) (line : Text) (below : List Text)
      (hlines : lines = above ++ line :: below) (hrow : p.row = above.length)
      (hoff : o.margin.isTableLine line = false) (hplace : q = p.down (gained o above))
  /-- in the layout of its table -/
  | inside (above block below : List Text) (hlines : lines = above ++ block ++ below)
      (hrun : Run o.margin above block below) (hlow : (above.length : Int) ≤ p.row)
      (hhigh : p.row < (above.length + block.length : Nat))
      (hplace : q = (placeAfter o above.length block p).down (gained o above))

variable {o : Options} {above block below lines : List Text} {line : Text} {p q : Position}

/-- A line of no table gains nothing. -/
theorem gained_concat (hoff : o.margin.isTableLine line = false) :
    gained o (lines ++ [line]) = gained o lines := by
  rw [gained, relaidAll_aside hoff lines [], relaidAll_nil, List.length_append, List.length_append,
    List.length_singleton, gained]
  omega

/-- A run gains what its layout is longer. -/
theorem gained_run (hrun : Run o.margin above block []) (hne : block ≠ []) :
    gained o (above ++ block) =
      gained o above + (((relaid o block).length : Int) - block.length) := by
  have hrelaid := relaidAll_run hrun hne
  rw [List.append_nil, relaidAll_nil, List.append_nil] at hrelaid
  rw [gained, hrelaid, List.length_append, List.length_append, gained]
  omega

/-- Behind a line of no table, other lines may follow. -/
theorem Relocated.append (h : Relocated o lines p q)
    (hend : ∀ l ∈ lines.getLast?, o.margin.isTableLine l = false) (more : List Text) :
    Relocated o (lines ++ more) p q := by
  cases h with
  | aside above line below hlines hrow hoff hplace =>
    refine .aside above line (below ++ more) ?_ hrow hoff hplace
    rw [hlines, List.append_assoc, List.cons_append]
  | inside above block below hlines hrun hlow hhigh hplace =>
    refine .inside above block (below ++ more) ?_ ⟨hrun.block, hrun.above, ?_⟩ hlow hhigh hplace
    · rw [hlines, List.append_assoc]
    · cases below with
      | nil =>
        -- the last line of the run would end the lines
        have hne : block ≠ [] := List.length_pos_iff.mp (by omega)
        have hlast := List.getLast?_eq_some_getLast hne
        rw [hlines, List.append_nil, List.getLast?_append, hlast] at hend
        have hoff := hend _ rfl
        rw [hrun.block _ (List.getLast_mem hne)] at hoff
        cases hoff
      | cons line below => exact hrun.below

/-- A place that lies behind some lines lies in the next line or behind it. -/
theorem relocated_concat (hoff : o.margin.isTableLine line = false)
    (hlow : (lines.length : Int) ≤ p.row) :
    Relocated o (lines ++ [line]) p (p.down (gained o lines)) ∨
      ((lines ++ [line]).length : Int) ≤ p.row := by
  by_cases hhere : p.row = lines.length
  · exact Or.inl (.aside lines line [] rfl hhere hoff rfl)
  · rw [List.length_append, List.length_singleton]
    exact Or.inr (by omega)

/-- A relocated cursor is settled in the layout of the document. -/
theorem Relocated.settled (hm : o.margin.Simple) (h : Relocated o lines p q) :
    Settled o.margin o.toStyle (relaidAll o lines) q := by
  cases h with
  | aside above line below hlines hrow hoff hplace =>
    rw [hlines, relaidAll_aside hoff]
    refine .aside (relaidAll o above).length line ?_ ?_ hoff
    · rw [hplace, Position.down_row, hrow, gained]
      omega
    · rw [List.getElem?_append_right (Nat.le_refl _), Nat.sub_self]
      rfl
  | inside above block below hlines hrun hlow hhigh hplace =>
    have hne : block ≠ [] := List.length_pos_iff.mp (by omega)
    have hkeeps := placeAfter_keeps hm hrun.block hlow hhigh
    have hdown := hkeeps.down (gained o above)
    have htop : (above.length : Int) + gained o above = (relaidAll o above).length := by
      rw [gained]
      omega
    rw [htop, ← hplace] at hdown
    rw [hlines, relaidAll_run hrun hne]
    exact .inside _ _ _ rfl (run_relaidAll hm hrun hne)
      (Table.sound_complete_block o.minDelimiterWidth_pos hm hrun.block hne) hdown

/-! ## Sweeping -/

/-- How a sweep through the document of the editor `b` stands: what it has passed is the layout of
the lines `front`, and the cursor either has its place there, or is still behind these lines. -/
structure Swept (o : Options) (b : Editor) (front passed gathered rest : List Text) (p : Position)
    (e : Editor) : Prop where
  whole : b.lines = front ++ gathered ++ rest
  done : passed = relaidAll o front
  free : e.Open
  lines : e.lines = passed ++ gathered ++ rest
  /-- on its way, a sweep passes lines of no table at last -/
  ended : gathered ++ rest ≠ [] → ∀ l ∈ front.getLast?, o.margin.isTableLine l = false
  inTable : ∀ l ∈ gathered, o.margin.isTableLine l = true
  place : Relocated o front b.cursor p ∨
    ((front.length : Int) ≤ b.cursor.row ∧ p = b.cursor.down (gained o front))
  transactions : e.transactions = b.transactions
  log : relaidAll o b.lines = b.lines → e.log = b.log

namespace Swept

variable {b e e' : Editor} {front passed gathered rest : List Text}

/-- Whether the next row is a table line can be seen from the lines that remain. -/
theorem isTableRow_next (h : Swept o b front passed gathered (line :: rest) p e) :
    e.isTableRow o.margin (passed.length + gathered.length : Nat) = o.margin.isTableLine line := by
  rw [isTableRow_natCast h.free.accepts, h.lines, ← List.length_append,
    List.getElem?_append_right (Nat.le_refl _), Nat.sub_self]
  rfl

/-- A table line is gathered. -/
theorem gather (h : Swept o b front passed gathered (line :: rest) p e)
    (htable : o.margin.isTableLine line = true) :
    Swept o b front passed (gathered ++ [line]) rest p e where
  whole := by rw [h.whole]; simp
  done := h.done
  free := h.free
  lines := by rw [h.lines]; simp
  ended _ := h.ended (by simp)
  inTable l hl := by
    rcases List.mem_append.mp hl with hl | hl
    · exact h.inTable l hl
    · rwa [List.mem_singleton.mp hl]
  place := h.place
  transactions := h.transactions
  log := h.log

/-- A line of no table is passed when no lines wait to be laid out. -/
theorem pass (h : Swept o b front passed [] (line :: rest) p e)
    (hoff : o.margin.isTableLine line = false) :
    Swept o b (front ++ [line]) (passed ++ [line]) [] rest p e where
  whole := by rw [h.whole]; simp
  done := by rw [h.done, relaidAll_aside hoff front [], relaidAll_nil]
  free := h.free
  lines := by rw [h.lines]; simp
  ended _ l hl := by
    rw [List.getLast?_concat] at hl
    rwa [← Option.some.inj hl]
  inTable := by simp
  place := by
    rcases h.place with hplaced | ⟨hlow, hp⟩
    · exact Or.inl (hplaced.append (h.ended (by simp)) _)
    · rw [gained_concat hoff, hp]
      exact (relocated_concat hoff hlow).imp_right fun hbehind => ⟨hbehind, rfl⟩
  transactions := h.transactions
  log := h.log

/-- Where the layout of the gathered table leaves the cursor, if the line `next` is passed then. -/
theorem place_layOut {next : List Text} (h : Swept o b front passed gathered rest p e)
    (hrun : Run o.margin front gathered next) (hne : gathered ≠ [])
    (hnext : next = [] ∧ b.cursor.row < (front ++ gathered).length ∨ ∃ line, next = [line])
    (hm : o.margin.Simple) :
    Relocated o (front ++ gathered ++ next) b.cursor (placeAfter o passed.length gathered p) ∨
      (((front ++ gathered ++ next).length : Int) ≤ b.cursor.row ∧
        placeAfter o passed.length gathered p =
          b.cursor.down (gained o (front ++ gathered ++ next))) := by
  have hfirst : (passed.length : Int) = front.length + gained o front := by
    rw [h.done, gained]
    omega
  rcases h.place with hplaced | ⟨hlow, hp⟩
  · have hrow := (hplaced.settled hm).row
    rw [← h.done] at hrow
    rw [placeAfter_above hrow.2, List.append_assoc]
    exact Or.inl (hplaced.append hrun.above _)
  · rw [hfirst, hp, placeAfter_down]
    by_cases hin : b.cursor.row < (front.length + gathered.length : Nat)
    · exact Or.inl (.inside front gathered next rfl hrun hlow hin rfl)
    · have hbehind : ((front ++ gathered).length : Int) ≤ b.cursor.row := by
        rw [List.length_append]
        omega
      have hgained := gained_run ⟨hrun.block, hrun.above, by simp⟩ hne
      rw [placeAfter_below (by omega), Position.down_down, Int.add_comm, ← hgained]
      obtain ⟨rfl, hhigh⟩ | ⟨line, rfl⟩ := hnext
      · omega
      · rw [gained_concat (hrun.below line rfl)]
        exact (relocated_concat (hrun.below line rfl) hbehind).imp_right fun hlow' => ⟨hlow', rfl⟩

/-- The lines that were gathered are laid out, and the line behind them is passed. -/
theorem layOut (hm : o.margin.Simple) (hhigh : b.cursor.row < b.lines.length)
    (h : Swept o b front passed gathered rest p e) (hne : gathered ≠ [])
    (hend : ∀ l ∈ rest.head?, o.margin.isTableLine l = false)
    (hwrite : Rewritten e (passed ++ relaid o gathered ++ rest) e')
    (hsame : relaid o gathered = gathered → e' = e) :
    Swept o b (front ++ gathered ++ rest.take 1) (passed ++ relaid o gathered ++ rest.take 1) []
      (rest.drop 1) (placeAfter o passed.length gathered p) e' := by
  have hrun : Run o.margin front gathered rest := ⟨h.inTable, h.ended (by simp [hne]), hend⟩
  have hrun' : Run o.margin front gathered (rest.take 1) :=
    ⟨h.inTable, hrun.above, by simpa [List.head?_take] using hend⟩
  have hsplit (lines : List Text) : lines ++ rest.take 1 ++ [] ++ rest.drop 1 = lines ++ rest := by
    rw [List.append_nil, List.append_assoc, List.take_append_drop]
  refine ⟨?_, ?_, h.free.rewritten hwrite, ?_, ?_, by simp, ?_,
    hwrite.transactions_eq.trans h.transactions, ?_⟩
  · rw [h.whole, hsplit]
  · have hnext : relaidAll o (rest.take 1) = rest.take 1 := by
      cases rest with
      | nil => rfl
      | cons line rest => exact relaidAll_singleton (hend line rfl)
    rw [relaidAll_run hrun' hne, hnext, h.done]
  · rw [hwrite.lines_eq, hsplit]
  · intro hmore l hl
    cases rest with
    | nil => exact absurd rfl hmore
    | cons line rest =>
      rw [List.take_succ_cons, List.take_zero, List.getLast?_concat] at hl
      exact hend l hl
  · refine h.place_layOut hrun' hne ?_ hm
    cases rest with
    | nil =>
      rw [h.whole, List.append_nil] at hhigh
      exact Or.inl ⟨rfl, hhigh⟩
    | cons line rest => exact Or.inr ⟨line, rfl⟩
  · intro hall
    have hgathered := (relaid_of_relaidAll hrun hne (h.whole ▸ hall)).2
    rw [hsame hgathered]
    exact h.log hall

end Swept

/-- What a sweep through the document of the editor `b` has done when it has passed some lines. -/
theorem sweepInvariant_swept (hm : o.margin.Simple) {b : Editor}
    (hhigh : b.cursor.row < b.lines.length) :
    SweepInvariant o fun passed gathered rest p e =>
      ∃ front, Swept o b front passed gathered rest p e where
  permits := fun ⟨_, h⟩ => h.free.permits
  lines := fun ⟨_, h⟩ => h.lines
  gather := fun ⟨_, h⟩ htable => ⟨_, h.gather (h.isTableRow_next.symm.trans htable)⟩
  pass := fun ⟨_, h⟩ hoff => ⟨_, h.pass (h.isTableRow_next.symm.trans hoff)⟩
  layOut := fun {passed gathered rest p e e'} ⟨front, h⟩ hne hend hwrite hsame => by
    refine ⟨_, h.layOut hm hhigh hne ?_ hwrite hsame⟩
    intro l hl
    cases rest with
    | nil => cases hl
    | cons line rest =>
      obtain rfl := Option.some.inj hl
      exact h.isTableRow_next.symm.trans hend

/-- The sweep succeeds, lays out the document and relocates the cursor. -/
theorem sweep_relaid (hm : o.margin.Simple) {e : Editor} (h : e.Open) (hlow : 0 ≤ e.cursor.row)
    (hhigh : e.cursor.row < e.lines.length) :
    ∃ e', sweep o e = .ok () e' ∧ e'.Open ∧ e'.lines = relaidAll o e.lines ∧
      Relocated o e.lines e.cursor e'.cursor ∧ e'.transactions = e.transactions ∧
      (relaidAll o e.lines = e.lines → e'.log = e.log) := by
  have hbegin : Swept o e [] [] [] e.lines e.cursor e :=
    ⟨rfl, rfl, h, rfl, by simp, by simp, Or.inr ⟨hlow, (Position.down_zero _).symm⟩, rfl,
      fun _ => rfl⟩
  obtain ⟨lines, q, e', ⟨front, hend⟩, hsweep⟩ :=
    (sweepInvariant_swept hm hhigh).sweep_ok ⟨[], hbegin⟩
  have hwhole := hend.whole
  rw [List.append_nil, List.append_nil] at hwhole
  have hlines := hend.lines
  rw [List.append_nil, List.append_nil, hend.done, ← hwhole] at hlines
  refine ⟨_, hsweep, ⟨hend.free.accepts, hend.free.permits⟩, hlines, ?_, hend.transactions,
    hend.log⟩
  have hplace := hend.place
  rw [← hwhole] at hplace
  exact hplace.resolve_right fun hbehind => by omega

end Editor

namespace Workspace

open Editor

variable {o : Options}

/-! ## All tables -/

/-- With the cursor on a row of the document, the layout of all tables succeeds. -/
theorem formatAll_relaid (hm : o.margin.Simple) {w : Workspace} (h : w.editor.Open)
    (hlow : 0 ≤ w.editor.cursor.row) (hhigh : w.editor.cursor.row < w.editor.lines.length) :
    ∃ w', formatAll o w = .ok () w' ∧ w'.editor.Open ∧
      w'.editor.lines = relaidAll o w.editor.lines ∧
      Relocated o w.editor.lines w.editor.cursor w'.editor.cursor ∧
      w'.editor.transactions = w.editor.transactions + 1 ∧
      (relaidAll o w.editor.lines = w.editor.lines → w'.editor.log = w.editor.log) := by
  obtain ⟨e', hsweep, hrest⟩ := sweep_relaid hm h.begun hlow hhigh
  exact ⟨_, formatAll_of_sweep hsweep, hrest⟩

/-- The layout of all tables leaves a settled document. -/
theorem formatAll_settled (hm : o.margin.Simple) {w : Workspace} (h : w.editor.Open)
    (hlow : 0 ≤ w.editor.cursor.row) (hhigh : w.editor.cursor.row < w.editor.lines.length) :
    ∃ w', formatAll o w = .ok () w' ∧ w'.editor.Open ∧
      Settled o.margin o.toStyle w'.editor.lines w'.editor.cursor := by
  obtain ⟨w', hformat, hopen, hlines, hplace, -⟩ := formatAll_relaid hm h hlow hhigh
  refine ⟨w', hformat, hopen, ?_⟩
  rw [hlines]
  exact hplace.settled hm

/-- In a run, the layout of the table under the cursor puts the cursor where the layout of this
block does. -/
theorem format_placeAfter {w : Workspace} (h : w.editor.Open) {above block below : List Text}
    (hlines : w.editor.lines = above ++ block ++ below) (hrun : Run o.margin above block below)
    (hlow : (above.length : Int) ≤ w.editor.cursor.row)
    (hhigh : w.editor.cursor.row < (above.length + block.length : Nat)) :
    ∃ w', run o .format w = .ok () w' ∧
      w'.editor.cursor = placeAfter o above.length block w.editor.cursor := by
  obtain ⟨f, hf, hblock⟩ := block?_run h.accepts hlines hrun hlow hhigh
  obtain ⟨e', hcarry, -, -, hcursor⟩ := h.begun.placed (carryOut_cell o
    ⟨_, .cell (f.completed (Table.ofLines o.margin block)) _ false false, .forget⟩ rfl rfl hlines
      (b := ⟨above.length, block, Table.ofLines o.margin block, f⟩))
  refine ⟨_, run_of_carryOut (c := .format) hblock rfl hcarry, hcursor.trans ?_⟩
  simp only [placeAfter, hf]
  rfl

/-- In an editor that accepts every row and refuses nothing, with the cursor on a row of the
document, the layout of all tables succeeds in one transaction and leaves the layout of the
document. A cursor on a line of no table keeps its line and its column. In a table, the cursor goes
where the layout of this table alone would put it, as many rows further down as the lines above the
table have gained. When all tables are laid out once more, no modification is made, and the lines
and the cursor stay. -/
theorem formatAll_layout (o : Options) (hm : o.margin.Simple) (w : Workspace)
    (haccepts : w.editor.rejected = []) (hpermits : w.editor.refused = none)
    (hlow : 0 ≤ w.editor.cursor.row) (hhigh : w.editor.cursor.row < w.editor.lines.length) :
    ∃ w', formatAll o w = .ok () w' ∧
      w'.editor.transactions = w.editor.transactions + 1 ∧
      w'.editor.lines = relaidAll o w.editor.lines ∧
      ((∃ above line below, w.editor.lines = above ++ line :: below ∧
          w.editor.cursor.row = above.length ∧ o.margin.isTableLine line = false ∧
          w'.editor.lines = relaidAll o above ++ line :: relaidAll o below ∧
          w'.editor.cursor = ⟨(relaidAll o above).length, w.editor.cursor.column⟩) ∨
        ∃ above block below w₁, w.editor.Around o.margin above block below ∧
          w'.editor.lines = relaidAll o above ++ relaid o block ++ relaidAll o below ∧
          run o .format w = .ok () w₁ ∧
          w'.editor.cursor = w₁.editor.cursor.down (gained o above)) ∧
      ∃ w'', formatAll o w' = .ok () w'' ∧ w''.editor.log = w'.editor.log ∧
        w''.editor.lines = w'.editor.lines ∧ w''.editor.cursor = w'.editor.cursor := by
  have hopen : w.editor.Open := ⟨haccepts, hpermits⟩
  obtain ⟨w', hformat, hopen', hlines, hplace, htransactions, -⟩ :=
    formatAll_relaid hm hopen hlow hhigh
  refine ⟨w', hformat, htransactions, hlines, ?_, ?_⟩
  · cases hplace with
    | aside above line below hsplit hrow hoff hcursor =>
      refine Or.inl ⟨above, line, below, hsplit, hrow, hoff, ?_, ?_⟩
      · rw [hlines, hsplit, relaidAll_aside hoff]
      · rw [hcursor, Position.down, hrow, gained]
        congr 1
        omega
    | inside above block below hsplit hrun hlow' hhigh' hcursor =>
      have hne : block ≠ [] := List.length_pos_iff.mp (by omega)
      obtain ⟨w₁, hformat₁, hcursor₁⟩ := format_placeAfter hopen hsplit hrun hlow' hhigh'
      refine Or.inr ⟨above, block, below, w₁,
        around_run haccepts hsplit hrun hlow' hhigh', ?_, hformat₁, ?_⟩
      · rw [hlines, hsplit, relaidAll_run hrun hne]
      · rw [hcursor, hcursor₁]
  · have hsettled := hplace.settled hm
    rw [← hlines] at hsettled
    have hrow := hsettled.row
    obtain ⟨w'', hformat', -, hlines', hplace', -, hlog⟩ :=
      formatAll_relaid hm hopen' hrow.1 hrow.2
    have hstays : relaidAll o w'.editor.lines = w'.editor.lines := by
      rw [hlines, relaidAll_relaidAll hm]
    refine ⟨w'', hformat', hlog hstays, hlines'.trans hstays, ?_⟩
    -- nothing above the cursor gains a row any more
    cases hplace' with
    | aside above line below hsplit _ hoff hcursor =>
      rw [hsplit] at hstays
      simp [hcursor, gained, relaidAll_above hoff hstays]
    | inside above block below hsplit hrun hlow' hhigh' hcursor =>
      have hne : block ≠ [] := List.length_pos_iff.mp (by omega)
      obtain ⟨w₁, hformat₁, hcursor₁⟩ := format_placeAfter hopen' hsplit hrun hlow' hhigh'
      obtain ⟨w₂, hformat₂, -, hcursor₂, -⟩ := format_settled hm hopen' hsettled w'.session
      obtain ⟨-, rfl⟩ := EStateM.Result.ok.inj (hformat₁.symm.trans hformat₂)
      rw [hsplit] at hstays
      rw [hcursor, gained, (relaid_of_relaidAll hrun hne hstays).1, Int.sub_self,
        Position.down_zero, ← hcursor₁, hcursor₂]

/-- Two tables without delimiter rows, with the cursor in the lower one. -/
theorem formatAll_layout_two_tables :
    ∃ w', formatAll { formatType := .weak }
        ⟨{ lines := ["|a".toList, [], "|b|c".toList, "|d".toList, ['z']]
           cursor := ⟨3, 1⟩ }, none⟩ = .ok () w' ∧
      w'.editor.transactions = 1 ∧
      w'.editor.lines = ["| a |".toList, "| --- |".toList, [], "| b | c |".toList,
        "| --- | --- |".toList, "| d |  |".toList, ['z']] ∧
      ∃ w'', formatAll { formatType := .weak } w' = .ok () w'' ∧
        w''.editor.log = w'.editor.log ∧ w''.editor.lines = w'.editor.lines ∧
        w''.editor.cursor = w'.editor.cursor := by
  obtain ⟨w', hformat, htransactions, hlines, -, hagain⟩ :=
    formatAll_layout { formatType := .weak } (by unfold Margin.Simple; decide)
      ⟨{ lines := ["|a".toList, [], "|b|c".toList, "|d".toList, ['z']], cursor := ⟨3, 1⟩ }, none⟩
      rfl rfl (by decide) (by decide)
  exact ⟨w', hformat, htransactions, hlines.trans (by decide), hagain⟩

end Workspace

end TextTable
