import TextTable.Proofs.Editor.FormatAll
import TextTable.Proofs.Editor.Request
import TextTable.Proofs.Editor.Shows
import TextTable.Proofs.Table.Places

/-!
# The cursor keeps its place in the text

Requests that lay out a table, align a column, or move a row or a column leave every content as it
is (`Plan.Carries`). So a cursor in a cell of text can keep its place between the same two parts of
the content (`Between`), wherever the cell is then, and however much space the layout puts around
the content. On its way the place is told as an offset twice: in the cell as it was read, and in the
cell as it is written (`offsetAfter_kept`).

Each of these requests has a plan that carries the cell along (`exists_carries`), and carrying out
such a plan keeps the place (`carryOut_between`).
-/

namespace TextTable

/-! ## Contents cell by cell -/

namespace Table

variable {s : Style} {t : Table} {i j : Nat} {r : Row} {c : Cell}

/-- In a layout, a cell of text has its content where it was. -/
theorem Complete.exists_cell_format (hs : 0 < s.minDelimiterWidth) (ht : t.Complete) (hi : i ≠ 1)
    (hr : t.rows[i]? = some r) (hc : r.cells[j]? = some c) :
    ∃ r' c', (t.format s).rows[i]? = some r' ∧ r'.cells[j]? = some c' ∧
      c'.content = c.content := by
  obtain ⟨r', hr', hcontents⟩ := ht.exists_row_format hs hi hr
  have hcell : (r'.cells[j]?).map Cell.content = some c.content := by
    rw [← List.getElem?_map, ← Row.contents, hcontents, Row.contents, List.getElem?_map, hc,
      Option.map_some]
  obtain ⟨c', hc', hcontent⟩ := Option.map_eq_some_iff.mp hcell
  exact ⟨r', c', hr', hc', hcontent⟩

/-- With the same content in the cell before and after, the place in the content is the same. -/
theorem offsetAfter_kept {f : Focus} {before after : Table} {c' : Cell}
    (hb : before.focusedCell? f = some c) (ha : after.focusedCell? f = some c')
    (hcontent : c'.content = c.content) :
    offsetAfter f before after false = c'.rawOffset (c.contentOffset f.offset) := by
  have hle : c.contentOffset f.offset ≤ c'.content.length := by
    rw [hcontent]
    exact c.contentOffset_le _
  simp only [offsetAfter, ha, hb]
  rw [Int.min_eq_left (Int.ofNat_le.mpr hle)]

end Table

/-! ## Requests that keep the cursor at its place -/

/-- What a request makes of a grid, and the focus where the cell of the focus `f` is then, for the
requests that leave the cursor in its cell. -/
def Request.takes? (g : Grid) (f : Focus) : Request → Option (Grid × Focus)
  | .command .format | .formatAll => some (g, f)
  | .command (.alignColumn a) => some (aligned a)
  | .alignNamed name => (Alignment.ofName? name).map aligned
  | .command (.moveRow rows) =>
    if 2 ≤ f.row then
      let row := min (max (f.row + rows) 2) ((g.height : Int) - 1)
      some (g.moveRow (f.row - 2).toNat (row - 2).toNat, f.withRow row)
    else some (g, f)
  | .command (.moveColumn columns) =>
    if 0 ≤ f.column ∧ f.column < g.header.length then
      let column := min (max (f.column + columns) 0) ((g.header.length : Int) - 1)
      some (g.moveColumn f.column.toNat column.toNat, f.withColumn column)
    else some (g, f)
  | _ => none
where
  aligned (a : Alignment) : Grid × Focus :=
    (if 0 ≤ f.column ∧ f.column < g.header.length then g.setAlignment f.column.toNat a else g, f)

/-- The plan makes a complete table that says `g` and has the cell `c` at `target`. The cursor is
sent there to keep its place in this cell. -/
structure Plan.Carries (g : Grid) (target : Focus) (c : Cell) (p : Plan) : Prop where
  complete : p.table.Complete
  grid : p.table.grid = g
  cell : p.table.focusedCell? target = some c
  text : target.row ≠ 1
  landing : ∃ basis, p.landing = .cell target basis false false ∧
    basis.focusedCell? target = some c

/-- What is written for a plan has the grid of the plan. -/
theorem Plan.Carries.grid_written {p : Plan} {g : Grid} {target : Focus} {c : Cell}
    (hp : p.Carries g target c) (o : Options) : (p.written o).grid = g :=
  (hp.complete.grid_format o.minDelimiterWidth_pos).trans hp.grid

@[simp]
theorem Focus.offset_completed (f : Focus) (t : Table) : (f.completed t).offset = f.offset := by
  rw [completed]
  split <;> rfl

/-- The place in the cell is told by the same offset. -/
theorem Request.takes?_offset {r : Request} {g g' : Grid} {f target : Focus}
    (h : r.takes? g f = some (g', target)) : target.offset = f.offset := by
  cases r with
  | command cmd =>
    cases cmd with
    | format | alignColumn a =>
      cases h
      rfl
    | moveRow rows | moveColumn columns =>
      simp only [takes?] at h
      split at h
      · cases h
        rfl
      · cases h
        rfl
    | _ => cases h
  | alignNamed name =>
    obtain ⟨a, -, ha⟩ := Option.map_eq_some_iff.mp h
    cases ha
    rfl
  | formatAll =>
    cases h
    rfl

namespace Command

variable {o : Options} {t : Table} {f target : Focus} {g : Grid} {c : Cell}

/-- The table stays as it is, and the cursor in its cell. -/
theorem carries_stay (ht : t.Complete) (hc : t.focusedCell? f = some c) (hf : f.row ≠ 1) :
    Plan.Carries t.grid f c ⟨t, .cell f t false false, .forget⟩ :=
  ⟨ht, rfl, hc, hf, t, rfl, hc⟩

/-- The alignment of a column is set, which changes no cell of text. -/
theorem carries_alignColumn (ht : t.Sound o.margin) (hc : t.focusedCell? f = some c)
    (hf : f.row ≠ 1) (a : Alignment) :
    Plan.Carries (Request.takes?.aligned t.grid f a).1 f c
      ⟨t.setAlignment o.toStyle f.column a, .cell f t false false, .forget⟩ := by
  obtain ⟨hsound, -, hgrid⟩ := ht.setAlignment o.minDelimiterWidth_pos f.column a
  rw [Table.headerWidth_eq] at hgrid
  refine ⟨hsound.complete, hgrid, ?_, hf, t, rfl, hc⟩
  rw [Table.focusedCell?, Table.cell?, Table.row?_setAlignment _ _ _ _ hf]
  exact hc

/-- A row of the body is moved, and its cells with it. -/
theorem exists_carries_moveRow (ht : t.Sound o.margin) (hc : t.focusedCell? f = some c)
    (hf : f.row ≠ 1) (rows : Int)
    (htakes : (Request.command (.moveRow rows)).takes? t.grid f = some (g, target)) :
    ∃ p, planMoveRow t f rows = .ok p ∧ p.Carries g target c := by
  simp only [Request.takes?, ← ht.complete.height_eq] at htakes
  simp only [planMoveRow]
  split
  · next hbody =>
    rw [if_pos (by omega)] at htakes
    cases htakes
    obtain ⟨i, j, r, hi, -, hr, -⟩ := Table.exists_of_focusedCell? hc
    have hlt : f.row < t.height := by
      rw [hi]
      exact Int.ofNat_lt.mpr (List.getElem?_eq_some_iff.mp hr).1
    have hge : 1 < min (max (f.row + rows) 2) ((t.height : Int) - 1) := by omega
    have hle : min (max (f.row + rows) 2) ((t.height : Int) - 1) < t.height := by omega
    obtain ⟨t', hok, hsound, -, hgrid⟩ := ht.moveRow hbody hlt hge hle
    have hcell : t'.focusedCell? (f.withRow (min (max (f.row + rows) 2) ((t.height : Int) - 1))) =
        some c := by
      simp only [Table.focusedCell?, Table.cell?, Focus.withRow,
        Table.row?_moveRow hbody hlt hge hle hok]
      exact hc
    rw [hok]
    exact ⟨_, rfl, hsound.complete, hgrid, hcell, Int.ne_of_gt hge, t', rfl, hcell⟩
  · next hbody =>
    rw [if_neg (by omega)] at htakes
    cases htakes
    exact ⟨_, rfl, carries_stay ht.complete hc hf⟩

/-- A column of the header is moved, and its cells with it. -/
theorem exists_carries_moveColumn (ht : t.Complete) (hc : t.focusedCell? f = some c)
    (hf : f.row ≠ 1) (columns : Int)
    (htakes : (Request.command (.moveColumn columns)).takes? t.grid f = some (g, target)) :
    ∃ p, planMoveColumn t f columns = .ok p ∧ p.Carries g target c := by
  simp only [Request.takes?, ← Table.headerWidth_eq] at htakes
  simp only [planMoveColumn]
  split
  · next hin =>
    rw [inHeader_iff, ← Table.headerWidth_eq] at hin
    rw [if_pos hin] at htakes
    cases htakes
    have hge : 0 ≤ min (max (f.column + columns) 0) ((t.headerWidth : Int) - 1) := by omega
    have hle : min (max (f.column + columns) 0) ((t.headerWidth : Int) - 1) < t.headerWidth := by
      omega
    obtain ⟨t', hok, hcomplete, -, -, hgrid⟩ := ht.moveColumn hin.1 hin.2 hge hle
    have hcell : t'.focusedCell?
        (f.withColumn (min (max (f.column + columns) 0) ((t.headerWidth : Int) - 1))) = some c :=
      (ht.cell?_moveColumn hin.1 hin.2 hge hle hok f.row).trans hc
    rw [hok]
    exact ⟨_, rfl, hcomplete, hgrid, hcell, hf, t', rfl, hcell⟩
  · next hin =>
    rw [inHeader_iff, ← Table.headerWidth_eq] at hin
    rw [if_neg hin] at htakes
    cases htakes
    exact ⟨_, rfl, carries_stay ht hc hf⟩

/-- A command that keeps the cursor at its place has a plan that carries the cell along. -/
theorem exists_carries (ht : t.Sound o.margin) (hc : t.focusedCell? f = some c)
    (hf : f.row ≠ 1) (s : Option Session) {cmd : Command}
    (htakes : (Request.command cmd).takes? t.grid f = some (g, target)) :
    ∃ p, cmd.plan o s t f = .ok p ∧ p.Carries g target c := by
  cases cmd with
  | format =>
    cases htakes
    exact ⟨_, rfl, carries_stay ht.complete hc hf⟩
  | alignColumn a =>
    cases htakes
    exact ⟨_, rfl, carries_alignColumn ht hc hf a⟩
  | moveRow rows => exact exists_carries_moveRow ht hc hf rows htakes
  | moveColumn columns => exact exists_carries_moveColumn ht.complete hc hf columns htakes
  | _ => cases htakes

end Command

namespace Editor

variable {o : Options} {e e' : Editor} {above block below : List Text} {t : Table} {b : Block}
  {f target : Focus} {g : Grid} {c : Cell} {p : Plan}

/-! ## Between two parts of a content -/

/-- The table `t` is written between the lines `above` and `below`, and the cursor is in the content
of the cell of `f`, with the part `left` of it before the cursor and `right` behind. -/
structure Between (e : Editor) (above : List Text) (t : Table) (below : List Text) (f : Focus)
    (left right : Text) : Prop where
  lines : e.lines = above ++ t.lines ++ below
  place : ∃ (i j : Nat) (r : Row) (c : Cell) (before behind : Text),
    f.row = i ∧ f.column = j ∧ t.rows[i]? = some r ∧ r.cells[j]? = some c ∧
      c.content = left ++ right ∧ r.text = before ++ left ++ right ++ behind ∧
      before.length = r.columnStart j + c.paddingLeft ∧
      e.cursor = ⟨above.length + i, (before ++ left).length⟩

/-- In the table, the cursor is where an offset into the content is. -/
theorem between_of_cursor {i j q : Nat} {r : Row} {x : Int}
    (hlines : e.lines = above ++ t.lines ++ below) (hr : t.rows[i]? = some r)
    (hc : r.cells[j]? = some c) (hq : q ≤ c.content.length)
    (hcursor : t.positionOf? ⟨i, j, c.rawOffset q⟩ above.length = some e.cursor) :
    e.Between above t below ⟨i, j, x⟩ (c.content.take q) (c.content.drop q) := by
  obtain ⟨before, behind, htext, hbefore⟩ := Row.exists_text_content hc
  refine ⟨hlines, i, j, r, c, before, behind, rfl, rfl, hr, hc, ?_, ?_, hbefore, ?_⟩
  · exact (List.take_append_drop q c.content).symm
  · rw [htext, List.append_assoc before (c.content.take q), List.take_append_drop]
  · rw [Table.positionOf?_screenColumn hr, Row.screenColumn_natCast, Cell.rawOffset] at hcursor
    rw [← Option.some.inj hcursor, List.length_append, List.length_take, Nat.min_eq_left hq, hbefore]
    congr 1
    · omega
    · push_cast
      omega

/-- The lines above the table may be others. -/
theorem Between.down {left right : Text} (h : e.Between above t below f left right)
    {above' below' : List Text} (hlines : e'.lines = above' ++ t.lines ++ below')
    (hcursor : e'.cursor = e.cursor.down ((above'.length : Int) - above.length)) :
    e'.Between above' t below' f left right := by
  obtain ⟨-, i, j, r, c, before, behind, hi, hj, hr, hc, hcontent, htext, hbefore, hplace⟩ := h
  refine ⟨hlines, i, j, r, c, before, behind, hi, hj, hr, hc, hcontent, htext, hbefore, ?_⟩
  rw [hcursor, hplace, Position.down]
  congr 1
  dsimp only
  omega

/-- A plan that carries a cell along keeps the cursor at its place in the content. -/
theorem carryOut_between (h : e.Open) (he : e.lines = above ++ b.lines ++ below)
    (hfirst : b.first = above.length) (hp : p.Carries g target c) :
    ∃ e', p.carryOut o b e = .ok () e' ∧
      e'.Between above (p.written o) below target
        (c.content.take (c.contentOffset target.offset))
        (c.content.drop (c.contentOffset target.offset)) := by
  obtain ⟨hcomplete, -, hcell, htext, basis, hlanding, hbasis⟩ := hp
  obtain ⟨row, column, x⟩ := target
  obtain ⟨i, j, r, rfl, rfl, hr, hc⟩ := Table.exists_of_focusedCell? hcell
  obtain ⟨r', c', hr', hc', hcontent⟩ := hcomplete.exists_cell_format (s := o.toStyle)
    o.minDelimiterWidth_pos (fun hi => htext (congrArg Nat.cast hi)) hr hc
  have hwritten : (p.written o).focusedCell? ⟨i, j, x⟩ = some c' :=
    (Table.focusedCell?_eq hr' _ _).trans ((Row.cell?_natCast _ _).trans hc')
  have hq : c.contentOffset x ≤ c'.content.length := by
    rw [hcontent]
    exact c.contentOffset_le _
  have hfocus : p.landing.focus? (p.written o) =
      some ⟨i, j, c'.rawOffset (c.contentOffset x)⟩ := by
    rw [hlanding, ← Table.offsetAfter_kept hbasis hwritten hcontent]
    rfl
  have hselected : p.landing.selected = false := by
    rw [hlanding]
    rfl
  obtain ⟨e', hcarry, -, hlines, hcursor⟩ := h.placed (carryOut_cell o p hfocus hfirst he)
  refine ⟨e', hcarry, ?_⟩
  have hposition : (p.written o).positionOf? ⟨i, j, c'.rawOffset (c.contentOffset x)⟩ above.length =
    _ := Table.positionOf?_screenColumn hr' _ _ _
  rw [hselected, Table.spot, if_neg Bool.false_ne_true, hposition] at hcursor
  rw [← hcontent]
  exact between_of_cursor hlines hr' hc' hq (hposition.trans (congrArg some hcursor.symm))

end Editor

/-- The lines around a table once a request is done with the table: the tables among them are laid
out if this is what was asked for. -/
def Request.around (o : Options) (lines : List Text) : Request → List Text
  | .formatAll => Editor.relaidAll o lines
  | _ => lines

namespace Workspace

open Editor

variable {o : Options} {w : Workspace} {above below : List Text} {b : Block} {f target : Focus}
  {g : Grid} {c : Cell}

/-! ## Requests -/

/-- A command that carries the cell of the cursor along keeps the cursor at its place. -/
theorem run_between (h : w.editor.Open) (hb : w.editor.block? o.margin = .ok (some b))
    (hlines : w.editor.lines = above ++ b.lines ++ below) (hfirst : b.first = above.length)
    (cmd : Command) {p : Plan}
    (hplan : cmd.plan o (if cmd.checksSession then Session.check w.session b.start b.focus
      else w.session) (b.table.complete o.toStyle) (b.focus.completed b.table) = .ok p)
    (hp : p.Carries g target c) :
    ∃ w', run o cmd w = .ok () w' ∧
      w'.editor.Between above (p.written o) below target
        (c.content.take (c.contentOffset target.offset))
        (c.content.drop (c.contentOffset target.offset)) := by
  obtain ⟨e', hcarry, hbetween⟩ := carryOut_between h.begun hlines hfirst hp
  exact ⟨_, run_of_carryOut hb hplan hcarry, hbetween⟩

/-- So does the layout of all tables, between the layouts of what is above and below the table. -/
theorem formatAll_between (hm : o.margin.Simple) (h : w.editor.Open)
    (hlow : 0 ≤ w.editor.cursor.row) (hb : w.editor.block? o.margin = .ok (some b))
    (hp : Plan.Carries g f c ⟨b.table.complete o.toStyle,
      .cell (b.focus.completed b.table) (b.table.complete o.toStyle) false false, .forget⟩) :
    ∃ w' above below, w.editor.lines = above ++ b.lines ++ below ∧ b.first = above.length ∧
      formatAll o w = .ok () w' ∧
      w'.editor.Between (relaidAll o above) ((b.table.complete o.toStyle).format o.toStyle)
        (relaidAll o below) f (c.content.take (c.contentOffset f.offset))
        (c.content.drop (c.contentOffset f.offset)) := by
  obtain ⟨k, line, hk, hline, htable⟩ := exists_line_of_cursorInTable hlow (block?_found hb).1
  have hhigh : w.editor.cursor.row < w.editor.lines.length := by
    rw [hk]
    exact Int.ofNat_lt.mpr (List.getElem?_eq_some_iff.mp hline).1
  obtain ⟨w', hformat, -, hlines', hplace, -⟩ := formatAll_relaid hm h hlow hhigh
  cases hplace with
  | aside above line' below hlines hrow hoff _ =>
    -- the cursor is on a table line, and this one is none
    obtain rfl : k = above.length := Int.ofNat_inj.mp (hk.symm.trans hrow)
    rw [hlines, List.getElem?_append_right (Nat.le_refl _), Nat.sub_self] at hline
    obtain rfl : line' = line := Option.some.inj hline
    exact absurd (hoff.symm.trans htable) Bool.false_ne_true
  | inside above block below hlines hrun hlow' hhigh' hcursor =>
    obtain ⟨f₀, -, hblock⟩ := block?_run h.accepts hlines hrun hlow' hhigh'
    obtain rfl := Option.some.inj (Except.ok.inj (hb.symm.trans hblock))
    have hne : block ≠ [] := List.length_pos_iff.mp (by omega)
    obtain ⟨w₁, hrun₁, hbetween⟩ := run_between h hb hlines rfl .format rfl hp
    obtain ⟨w₂, hrun₂, hcursor₂⟩ := format_placeAfter h hlines hrun hlow' hhigh'
    obtain ⟨-, rfl⟩ := EStateM.Result.ok.inj (hrun₁.symm.trans hrun₂)
    refine ⟨w', above, below, hlines, rfl, hformat, hbetween.down ?_ ?_⟩
    · rw [hlines', hlines, relaidAll_run hrun hne]
      rfl
    · rw [hcursor, hcursor₂, gained]

/-- A cursor in a cell of text keeps its place in the content, whichever of these requests is made.
The request succeeds, and the written table says what the request makes of the grid. The cursor is
in the line and the cell that its cell was taken to, behind the same part of the content and before
the same rest. -/
theorem request_keeps_place (o : Options) (hm : o.margin.Simple) (w : Workspace)
    (haccepts : w.editor.rejected = []) (hpermits : w.editor.refused = none)
    (hlow : 0 ≤ w.editor.cursor.row) {b : Block}
    (hb : w.editor.block? o.margin = .ok (some b)) {c : Cell}
    (hc : (b.table.complete o.toStyle).focusedCell? (b.focus.completed b.table) = some c)
    (htext : (b.focus.completed b.table).row ≠ 1) {r : Request} {g : Grid} {target : Focus}
    (hr : r.takes? (b.table.complete o.toStyle).grid (b.focus.completed b.table) =
      some (g, target)) :
    ∃ w' above below t, w.editor.lines = above ++ b.lines ++ below ∧ b.first = above.length ∧
      r.run o w = .ok () w' ∧ t.grid = g ∧
      w'.editor.Between (r.around o above) t (r.around o below) target
        (c.content.take (c.contentOffset b.focus.offset))
        (c.content.drop (c.contentOffset b.focus.offset)) := by
  have hopen : w.editor.Open := ⟨haccepts, hpermits⟩
  obtain ⟨above, block, below, f₀, hshown⟩ :=
    Shows.exists_shownBy hm hopen ⟨hlow, b, hb, rfl, rfl⟩
  obtain rfl := Option.some.inj (Except.ok.inj (hb.symm.trans hshown.found))
  rw [← Focus.offset_completed f₀ (Table.ofLines o.margin block), ← Request.takes?_offset hr]
  have hcommand : ∀ cmd : Command, (Request.command cmd).takes? _ _ = some (g, target) →
      ∃ w' t, run o cmd w = .ok () w' ∧ t.grid = g ∧
        w'.editor.Between above t below target (c.content.take (c.contentOffset target.offset))
          (c.content.drop (c.contentOffset target.offset)) := fun cmd hcmd => by
    obtain ⟨p, hplan, hp⟩ := Command.exists_carries hshown.sound hc htext _ hcmd
    obtain ⟨w', hrun, hbetween⟩ := run_between hopen hb hshown.lines rfl cmd hplan hp
    exact ⟨w', p.written o, hrun, hp.grid_written o, hbetween⟩
  cases r with
  | command cmd =>
    obtain ⟨w', t, hrun, hgrid, hbetween⟩ := hcommand cmd hr
    exact ⟨w', above, below, t, hshown.lines, rfl, hrun, hgrid, hbetween⟩
  | alignNamed name =>
    obtain ⟨a, hname, ha⟩ := Option.map_eq_some_iff.mp hr
    obtain ⟨w', t, hrun, hgrid, hbetween⟩ := hcommand (.alignColumn a) (congrArg some ha)
    rw [run_alignNamed o hname]
    exact ⟨w', above, below, t, hshown.lines, rfl, hrun, hgrid, hbetween⟩
  | formatAll =>
    cases hr
    have hp := Command.carries_stay hshown.sound.complete hc htext
    obtain ⟨w', above, below, hlines, hfirst, hrun, hbetween⟩ :=
      formatAll_between hm hopen hlow hb hp
    exact ⟨w', above, below, _, hlines, hfirst, hrun, hp.grid_written o, hbetween⟩

/-- A row without a second cell is moved down, with the cursor between its two letters. -/
theorem request_keeps_place_moved_row :
    ∃ w' above below t,
      ["|a|b".toList, "|  xy |".toList, "|z".toList] =
        above ++ ["|a|b".toList, "|  xy |".toList, "|z".toList] ++ below ∧
      (0 : Int) = above.length ∧
      (Request.command (.moveRow 1)).run { formatType := .weak }
        ⟨{ lines := ["|a|b".toList, "|  xy |".toList, "|z".toList], cursor := ⟨1, 4⟩ }, none⟩ =
          .ok () w' ∧
      t.grid = ⟨[['a'], ['b']], [none, none], [[['z'], []], [['x', 'y'], []]]⟩ ∧
      w'.editor.Between above t below ⟨3, 0, 3⟩ ['x'] ['y'] :=
  request_keeps_place { formatType := .weak } (by unfold Margin.Simple; decide)
    ⟨{ lines := ["|a|b".toList, "|  xy |".toList, "|z".toList], cursor := ⟨1, 4⟩ }, none⟩ rfl rfl
    (by decide) (b := ⟨0, ["|a|b".toList, "|  xy |".toList, "|z".toList],
      Table.ofLines ⟨[]⟩ ["|a|b".toList, "|  xy |".toList, "|z".toList], ⟨1, 0, 3⟩⟩)
    (c := ⟨"  xy ".toList⟩) (r := .command (.moveRow 1)) rfl (by decide) (by decide) (by decide)

end Workspace

end TextTable
