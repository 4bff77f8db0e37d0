import TextTable.Proofs.Row.Parts
import TextTable.Proofs.Row.Reading

/-!
# Table lines that are read and written again

A table line is read as a row whose margin is all that stands before the first pipe (`ofLine_eq`).
The row is written as the same line if nothing but blanks stands behind its last pipe (`EndsBlank`),
and otherwise as the line with one more pipe, which closes the last cell (`text_ofLine`). Read once
more, the closed line gives the same row, unless a backslash at the end of the line takes the pipe
in (`ofLine_concat_pipe_iff`).
-/

namespace TextTable

open Unicode (isBlank)

namespace Row

/-! ## Right margins -/

/-- There are several parts, and the last one is blank: it is a right margin. -/
def EndsBlank (ps : List Text) : Prop := 1 < ps.length ∧ ∃ p ∈ ps.getLast?, Text.Blank p

instance : DecidablePred EndsBlank := fun ps =>
  decidable_of_iff (1 < ps.length ∧ (ps.getLast?.any fun p => p.all isBlank) = true) <|
    and_congr_right fun _ => (Option.any_eq_true ..).trans <|
      exists_congr fun _ => and_congr_right fun _ => List.all_eq_true

variable {m : Margin} {line l : Text} {ps ts : List Text} {p : Text}

/-- The part behind the last pipe decides. -/
theorem endsBlank_concat : EndsBlank (ts ++ [p]) ↔ ts ≠ [] ∧ Text.Blank p := by
  rw [EndsBlank, List.getLast?_concat, List.length_append, List.length_singleton,
    ← List.length_pos_iff]
  simp

/-- A blank part at the end is margin. -/
theorem separateEnd_of_endsBlank (h : EndsBlank (ts ++ [p])) :
    separateEnd (ts ++ [p]) = (ts, p) := by
  have hlen : 1 < (ts ++ [p]).length ∧ p.all isBlank = true :=
    ⟨h.1, List.all_eq_true.mpr (endsBlank_concat.mp h).2⟩
  simp only [separateEnd, List.getLast?_concat, if_pos hlen, List.dropLast_concat]

/-- A part that is not blank is a cell. -/
theorem separateEnd_of_not_endsBlank (h : ¬EndsBlank (ts ++ [p])) :
    separateEnd (ts ++ [p]) = (ts ++ [p], []) := by
  have hlen : ¬(1 < (ts ++ [p]).length ∧ p.all isBlank = true) := by
    rintro ⟨hlen, hblank⟩
    exact h ⟨hlen, p, List.getLast?_concat, List.all_eq_true.mp hblank⟩
  simp only [separateEnd, List.getLast?_concat, if_neg hlen]

/-! ## Rows made of parts -/

/-- A line whose first part is a margin is read from the parts behind it. -/
theorem ofLine_eq (hl : ∀ c ∈ l, m.contains c = true) (h : parts line = l :: ps) :
    Row.ofLine m line = ⟨(separateEnd ps).1.map Cell.mk, l, (separateEnd ps).2⟩ := by
  rw [ofLine, h, Margin.separate, if_pos (List.all_eq_true.mpr hl)]

@[simp] theorem cellsText_map_mk (ts : List Text) : cellsText (ts.map Cell.mk) = piped ts :=
  List.flatMap_map ..

theorem text_map_mk (hts : ts ≠ []) (l p : Text) :
    Row.text ⟨ts.map Cell.mk, l, p⟩ = l ++ '|' :: piped ts ++ p := by
  have hcells : ts.map Cell.mk ≠ [] := by simpa using hts
  simp [text, hcells]

/-- Before the first pipe of a table line is its margin, and behind it are the other parts. -/
theorem exists_parts_eq_cons (hm : m.Simple) (h : m.isTableLine line = true) :
    ∃ l ts p, (∀ c ∈ l, m.contains c = true) ∧ Text.Plain l ∧ parts line = l :: (ts ++ [p]) ∧
      line = l ++ '|' :: (piped ts ++ p) := by
  obtain ⟨l, r, rfl, hl⟩ := Margin.isTableLine_iff.mp h
  obtain ⟨ts, p, hr⟩ := exists_parts_eq_concat r
  refine ⟨l, ts, p, hl, hm.plain hl, ?_, ?_⟩
  · rw [parts_plain_append_pipe (hm.plain hl), hr]
  · rw [← eq_piped_of_parts hr]

/-- A margin ends before the first pipe. -/
theorem takeWhile_plain (hl : Text.Plain l) (r : Text) :
    (l ++ '|' :: r).takeWhile (· ≠ '|') = l := by
  have hne : ∀ c ∈ l, decide (c ≠ '|') = true := fun c hc =>
    decide_eq_true fun h => hl.pipe (h ▸ hc)
  rw [List.takeWhile_append_of_pos hne, List.takeWhile_cons_of_neg (by decide), List.append_nil]

/-! ## Reading and writing -/

/-- A line with a right margin is written as it was read, and any other one gets a pipe more. -/
theorem text_ofLine (hl : ∀ c ∈ l, m.contains c = true) (h : parts line = l :: (ts ++ [p]))
    (hline : line = l ++ '|' :: (piped ts ++ p)) :
    (Row.ofLine m line).text = if EndsBlank (ts ++ [p]) then line else line ++ ['|'] := by
  rw [ofLine_eq hl h]
  split
  · next hends =>
    rw [separateEnd_of_endsBlank hends, text_map_mk (endsBlank_concat.mp hends).1, hline]
    simp
  · next hends =>
    rw [separateEnd_of_not_endsBlank hends, text_map_mk (by simp), hline, piped, piped,
      List.flatMap_append]
    simp

/-- A line without a right margin that is closed by a pipe is read as the same row, unless the pipe
is protected. -/
theorem ofLine_concat_pipe_iff (hl : ∀ c ∈ l, m.contains c = true) (hplain : Text.Plain l)
    (h : parts line = l :: (ts ++ [p])) (hends : ¬EndsBlank (ts ++ [p])) :
    Row.ofLine m (line ++ ['|']) = Row.ofLine m line ↔ endsUnpaired line = false := by
  have hread : Row.ofLine m line = ⟨(ts ++ [p]).map Cell.mk, l, []⟩ := by
    rw [ofLine_eq hl h, separateEnd_of_not_endsBlank hends]
  constructor
  · intro heq
    by_contra hunpaired
    obtain ⟨qs, q, hparts, hpipe⟩ := exists_parts_of_unpaired hunpaired
    -- the margin has no backslash, so the last part is one behind it
    cases qs with
    | nil =>
      obtain ⟨hlast, -⟩ := List.cons.inj (h.symm.trans hparts)
      exact hplain.backslash (hlast ▸ List.mem_append_right q (List.mem_singleton.mpr rfl))
    | cons l' qs =>
      rw [List.cons_append] at hparts hpipe
      obtain ⟨rfl, htail⟩ := List.cons.inj (h.symm.trans hparts)
      have hnot : ¬EndsBlank (qs ++ [q ++ ['\\', '|']]) := by
        rw [endsBlank_concat]
        exact fun hblank => absurd (hblank.2 '|' (by simp)) (by decide)
      rw [hread, ofLine_eq hl hpipe, separateEnd_of_not_endsBlank hnot, htail] at heq
      have hcells := congrArg Row.cells heq
      simp at hcells
  · intro hpaired
    have hpipe : parts (line ++ ['|']) = l :: (ts ++ [p] ++ [[]]) := by
      rw [(parts_concat_pipe_iff line).mpr hpaired, h, List.cons_append]
    rw [hread, ofLine_eq hl hpipe, separateEnd_append_nil (by simp)]

/-- A text whose last part is blank does not end in a backslash. -/
theorem not_endsUnpaired_of_endsBlank (h : parts line = l :: (ts ++ [p]))
    (hends : EndsBlank (ts ++ [p])) : endsUnpaired line = false := by
  by_contra hunpaired
  obtain ⟨qs, q, hparts, -⟩ := exists_parts_of_unpaired hunpaired
  have hlast := congrArg List.getLast? (h.symm.trans hparts)
  rw [← List.cons_append, List.getLast?_concat, List.getLast?_concat] at hlast
  obtain rfl := Option.some.inj hlast
  exact absurd ((endsBlank_concat.mp hends).2 '\\' (by simp)) (by decide)

/-- A table line is read as a row with cells, whose left margin is all that stands before the first
pipe. If there are several parts behind this pipe and the last one is blank, the row is written as
the line; otherwise it is written as the line with one more pipe. What is written is read as the
same row if and only if the line does not end in an unpaired backslash. -/
theorem ofLine_table_line (hm : m.Simple) (h : m.isTableLine line = true) :
    (Row.ofLine m line).cells ≠ [] ∧
      (Row.ofLine m line).marginLeft = line.takeWhile (· ≠ '|') ∧
      (∃ ps, parts line = (Row.ofLine m line).marginLeft :: ps ∧
        (Row.ofLine m line).text = if EndsBlank ps then line else line ++ ['|']) ∧
      (Row.ofLine m (Row.ofLine m line).text = Row.ofLine m line ↔ endsUnpaired line = false) := by
  have hcells := cells_ofLine_ne_nil hm h
  obtain ⟨l, ts, p, hl, hplain, hparts, hline⟩ := exists_parts_eq_cons hm h
  have hmargin : (Row.ofLine m line).marginLeft = l := by rw [ofLine_eq hl hparts]
  have htext := text_ofLine hl hparts hline
  refine ⟨hcells, ?_, ⟨ts ++ [p], ?_, htext⟩, ?_⟩
  · rw [hmargin, hline, takeWhile_plain hplain]
  · rw [hmargin, hparts]
  · rw [htext]
    split
    · next hends => exact iff_of_true rfl (not_endsUnpaired_of_endsBlank hparts hends)
    · next hends => exact ofLine_concat_pipe_iff hl hplain hparts hends

/-- Behind a quotation mark, a cell that holds a pipe in a span and one that ends in a backslash. -/
theorem ofLine_table_line_quoted :
    (Row.ofLine ⟨[['>']]⟩ "> |`a|b` |c\\".toList).marginLeft = "> ".toList ∧
      (Row.ofLine ⟨[['>']]⟩ "> |`a|b` |c\\".toList).text = "> |`a|b` |c\\|".toList ∧
      Row.ofLine ⟨[['>']]⟩ "> |`a|b` |c\\|".toList ≠
        Row.ofLine ⟨[['>']]⟩ "> |`a|b` |c\\".toList := by
  obtain ⟨-, hmargin, ⟨ps, hparts, htext⟩, hagain⟩ :=
    ofLine_table_line (m := ⟨[['>']]⟩) (by unfold Margin.Simple; decide)
      (by decide : Margin.isTableLine _ "> |`a|b` |c\\".toList = true)
  have hread : parts "> |`a|b` |c\\".toList =
      "> ".toList :: ["`a|b` ".toList, "c\\".toList] := rfl
  obtain rfl := (List.cons.inj (hparts.symm.trans hread)).2
  rw [if_neg (by decide)] at htext
  refine ⟨hmargin, htext, fun h => ?_⟩
  rw [htext] at hagain
  exact absurd (hagain.mp h) (by decide)

end Row

end TextTable
