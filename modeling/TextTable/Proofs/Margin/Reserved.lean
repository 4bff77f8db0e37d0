import TextTable.Options.Reader
import TextTable.Proofs.Margin.Pattern
import TextTable.Proofs.Row.Lines
import TextTable.Proofs.Table.Completion

/-!
# Reserved characters in margins

A pipe, a backslash and a backtick add nothing to a margin as texts of their own, but they come into
it as characters of longer texts (`contains_reserved_iff`). A backslash or a backtick in the margin
can protect a pipe that the line was taken for a table line by. It does no harm as long as the pipe
itself is in no margin: then what is protected is read as text of a cell. Where the margin has both,
a line can be all margin (`cells_ofLine_eq_nil_iff`), and a table whose header is such a line is
laid out as bare margins, whatever stands in its other rows (`rows_format_of_headerWidth`).

So contents are kept in every table exactly for the margins that are `Guarded`
(`contentsKept_lines_iff`): no longer text brings in a pipe, or none brings in a backslash or a
backtick.
-/

namespace TextTable

open Unicode (isBlank)

namespace Margin

variable {m : Margin} {line : Text}

/-! ## Characters of longer texts -/

/-- A reserved character is in the margin just when a longer text has it. -/
theorem contains_reserved_iff {d : Char} (hd : [d] ∈ reserved) :
    m.contains d = true ↔ ∃ t ∈ m.texts, d ∈ t ∧ t ≠ [d] := by
  have hblank : ∀ c, [c] ∈ reserved → isBlank c = false := by
    intro c hc
    simp only [reserved, List.mem_cons, List.cons.injEq, and_true, List.not_mem_nil,
      or_false] at hc
    rcases hc with rfl | rfl | rfl <;> decide
  rw [contains_iff, hblank d hd]
  simp only [Bool.false_eq_true, false_or]
  apply exists_congr
  intro t
  apply and_congr_right
  intro _
  constructor
  · rintro ⟨hpipe, hbackslash, hbacktick, hmem⟩
    refine ⟨hmem, ?_⟩
    rintro rfl
    simp_all [reserved]
  · rintro ⟨hmem, hne⟩
    refine ⟨?_, ?_, ?_, hmem⟩ <;> rintro rfl <;> simp_all

/-- The text before the first pipe of a table line is margin. -/
theorem contains_of_mem_takeWhile (h : m.isTableLine line = true) {d : Char}
    (hd : d ∈ line.takeWhile (· ≠ '|')) : m.contains d = true := by
  obtain ⟨l, r, rfl, hl⟩ := isTableLine_iff.mp h
  rw [List.takeWhile_append] at hd
  split at hd
  · rw [List.takeWhile_cons_of_neg (by simp), List.append_nil] at hd
    exact hl d hd
  · exact hl d ((List.takeWhile_sublist _).subset hd)

/-- A character is before the first pipe of no table line if and only if no text has it but as its
only character. -/
theorem before_pipe_iff {d : Char} (hd : d = '\\' ∨ d = '`') :
    (∀ line, m.isTableLine line = true → d ∉ line.takeWhile (· ≠ '|')) ↔
      ∀ t ∈ m.texts, d ∈ t → t = [d] := by
  have hreserved : [d] ∈ reserved := by
    rcases hd with rfl | rfl <;> decide
  have hne : d ≠ '|' := by
    rcases hd with rfl | rfl <;> decide
  constructor
  · intro h t ht hmem
    by_contra hlong
    have hcontains := (contains_reserved_iff hreserved).mpr ⟨t, ht, hmem, hlong⟩
    have hline : m.isTableLine [d, '|'] = true :=
      isTableLine_iff.mpr ⟨[d], [], rfl, by simpa using hcontains⟩
    exact h _ hline (by simp [hne])
  · intro h line hline hmem
    obtain ⟨t, ht, hin, hlong⟩ :=
      (contains_reserved_iff hreserved).mp (contains_of_mem_takeWhile hline hmem)
    exact hlong (h t ht hin)

/-- No longer text brings a pipe into the margin, or none brings in a character that protects. -/
def Guarded (m : Margin) : Prop :=
  (∀ t ∈ m.texts, '|' ∈ t → t = ['|']) ∨
    ∀ t ∈ m.texts, ∀ d ∈ ['\\', '`'], d ∈ t → t = [d]

/-- A margin is not guarded when it has a pipe and something that protects one. -/
theorem not_guarded_iff :
    ¬ m.Guarded ↔
      m.contains '|' = true ∧ (m.contains '\\' = true ∨ m.contains '`' = true) := by
  rw [contains_reserved_iff (by decide), contains_reserved_iff (by decide),
    contains_reserved_iff (by decide), Guarded]
  simp only [not_or, not_forall, exists_prop, List.mem_cons, List.not_mem_nil, or_false]
  apply and_congr_right
  intro _
  constructor
  · rintro ⟨t, ht, d, rfl | rfl, hd⟩
    · exact Or.inl ⟨t, ht, hd⟩
    · exact Or.inr ⟨t, ht, hd⟩
  · rintro (⟨t, ht, hd⟩ | ⟨t, ht, hd⟩)
    · exact ⟨t, ht, _, Or.inl rfl, hd⟩
    · exact ⟨t, ht, _, Or.inr rfl, hd⟩

/-- Margins of single characters are guarded. -/
theorem Simple.guarded (hm : m.Simple) : m.Guarded := by
  refine Or.inl fun t ht hpipe => ?_
  obtain ⟨c, rfl⟩ := List.length_eq_one_iff.mp (hm t ht)
  rw [List.mem_singleton.mp hpipe]

end Margin

namespace Row

open Margin

variable {m : Margin} {line : Text}

/-! ## Lines that are all margin -/

/-- A row without cells is read from a line that is one part, all of it margin. -/
theorem cells_ofLine_eq_nil_iff :
    (Row.ofLine m line).cells = [] ↔ parts line = [line] ∧ ∀ c ∈ line, m.contains c = true := by
  have hnil : (Row.ofLine m line).cells = [] ↔ (m.separate (parts line)).2 = [] := by
    rw [ofLine]
    simp only [List.map_eq_nil_iff]
    constructor
    · intro h
      by_contra hne
      exact separateEnd_fst_ne_nil hne h
    · intro h
      rw [h]
      rfl
  rw [hnil]
  constructor
  · intro h
    have hjoined := joined_parts line
    cases hparts : parts line with
    | nil => exact absurd hparts (partsHolding_ne_nil 0 line)
    | cons p ps =>
      rw [hparts, Margin.separate] at h
      split at h
      · next hall =>
        obtain rfl : ps = [] := h
        obtain rfl : p = line := by simpa [hparts, Text.joined] using hjoined
        exact ⟨rfl, List.all_eq_true.mp hall⟩
      · cases h
  · rintro ⟨hparts, hall⟩
    rw [hparts, Margin.separate, if_pos (List.all_eq_true.mpr hall)]

/-- Without a character that protects, the first pipe of a line divides it. -/
theorem parts_ne_singleton (hpipe : '|' ∈ line) (hbackslash : '\\' ∉ line)
    (hbacktick : '`' ∉ line) (p : Text) : parts line ≠ [p] := by
  obtain ⟨l, r, rfl, hl⟩ := List.eq_append_cons_of_mem hpipe
  have hplain : Text.Plain l :=
    ⟨hl, fun h => hbackslash (List.mem_append_left _ h), fun h => hbacktick (List.mem_append_left _ h)⟩
  rw [parts_plain_append_pipe hplain]
  intro h
  exact partsHolding_ne_nil 0 r (List.cons.inj h).2

/-- In the margins that are guarded, and in no others, every table line has a cell. -/
theorem cells_ofLine_ne_nil_iff :
    (∀ line, m.isTableLine line = true → (Row.ofLine m line).cells ≠ []) ↔ m.Guarded := by
  rw [← not_iff_not, not_guarded_iff]
  simp only [not_forall, not_not, exists_prop, cells_ofLine_eq_nil_iff]
  constructor
  · rintro ⟨line, htable, hparts, hall⟩
    obtain ⟨l, r, rfl, -⟩ := isTableLine_iff.mp htable
    have hpipe : '|' ∈ l ++ '|' :: r := by simp
    refine ⟨hall _ hpipe, ?_⟩
    by_contra hnone
    rw [not_or] at hnone
    exact parts_ne_singleton hpipe (fun h => hnone.1 (hall _ h)) (fun h => hnone.2 (hall _ h)) _
      hparts
  · rintro ⟨hpipe, hbackslash | hbacktick⟩
    · refine ⟨['\\', '|'], isTableLine_iff.mpr ⟨['\\'], [], rfl, by simpa using hbackslash⟩, rfl, ?_⟩
      simp [hpipe, hbackslash]
    · refine ⟨['`', '|', '`'], isTableLine_iff.mpr ⟨['`'], ['`'], rfl, by simpa using hbacktick⟩,
        rfl, ?_⟩
      simp [hpipe, hbacktick]

end Row

namespace Table

variable {s : Style} {t : Table} {i : Nat} {r : Row} {m : Margin}

/-! ## Contents of written tables -/

/-- Each row of text has its place in the other table, in a row that begins with its contents. The
rows below the header may have made room for a delimiter row. -/
def ContentsKept (t t' : Table) : Prop :=
  ∀ i r, t.rows[i]? = some r → ¬ t.DelimiterAt i →
    ∃ r', t'.rows[t.completedIndex i]? = some r' ∧ r.contents <+: r'.contents

/-- Completing does not touch the header. -/
theorem headerWidth_complete (s : Style) (t : Table) :
    (t.complete s).headerWidth = t.headerWidth := by
  obtain ⟨_ | ⟨h, rows⟩⟩ := t <;> rfl

/-- Without a column there is nothing to lay out. -/
theorem rows_format_of_headerWidth (h : t.headerWidth = 0) :
    (t.format s).rows = t.rows.map fun _ => ⟨[], t.marginLeft, []⟩ := by
  rw [format, if_pos h]

/-- No row of text comes to stand where the delimiter row is. -/
theorem completedIndex_ne_one (hi : ¬ t.DelimiterAt i) : t.completedIndex i ≠ 1 := by
  rw [completedIndex]
  split
  · omega
  · next hlacks =>
    rintro rfl
    refine hi ⟨rfl, ?_⟩
    simpa [lacksDelimiter, Option.isSome_iff_ne_none] using hlacks

/-- In the complete table, a row of text is where it belongs, and continued. -/
theorem exists_row_complete (s : Style) (hr : t.rows[i]? = some r) :
    ∃ r', (t.complete s).rows[t.completedIndex i]? = some r' ∧ r.contents <+: r'.contents := by
  obtain ⟨_ | ⟨h, rows⟩⟩ := t
  · cases hr
  · refine ⟨_, (getElem?_complete s h rows i).trans (congrArg _ hr), ?_⟩
    exact (continuedBy_completedRow s _ i r).cells.map Cell.content

/-- A table whose header has a cell keeps its contents on its way into the layout. One whose header
has none loses all that it has. -/
theorem contentsKept_format_iff (hs : 0 < s.minDelimiterWidth) (t : Table) :
    t.ContentsKept ((t.complete s).format s) ↔
      0 < t.headerWidth ∨ ∀ r ∈ t.textRows, r.cells = [] := by
  rcases Nat.eq_zero_or_pos t.headerWidth with hnone | hpos
  · have hrows := rows_format_of_headerWidth (s := s) ((headerWidth_complete s t).trans hnone)
    have hrow : ∀ {i r}, t.rows[i]? = some r →
        ((t.complete s).format s).rows[t.completedIndex i]? =
          some ⟨[], (t.complete s).marginLeft, []⟩ := by
      intro i r hr
      obtain ⟨r', hr', -⟩ := exists_row_complete s hr
      rw [hrows, List.getElem?_map, hr', Option.map_some]
    constructor
    · intro h
      refine Or.inr fun r hr => ?_
      obtain ⟨i, hi, htext⟩ := mem_textRows_iff.mp hr
      obtain ⟨r', hr', hprefix⟩ := h i r hi htext
      rw [hrow hi] at hr'
      obtain rfl := Option.some.inj hr'
      simpa [Row.contents] using hprefix
    · intro h i r hr hi
      have hcells := (h.resolve_left (by omega)) r (mem_textRows_iff.mpr ⟨i, hr, hi⟩)
      exact ⟨_, hrow hr, by simp [Row.contents, hcells]⟩
  · refine iff_of_true (fun i r hr hi => ?_) (Or.inl hpos)
    obtain ⟨r', hr', hprefix⟩ := exists_row_complete s hr
    obtain ⟨r'', hr'', hcontents⟩ :=
      (complete_complete hs hpos).exists_row_format hs (completedIndex_ne_one hi) hr'
    exact ⟨r'', hr'', hcontents ▸ hprefix⟩

/-- The layout of any table lines keeps their contents in the margins that are guarded, and in no
others. -/
theorem contentsKept_lines_iff (hs : 0 < s.minDelimiterWidth) :
    (∀ lines, lines ≠ [] → (∀ line ∈ lines, m.isTableLine line = true) →
      (ofLines m lines).ContentsKept (((ofLines m lines).complete s).format s)) ↔ m.Guarded := by
  simp only [contentsKept_format_iff hs]
  rw [← Row.cells_ofLine_ne_nil_iff]
  constructor
  · -- a line that is all margin would take the content of the line below away
    intro h line htable hcells
    have hbar : m.isTableLine ['|', 'x'] = true := rfl
    have hread : Row.ofLine m ['|', 'x'] = ⟨[⟨['x']⟩], [], []⟩ := rfl
    rcases h [line, ['|', 'x']] (by simp) (by simp [htable, hbar]) with hpos | hempty
    · exact absurd hcells (List.length_pos_iff.mp hpos)
    · have htext : Row.ofLine m ['|', 'x'] ∈ (ofLines m [line, ['|', 'x']]).textRows :=
        mem_textRows_iff.mpr ⟨1, rfl, not_delimiterAt_of_none rfl 1⟩
      exact absurd (hempty _ htext) (by simp [hread])
  · intro h lines hne htable
    obtain ⟨line, lines, rfl⟩ := List.exists_cons_of_ne_nil hne
    exact Or.inl (List.length_pos_iff.mpr (h line (htable line List.mem_cons_self)))

/-- What reserved characters do in margins, for all options. A backslash is before the first pipe of
no table line exactly when no text of more than one character brings it into the margin, and so it is
with a backtick. Every table line is read as a row with a cell, and the layout of every table made of
table lines keeps what its rows of text hold, exactly when the margin is guarded. -/
theorem reserved_never_margin_iff (o : Options) :
    (∀ d, d = '\\' ∨ d = '`' →
      ((∀ line, o.margin.isTableLine line = true → d ∉ line.takeWhile (· ≠ '|')) ↔
        ∀ t ∈ o.leftMarginChars, d ∈ t → t = [d])) ∧
    ((∀ line, o.margin.isTableLine line = true → (Row.ofLine o.margin line).cells ≠ []) ↔
      o.margin.Guarded) ∧
    ((∀ lines, lines ≠ [] → (∀ line ∈ lines, o.margin.isTableLine line = true) →
        ∃ t, (ofLines o.margin lines).complete? o.toStyle = .ok t ∧
          (ofLines o.margin lines).ContentsKept (t.format o.toStyle)) ↔
      o.margin.Guarded) := by
  refine ⟨fun d hd => Margin.before_pipe_iff hd, Row.cells_ofLine_ne_nil_iff, ?_⟩
  rw [← contentsKept_lines_iff o.minDelimiterWidth_pos]
  apply forall_congr'
  intro lines
  apply imp_congr_right
  intro hne
  have hrows : (ofLines o.margin lines).rows ≠ [] := by simpa [ofLines] using hne
  simp [complete?, hrows]

/-- A text of a backtick and a pipe is valid, and it brings both into the margin: a line with a code
span is all margin, and the table that it begins is laid out without the cell of its second line. -/
theorem reserved_in_longer_text :
    let o : Options := { leftMarginChars := ["`|".toList] }
    let lines : List Text := ["`|`".toList, "| x |".toList]
    Options.ofValue (.object [("leftMarginChars".toList, .list [.text "`|".toList])]) = .ok o ∧
      (∀ line ∈ lines, o.margin.isTableLine line = true) ∧
      '`' ∈ "`|`".toList.takeWhile (· ≠ '|') ∧ (Row.ofLine o.margin "`|`".toList).cells = [] ∧
      (((ofLines o.margin lines).complete o.toStyle).format o.toStyle).lines =
        ["`|`".toList, "`|`".toList, "`|`".toList] ∧
      ¬ (ofLines o.margin lines).ContentsKept
        (((ofLines o.margin lines).complete o.toStyle).format o.toStyle) := by
  intro o lines
  refine ⟨by decide, by decide, by decide, by decide, by decide, ?_⟩
  rw [contentsKept_format_iff o.minDelimiterWidth_pos]
  decide

end Table

end TextTable
