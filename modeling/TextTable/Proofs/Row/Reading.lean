import TextTable.Proofs.Row.Apart

/-!
# Rows and their lines

A row is *laid out* when each of its cells is closed by a blank or has nothing to close, nothing
stands behind its last pipe, and nothing but margin before its first one. As long as its contents
are apart, such a row is what reading makes of its line (`Laid.ofLine_text`). This needs margins of
single characters: a longer text would bring its characters into the margin even where they have a
meaning inside a row. Of any row that was read, the contents are apart (`apart_ofLine`).
-/

namespace TextTable

open Unicode (isBlank)

/-! ## Margins -/

namespace Margin

/-- Each text of the margin is a single character. -/
def Simple (m : Margin) : Prop := ∀ t ∈ m.texts, t.length = 1

/-- A character that divides a line is in no margin of single characters. -/
theorem Simple.not_contains {m : Margin} (hm : m.Simple) {d : Char} (hb : isBlank d = false)
    (hd : [d] ∈ reserved) : m.contains d = false := by
  rw [contains, hb, Bool.false_or, List.any_eq_false]
  intro t ht hc
  obtain ⟨htm, htr⟩ := List.mem_filter.mp ht
  obtain ⟨x, rfl⟩ := List.length_eq_one_iff.mp (hm t htm)
  obtain rfl : d = x := by simpa using hc
  simp [hd] at htr

/-- A margin of single characters has no backslash, no backtick and no pipe. -/
theorem Simple.plain {m : Margin} (hm : m.Simple) {t : Text}
    (ht : ∀ c ∈ t, m.contains c = true) : Text.Plain t := by
  have absent : ∀ d, isBlank d = false → [d] ∈ reserved → d ∉ t := by
    intro d hb hd hmem
    have := ht d hmem
    rw [hm.not_contains hb hd] at this
    cases this
  exact ⟨absent _ (by decide) (by decide), absent _ (by decide) (by decide),
    absent _ (by decide) (by decide)⟩

/-- A table line has a pipe with nothing but margin before it. -/
theorem isTableLine_iff {m : Margin} {line : Text} :
    m.isTableLine line = true ↔
      ∃ l r, line = l ++ '|' :: r ∧ ∀ c ∈ l, m.contains c = true := by
  induction line with
  | nil => simp [isTableLine]
  | cons c rest ih =>
    rw [isTableLine, Bool.or_eq_true, Bool.and_eq_true, decide_eq_true_eq, ih]
    constructor
    · rintro (rfl | ⟨hc, l, r, rfl, hl⟩)
      · exact ⟨[], rest, rfl, fun _ h => absurd h List.not_mem_nil⟩
      · exact ⟨c :: l, r, rfl, List.forall_mem_cons.mpr ⟨hc, hl⟩⟩
    · rintro ⟨l, r, h, hl⟩
      cases l with
      | nil => exact Or.inl (List.cons.inj h).1
      | cons d l =>
        obtain ⟨rfl, hrest⟩ := List.cons.inj h
        obtain ⟨hd, hl⟩ := List.forall_mem_cons.mp hl
        exact Or.inr ⟨hd, l, r, hrest, hl⟩

end Margin

/-! ## Padded cells -/

namespace Cell

/-- The content stands between blanks, with at least one behind it. -/
def Padded (c : Cell) : Prop :=
  ∃ l r, Text.Blank l ∧ Text.Blank r ∧ r ≠ [] ∧ c.raw = l ++ c.content ++ r

/-- What is left of a cell is what is left of the text between its blanks. -/
theorem content_mk {l r : Text} (hl : Text.Blank l) (hr : Text.Blank r) (t : Text) :
    Cell.content ⟨l ++ t ++ r⟩ = Text.trim t := by
  rw [content, Text.trim_append_blank _ hr, Text.trim_blank_append hl]

/-- Blanks around a content make a padded cell with this content. -/
theorem padded_mk {l r : Text} (hl : Text.Blank l) (hr : Text.Blank r) (hne : r ≠ []) {t : Text}
    (ht : Text.trim t = t) : Padded ⟨l ++ t ++ r⟩ :=
  ⟨l, r, hl, hr, hne, by rw [content_mk hl hr, ht]⟩

/-- Nothing in the cell reaches over the pipe behind it: a blank stands before the pipe, or no
character of the cell has a meaning. -/
def Closed (c : Cell) : Prop := c.Padded ∨ Text.Plain c.raw

@[simp] theorem trim_content (c : Cell) : Text.trim c.content = c.content := Text.trim_trim c.raw

end Cell

namespace Row

/-- The contents of the cells. -/
def contents (r : Row) : List Text := r.cells.map Cell.content

/-! ## From a row to its line and back -/

@[simp] theorem cellsText_cons (c : Cell) (cells : List Cell) :
    cellsText (c :: cells) = c.raw ++ '|' :: cellsText cells := by
  rw [cellsText, List.flatMap_cons, ← cellsText, List.append_assoc]
  rfl

/-- A fence is closed by a content or not at all: the blanks around it and the pipes have no
backticks. -/
theorem closes_cellsText {f : Nat} (hf : 0 < f) (cells : List Cell) :
    closes f (cellsText cells) = closes f (piped (cells.map Cell.content)) := by
  induction cells with
  | nil => rfl
  | cons c cells ih =>
    rw [cellsText_cons, List.map_cons, piped_cons, closes_append_cons f _ (by decide),
      closes_append_cons f _ (by decide), ih, Cell.content, closes_trim hf]

/-- Closed cells with contents apart are the parts of their text. -/
theorem parts_cellsText {cells : List Cell} (hp : ∀ c ∈ cells, c.Closed)
    (ha : Apart (cells.map Cell.content)) :
    parts (cellsText cells) = cells.map Cell.raw ++ [[]] := by
  induction cells with
  | nil => rfl
  | cons c cells ih =>
    obtain ⟨hc, hp⟩ := List.forall_mem_cons.mp hp
    obtain ⟨hs, ha⟩ := ha
    rw [cellsText_cons]
    rcases hc with ⟨l, r, hl, hr, hne, hc⟩ | hc
    · -- white space neither opens nor closes a fence, so the contents behind speak for the cells
      have hin : FencesIn (cellsText cells) (piped (cells.map Cell.content)) :=
        fun f hf h => closes_cellsText hf cells ▸ h
      have hsealed : Sealed (cellsText cells) 0 (l ++ c.content) :=
        (sealed_blank_append hl _).mpr (hs.mono hin)
      rw [hc, parts, partsHolding_of_sealed hr hne (Nat.zero_le _) hsealed, ih hp ha, ← hc]
      rfl
    · rw [parts_plain_append_pipe hc, ih hp ha]
      rfl

/-- The row is written with closed cells, nothing behind its last pipe and only margin before its
first one, and its contents are apart. -/
structure Laid (m : Margin) (r : Row) : Prop where
  filled : r.cells ≠ []
  closed : ∀ c ∈ r.cells, c.Closed
  apart : Apart r.contents
  margin : ∀ c ∈ r.marginLeft, m.contains c = true
  ended : r.marginRight = []

variable {m : Margin} {r : Row}

/-- The line of a laid out row begins with its margin and ends with a pipe. -/
theorem Laid.text_eq (h : r.Laid m) : r.text = r.marginLeft ++ '|' :: cellsText r.cells := by
  rw [text, if_neg h.filled, h.ended, List.append_nil]

/-- The line of a laid out row is one of a table. -/
theorem Laid.isTableLine (h : r.Laid m) : m.isTableLine r.text = true :=
  Margin.isTableLine_iff.mpr ⟨r.marginLeft, _, h.text_eq, h.margin⟩

/-- Nothing stands behind a pipe at the end of the line. -/
theorem separateEnd_append_nil {parts : List Text} (h : parts ≠ []) :
    separateEnd (parts ++ [[]]) = (parts, []) := by
  have hlen : 1 < (parts ++ [([] : Text)]).length := by
    have := List.length_pos_iff.mpr h
    rw [List.length_append, List.length_singleton]
    omega
  have hlast : (parts ++ [([] : Text)]).getLast? = some [] := List.getLast?_concat
  rw [separateEnd, hlast]
  simp only [List.all_nil, and_true, if_pos hlen, List.dropLast_concat]

/-- Reading the line of a laid out row gives the row. -/
theorem Laid.ofLine_text (hm : m.Simple) (h : r.Laid m) : Row.ofLine m r.text = r := by
  have hparts : parts r.text = r.marginLeft :: (r.cells.map Cell.raw ++ [[]]) := by
    rw [h.text_eq, parts_plain_append_pipe (hm.plain h.margin), parts_cellsText h.closed h.apart]
  have hsep : m.separate (r.marginLeft :: (r.cells.map Cell.raw ++ [[]])) =
      (r.marginLeft, r.cells.map Cell.raw ++ [[]]) := by
    rw [Margin.separate, if_pos (List.all_eq_true.mpr h.margin)]
  have hne : r.cells.map Cell.raw ≠ [] := by simpa using h.filled
  have hcells : (r.cells.map Cell.raw).map Cell.mk = r.cells := by
    rw [List.map_map]
    exact List.map_id _
  rw [ofLine, hparts, hsep]
  simp only [separateEnd_append_nil hne, hcells]
  rw [← h.ended]

/-! ## What is read -/

/-- What is separated at the left is margin. -/
theorem separate_fst (m : Margin) (ps : List Text) :
    ∀ c ∈ (m.separate ps).1, m.contains c = true := by
  cases ps with
  | nil => exact fun _ h => absurd h List.not_mem_nil
  | cons p ps =>
    rw [Margin.separate]
    by_cases h : p.all m.contains = true
    · rw [if_pos h]
      exact List.all_eq_true.mp h
    · rw [if_neg h]
      exact fun _ h => absurd h List.not_mem_nil

/-- What remains are parts of the line, in their order. -/
theorem separate_snd_sublist (m : Margin) (ps : List Text) : (m.separate ps).2.Sublist ps := by
  cases ps with
  | nil => exact List.Sublist.refl _
  | cons p ps =>
    rw [Margin.separate]
    split
    · exact List.sublist_cons_self _ _
    · exact List.Sublist.refl _

theorem separateEnd_fst_sublist (ps : List Text) : (separateEnd ps).1.Sublist ps := by
  rw [separateEnd]
  split
  · exact List.Sublist.refl _
  · split
    · exact List.dropLast_sublist _
    · exact List.Sublist.refl _

/-- A part remains, even where it is blank. -/
theorem separateEnd_fst_ne_nil {ps : List Text} (h : ps ≠ []) : (separateEnd ps).1 ≠ [] := by
  rw [separateEnd]
  split
  · exact h
  · split
    · next hcond =>
      intro hnil
      have := congrArg List.length hnil
      rw [List.length_dropLast, List.length_nil] at this
      omega
    · exact h

/-- What is separated at the right is blank. -/
theorem blank_separateEnd_snd (ps : List Text) : Text.Blank (separateEnd ps).2 := by
  rw [separateEnd]
  split
  · exact Text.blank_nil
  · split
    · next hcond => exact List.all_eq_true.mp hcond.2
    · exact Text.blank_nil

/-- What is read behind the last pipe is blank. -/
theorem blank_marginRight_ofLine (m : Margin) (line : Text) :
    Text.Blank (Row.ofLine m line).marginRight :=
  blank_separateEnd_snd _

/-- What is read as a margin is one. -/
theorem margin_ofLine (m : Margin) (line : Text) :
    ∀ c ∈ (Row.ofLine m line).marginLeft, m.contains c = true :=
  separate_fst m (parts line)

/-- The contents of a row are its parts, trimmed, without those that belong to the margins. -/
theorem contents_ofLine (m : Margin) (line : Text) :
    (Row.ofLine m line).contents =
      (separateEnd (m.separate (parts line)).2).1.map Text.trim := by
  rw [contents, ofLine, List.map_map]
  rfl

/-- The contents of a row that was read are apart. -/
theorem apart_ofLine (m : Margin) (line : Text) : Apart (Row.ofLine m line).contents := by
  rw [contents_ofLine]
  have hsub := (separateEnd_fst_sublist _).trans (separate_snd_sublist m (parts line))
  exact (apart_parts rfl).sublist (hsub.map Text.trim)

/-- A table line is read as a row with cells. -/
theorem cells_ofLine_ne_nil (hm : m.Simple) {line : Text} (h : m.isTableLine line = true) :
    (Row.ofLine m line).cells ≠ [] := by
  obtain ⟨l, r, rfl, hl⟩ := Margin.isTableLine_iff.mp h
  have hsep : m.separate (parts (l ++ '|' :: r)) = (l, parts r) := by
    rw [parts_plain_append_pipe (hm.plain hl), Margin.separate,
      if_pos (List.all_eq_true.mpr hl)]
  rw [ofLine, hsep]
  have hne : (separateEnd (parts r)).1 ≠ [] := separateEnd_fst_ne_nil (partsHolding_ne_nil 0 r)
  simpa using hne

end Row

end TextTable
