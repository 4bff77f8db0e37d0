import TextTable.Proofs.Text.Blank

/-!
# Offsets in a cell

A cell is its left padding, its content and its right padding, one behind the other
(`exists_padding`). The offsets into the content are the raw offsets from the left padding to the
right one, and any other raw offset stands for the end of the content that is nearer. So going from
the content to the cell and back loses nothing (`contentOffset_rawOffset`), and going the other way
loses nothing between the paddings (`rawOffset_contentOffset`).
-/

namespace TextTable

namespace Cell

/-! ## Paddings -/

/-- The content of a cell stands behind its left padding. -/
theorem exists_padding (c : Cell) :
    ∃ before behind, c.raw = before ++ c.content ++ behind ∧ before.length = c.paddingLeft := by
  by_cases hc : c.content = []
  · -- the blanks of a blank cell are split where its padding says
    refine ⟨c.raw.take (min 1 c.raw.length), c.raw.drop (min 1 c.raw.length), ?_, ?_⟩
    · rw [hc, List.append_nil, List.take_append_drop]
    · rw [paddingLeft, if_pos hc, List.length_take]
      exact Nat.min_eq_left (Nat.min_le_right _ _)
  · obtain ⟨behind, -, hraw⟩ := Text.exists_trim c.raw
    refine ⟨_, behind, hraw, ?_⟩
    rw [paddingLeft, if_neg hc]

theorem paddingLeft_add_le (c : Cell) : c.paddingLeft + c.content.length ≤ c.raw.length := by
  obtain ⟨before, behind, hraw, hbefore⟩ := c.exists_padding
  rw [← hbefore, hraw, List.length_append, List.length_append]
  exact Nat.le_add_right _ _

/-- The paddings are what the content leaves of a cell. -/
theorem length_raw (c : Cell) :
    c.paddingLeft + c.content.length + c.paddingRight = c.raw.length := by
  have hle := c.paddingLeft_add_le
  rw [paddingRight]
  omega

/-- Cut at the paddings, a cell is its content. -/
@[simp] theorem take_drop_raw (c : Cell) :
    (c.raw.drop c.paddingLeft).take c.content.length = c.content := by
  obtain ⟨before, behind, hraw, hbefore⟩ := c.exists_padding
  rw [hraw, ← hbefore, List.append_assoc, List.drop_left, List.take_left]

/-! ## Offsets -/

/-- A place in the content is found again. -/
theorem contentOffset_rawOffset (c : Cell) {q : Nat} (hq : q ≤ c.content.length) :
    c.contentOffset (c.rawOffset q) = q := by
  rw [contentOffset, rawOffset, Int.add_sub_cancel, Int.toNat_natCast]
  exact Nat.min_eq_left hq

/-- No offset into the content is beyond its end. -/
theorem contentOffset_le (c : Cell) (r : Int) : c.contentOffset r ≤ c.content.length :=
  Nat.min_le_right _ _

/-- A cursor further on in the cell is not further back in the content. -/
theorem contentOffset_mono (c : Cell) {r r' : Int} (h : r ≤ r') :
    c.contentOffset r ≤ c.contentOffset r' := by
  have hshift : (r - c.paddingLeft).toNat ≤ (r' - c.paddingLeft).toNat :=
    Int.toNat_le_toNat (Int.sub_le_sub_right h _)
  exact Nat.le_min.mpr ⟨(Nat.min_le_left _ _).trans hshift, Nat.min_le_right _ _⟩

/-- A place between the paddings is found again. -/
theorem rawOffset_contentOffset (c : Cell) {r : Int} (hl : c.paddingLeft ≤ r)
    (hr : r ≤ c.paddingLeft + c.content.length) : c.rawOffset (c.contentOffset r) = r := by
  obtain ⟨q, rfl⟩ := Int.le.dest hl
  have hq : q ≤ c.content.length := by omega
  have hback : c.contentOffset (c.paddingLeft + q) = q := by
    rw [Int.add_comm]
    exact c.contentOffset_rawOffset hq
  rw [hback, rawOffset, Int.add_comm]

/-- Paddings and content make up the cell, and the content stands between the paddings. Each offset
into the content is that of its raw offset. Each raw offset, inside the cell or not, has an offset
into the content, a greater one no smaller, and is that of it between the paddings. -/
theorem offsets_section (c : Cell) :
    c.paddingLeft + c.content.length + c.paddingRight = c.raw.length ∧
      (c.raw.drop c.paddingLeft).take c.content.length = c.content ∧
      (∀ q : Int, 0 ≤ q → q ≤ c.content.length → c.contentOffset (c.rawOffset q) = q) ∧
      (∀ r : Int, c.contentOffset r ≤ c.content.length) ∧
      (∀ r r' : Int, r ≤ r' → c.contentOffset r ≤ c.contentOffset r') ∧
      ∀ r : Int, c.paddingLeft ≤ r → r ≤ c.paddingLeft + c.content.length →
        c.rawOffset (c.contentOffset r) = r := by
  refine ⟨c.length_raw, c.take_drop_raw, fun q hpos hq => ?_, c.contentOffset_le,
    fun r r' => c.contentOffset_mono, fun r => c.rawOffset_contentOffset⟩
  obtain ⟨q, rfl⟩ := Int.eq_ofNat_of_zero_le hpos
  exact congrArg Int.ofNat (c.contentOffset_rawOffset (Int.ofNat_le.mp hq))

/-- In a cell of three blanks, the first is the left padding, and every raw offset stands for the
one place in the empty content behind it. -/
theorem offsets_section_blank :
    let c : Cell := ⟨[' ', '\u3000', ' ']⟩
    c.paddingLeft = 1 ∧ c.content = [] ∧ c.paddingRight = 2 ∧
      c.contentOffset (c.rawOffset 0) = 0 ∧ (c.raw.drop 1).take 0 = c.content ∧
      (∀ r : Int, c.contentOffset r ≤ 0) ∧ c.contentOffset (-4) ≤ c.contentOffset 7 ∧
      c.rawOffset (c.contentOffset 1) = 1 := by
  intro c
  obtain ⟨-, hslice, hcontent, hle, hmono, hraw⟩ := offsets_section c
  have hzero := Int.ofNat.inj (hcontent 0 (by decide) (by decide))
  exact ⟨by decide, by decide, by decide, hzero, hslice, hle, hmono (-4) 7 (by decide),
    hraw 1 (by decide) (by decide)⟩

end Cell

end TextTable
