import Mathlib.Algebra.GroupWithZero.Nat
import TextTable.Width

/-!
# Widths as sums

The width of a text is the sum of the widths of the characters that are measured
(`charsWidth_eq_sum`). ASCII texts have a short cut in their length, which is taken for the measured
text and only without wide exceptions; it gives the same number (`charsWidth_ascii`), since no ASCII
character is wide or of ambiguous width. So which way a text is measured cannot be told from its
width (`width_eq_charsWidth`).
-/

namespace TextTable

namespace Unicode

/-- Where all ranges begin at `n` or above, there is no code point below `n`. -/
theorem inRanges_eq_false {ranges : List (Nat × Nat)} {n : Nat} (h : ∀ r ∈ ranges, n ≤ r.1)
    {c : Char} (hc : c.toNat < n) : inRanges ranges c = false := by
  rw [inRanges, List.any_eq_false]
  intro r hr hin
  have hle : r.1 ≤ c.toNat := by
    rw [Bool.and_eq_true, decide_eq_true_iff] at hin
    exact hin.1
  exact absurd (h r hr) (by omega)

/-- ASCII characters are narrow. -/
theorem widthClass_ascii {c : Char} (hc : c.toNat < 0x80) : widthClass c = .narrow := by
  have hwide : inRanges wideRanges c = false := inRanges_eq_false (by decide +kernel) hc
  have hunassigned : isUnassigned c = false := inRanges_eq_false (by decide +kernel) hc
  have hambiguous : inRanges ambiguousRanges c = false := inRanges_eq_false (by decide +kernel) hc
  rw [widthClass, hwide, hunassigned, hambiguous]
  rfl

end Unicode

namespace WidthOptions

open Unicode (widthClass widthClass_ascii nfc)

variable {o : WidthOptions}

/-- The width of a character by the exceptions, which count in this order, and by its class. -/
theorem charWidth_eq (o : WidthOptions) (c : Char) :
    o.charWidth c =
      if [c] ∈ o.wideOverrides then 2
      else if [c] ∈ o.narrowOverrides then 1
      else if widthClass c = .wide ∨ widthClass c = .ambiguous ∧ o.ambiguousIsWide = true then 2
      else 1 := by
  have hany : ∀ ts : List Text, ts.any (· = [c]) = decide ([c] ∈ ts) := fun ts => by
    rw [Bool.eq_iff_iff, List.any_eq_true, decide_eq_true_iff]
    simp
  rw [charWidth, hany, hany]
  simp only [decide_eq_true_eq]
  cases widthClass c <;> simp

/-- Without wide exceptions, whatever the narrow ones are, an ASCII character has one column. -/
theorem charWidth_ascii (hwide : o.wideOverrides = []) {c : Char} (hc : c.toNat < 0x80) :
    o.charWidth c = 1 := by
  rw [charWidth_eq, hwide, widthClass_ascii hc]
  simp

/-- Characters are measured one by one. -/
theorem charsWidth_eq_sum (o : WidthOptions) (t : Text) :
    o.charsWidth t = (t.map o.charWidth).sum := by
  induction t with
  | nil => rfl
  | cons c t ih => rw [charsWidth, ih, List.map_cons, List.sum_cons]

/-- Where the short cut is taken, it makes no difference. -/
theorem charsWidth_ascii (hwide : o.wideOverrides = []) {t : Text}
    (ht : ∀ c ∈ t, c.toNat < 0x80) : o.charsWidth t = t.length := by
  induction t with
  | nil => rfl
  | cons c t ih =>
    obtain ⟨hc, ht⟩ := List.forall_mem_cons.mp ht
    rw [charsWidth, charWidth_ascii hwide hc, ih ht, List.length_cons, Nat.add_comm]

/-- The short cut is not seen. -/
theorem width_eq_charsWidth (o : WidthOptions) (t : Text) :
    o.width t = o.charsWidth (o.measured t) := by
  rw [width]
  split
  · next h =>
    rw [Bool.and_eq_true, List.all_eq_true, List.isEmpty_iff] at h
    obtain ⟨hascii, hwide⟩ := h
    exact (charsWidth_ascii hwide fun c hc => of_decide_eq_true (hascii c hc)).symm
  · rfl

/-- Whatever the options are, the width of a text is the sum over its characters, or over those of
its composed form if that is measured: two columns for a wide exception, else one for a narrow
exception, else two if the standard calls the character wide, or ambiguous where this counts as
wide, and one if not. -/
theorem width_eq_sum (o : WidthOptions) (t : Text) :
    o.width t = ((if o.normalize then nfc t else t).map fun c =>
      if [c] ∈ o.wideOverrides then 2
      else if [c] ∈ o.narrowOverrides then 1
      else if widthClass c = .wide ∨ widthClass c = .ambiguous ∧ o.ambiguousIsWide = true then 2
      else 1).sum := by
  rw [width_eq_charsWidth, charsWidth_eq_sum, measured]
  exact congrArg List.sum (List.map_congr_left fun c _ => o.charWidth_eq c)

/-- The Kelvin sign is measured as the letter that it is composed to, so that an exception for the
letter counts; one for two letters never does. -/
example : width { wideOverrides := [['K']] } ['\u212A'] = 2 ∧
    width { wideOverrides := [['K', 'K']] } ['\u212A', 'K'] = 2 := by
  decide +kernel

end WidthOptions

end TextTable
