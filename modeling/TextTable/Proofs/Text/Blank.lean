import Mathlib.Data.List.TakeWhile
import TextTable.Cell

/-!
# Blank texts and trimming

A text is *blank* when white space is all there is in it. Trimming takes the longest blank text away
at either end, so a text is what trimming leaves of it between two blank texts (`exists_trim`), and
blank text added at an end is trimmed off again (`trim_blank_append`, `trim_append_blank`).
-/

namespace TextTable

open Unicode (isBlank)

namespace Text

/-- Only white space is in the text. -/
def Blank (t : Text) : Prop := ∀ c ∈ t, isBlank c = true

theorem blank_nil : Blank [] := fun _ hc => absurd hc List.not_mem_nil

theorem Blank.append {t u : Text} (ht : Blank t) (hu : Blank u) : Blank (t ++ u) := by
  intro c hc
  rcases List.mem_append.mp hc with hc | hc
  · exact ht c hc
  · exact hu c hc

theorem blank_spaces (n : Nat) : Blank (spaces n) := by
  intro c hc
  obtain rfl := List.eq_of_mem_replicate hc
  decide

/-- The text has none of the characters with a meaning inside a row. -/
structure Plain (t : Text) : Prop where
  pipe : '|' ∉ t
  backslash : '\\' ∉ t
  backtick : '`' ∉ t

/-- Neither a pipe nor a backslash nor a backtick is white space. -/
theorem Blank.plain {t : Text} (ht : Blank t) : Plain t :=
  ⟨fun h => absurd (ht _ h) (by decide), fun h => absurd (ht _ h) (by decide),
    fun h => absurd (ht _ h) (by decide)⟩

theorem Plain.tail {c : Char} {t : Text} (h : Plain (c :: t)) : Plain t :=
  ⟨fun hc => h.pipe (List.mem_cons_of_mem _ hc), fun hc => h.backslash (List.mem_cons_of_mem _ hc),
    fun hc => h.backtick (List.mem_cons_of_mem _ hc)⟩

theorem Plain.head {c : Char} {t : Text} (h : Plain (c :: t)) : c ≠ '|' ∧ c ≠ '\\' ∧ c ≠ '`' :=
  ⟨fun hc => h.pipe (hc ▸ List.mem_cons_self), fun hc => h.backslash (hc ▸ List.mem_cons_self),
    fun hc => h.backtick (hc ▸ List.mem_cons_self)⟩

/-! ## Trimming -/

/-- Blanks at the start make no difference to what is trimmed there. -/
theorem trimStart_append {l : Text} (hl : Blank l) (t : Text) :
    trimStart (l ++ t) = trimStart t := by
  rw [trimStart, List.dropWhile_append_of_pos hl, trimStart]

/-- Blanks at the end make no difference to what is trimmed there. -/
theorem trimEnd_append (t : Text) {r : Text} (hr : Blank r) : trimEnd (t ++ r) = trimEnd t := by
  have hrev : Blank r.reverse := fun c hc => hr c (List.mem_reverse.mp hc)
  rw [trimEnd, List.reverse_append, List.dropWhile_append_of_pos hrev, trimEnd]

/-- What is cut off at the end is blank. -/
theorem exists_trimEnd (t : Text) : ∃ r, Blank r ∧ t = trimEnd t ++ r := by
  refine ⟨(t.reverse.takeWhile isBlank).reverse, ?_, ?_⟩
  · intro c hc
    exact List.mem_takeWhile_imp (List.mem_reverse.mp hc)
  · rw [trimEnd, ← List.reverse_append, List.takeWhile_append_dropWhile, List.reverse_reverse]

/-- A text is its leading white space, what trimming leaves of it, and a blank end. -/
theorem exists_trim (t : Text) : ∃ r, Blank r ∧ t = t.takeWhile isBlank ++ trim t ++ r := by
  obtain ⟨r, hr, h⟩ := exists_trimEnd (trimStart t)
  refine ⟨r, hr, ?_⟩
  rw [List.append_assoc, trim, ← h, trimStart, List.takeWhile_append_dropWhile]

/-- What is trimmed off at the start is blank. -/
theorem blank_takeWhile (t : Text) : Blank (t.takeWhile isBlank) :=
  fun _ hc => List.mem_takeWhile_imp hc

/-- Nothing is left of a blank text. -/
theorem trim_of_blank {t : Text} (ht : Blank t) : trim t = [] := by
  have h : trimStart t = [] := List.dropWhile_eq_nil_iff.mpr ht
  rw [trim, h]
  rfl

/-- Blanks at the start are trimmed off. -/
theorem trim_blank_append {l : Text} (hl : Blank l) (t : Text) : trim (l ++ t) = trim t := by
  rw [trim, trimStart_append hl, trim]

/-- Blanks at the end are trimmed off. -/
theorem trim_append_blank (t : Text) {r : Text} (hr : Blank r) : trim (t ++ r) = trim t := by
  by_cases ht : Blank t
  · rw [trim_of_blank ht, trim_of_blank (ht.append hr)]
  · have hne : trimStart t ≠ [] := fun h => ht (List.dropWhile_eq_nil_iff.mp h)
    have h : trimStart (t ++ r) = trimStart t ++ r := by
      rw [trimStart, List.dropWhile_append, ← trimStart, if_neg]
      simpa using hne
    rw [trim, h, trimEnd_append _ hr, trim]

/-- Trimming is done once and for all. -/
@[simp] theorem trim_trim (t : Text) : trim (trim t) = trim t := by
  obtain ⟨r, hr, ht⟩ := exists_trim t
  calc trim (trim t) = trim (t.takeWhile isBlank ++ trim t) :=
        (trim_blank_append (blank_takeWhile t) _).symm
    _ = trim (t.takeWhile isBlank ++ trim t ++ r) := (trim_append_blank _ hr).symm
    _ = trim t := by rw [← ht]

/-- A text without white space has nothing to trim. -/
theorem trim_of_forall_not {t : Text} (h : ∀ c ∈ t, isBlank c = false) : trim t = t := by
  have keep : ∀ {u : Text}, (∀ c ∈ u, isBlank c = false) → u.dropWhile isBlank = u := by
    intro u hu
    cases u with
    | nil => rfl
    | cons c u => rw [List.dropWhile_cons_of_neg (by simp [hu c List.mem_cons_self])]
  rw [trim, trimStart, keep h, trimEnd, keep fun c hc => h c (List.mem_reverse.mp hc),
    List.reverse_reverse]

end Text

end TextTable
