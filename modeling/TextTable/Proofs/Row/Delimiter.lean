import TextTable.Proofs.Row.Reading

/-!
# Delimiter cells

A delimiter cell with at least one dash is read back as what it was written for: it is a delimiter
cell (`isDelimiter_delimiter`), and it states its alignment (`alignment?_delimiter`). Its text is
plain, so it needs no blank to be closed (`closed_delimiter`).
-/

namespace TextTable

open Unicode (isBlank)

namespace Alignment

/-- The dashes of a delimiter cell with the colons at their ends. -/
def bar (a : Alignment) (n : Nat) : Text :=
  (if a.colonLeft then [':'] else []) ++ List.replicate n '-'
    ++ (if a.colonRight then [':'] else [])

theorem mem_bar {a : Alignment} {n : Nat} {c : Char} (h : c ∈ a.bar n) : c = ':' ∨ c = '-' := by
  rw [bar, List.mem_append, List.mem_append] at h
  rcases h with (h | h) | h
  · split at h
    · exact Or.inl (List.mem_singleton.mp h)
    · exact absurd h List.not_mem_nil
  · exact Or.inr (List.eq_of_mem_replicate h)
  · split at h
    · exact Or.inl (List.mem_singleton.mp h)
    · exact absurd h List.not_mem_nil

/-- The text of a delimiter cell is its bar, with a blank wherever there is no colon. -/
theorem delimiterText_eq (a : Alignment) (n : Nat) :
    a.delimiterText n = (if a.colonLeft then [] else [' ']) ++ a.bar n
      ++ (if a.colonRight then [] else [' ']) := by
  rw [delimiterText, bar]
  cases a.colonLeft <;> cases a.colonRight <;> simp

/-- An alignment can be told from its colons. -/
@[simp] theorem ofColons_colons (a : Alignment) : ofColons a.colonLeft a.colonRight = a := by
  rcases a with _ | _ | _ | _ <;> rfl

/-- With a dash in it, a bar begins with a colon only if the alignment has one at the left. -/
theorem head?_bar (a : Alignment) {n : Nat} (hn : 0 < n) :
    ((a.bar n).head? = some ':') ↔ a.colonLeft = true := by
  obtain ⟨k, rfl⟩ : ∃ k, n = k + 1 := ⟨n - 1, by omega⟩
  rw [bar, List.replicate_succ]
  cases a.colonLeft <;> simp

theorem getLast?_bar (a : Alignment) {n : Nat} (hn : 0 < n) :
    ((a.bar n).getLast? = some ':') ↔ a.colonRight = true := by
  obtain ⟨k, rfl⟩ : ∃ k, n = k + 1 := ⟨n - 1, by omega⟩
  rw [bar, List.replicate_succ']
  cases a.colonRight <;> simp

end Alignment

namespace Cell

open TextTable.Alignment

/-- A bar with a dash is what a delimiter cell may contain. -/
theorem isDelimiterText_bar (a : Alignment) {n : Nat} (hn : 0 < n) :
    isDelimiterText (a.bar n) = true := by
  obtain ⟨k, rfl⟩ : ∃ k, n = k + 1 := ⟨n - 1, by omega⟩
  have dashes : ∀ c ∈ List.replicate (k + 1) '-', decide (c = '-') = true := by
    intro c hc
    rw [List.eq_of_mem_replicate hc]
    rfl
  have hne : List.replicate (k + 1) '-' ≠ [] := by simp
  have body : ∀ r : Text, r = [] ∨ r = [':'] →
      (List.replicate (k + 1) '-' ++ r).takeWhile (· = '-') = List.replicate (k + 1) '-' ∧
        (List.replicate (k + 1) '-' ++ r).dropWhile (· = '-') = r := by
    intro r hr
    rw [List.takeWhile_append_of_pos dashes, List.dropWhile_append_of_pos dashes]
    rcases hr with rfl | rfl <;> simp
  have hr : (if a.colonRight then [':'] else []) = ([] : Text) ∨
      (if a.colonRight then [':'] else []) = [':'] := by
    cases a.colonRight
    · exact Or.inl rfl
    · exact Or.inr rfl
  obtain ⟨htake, hdrop⟩ := body _ hr
  -- without its first colon, the bar is the dashes and perhaps a colon
  have hbar : (if (a.bar (k + 1)).head? = some ':' then (a.bar (k + 1)).drop 1
      else a.bar (k + 1)) =
        List.replicate (k + 1) '-' ++ (if a.colonRight then [':'] else []) := by
    by_cases h : a.colonLeft = true
    · rw [if_pos ((head?_bar a hn).mpr h), bar, if_pos h]
      rfl
    · rw [if_neg fun hh => h ((head?_bar a hn).mp hh), bar, if_neg h]
      rfl
  rw [isDelimiterText]
  simp only [hbar, htake, hdrop]
  simp [hne]

/-- The blanks around a bar are not part of the content. -/
@[simp]
theorem content_delimiter (a : Alignment) (n : Nat) : (delimiter a n).content = a.bar n := by
  have hl : Text.Blank (if a.colonLeft then [] else [' ']) := by
    split
    · exact Text.blank_nil
    · exact Text.blank_spaces 1
  have hr : Text.Blank (if a.colonRight then [] else [' ']) := by
    split
    · exact Text.blank_nil
    · exact Text.blank_spaces 1
  rw [delimiter, delimiterText_eq, content_mk hl hr, Text.trim_of_forall_not]
  intro c hc
  rcases mem_bar hc with rfl | rfl <;> decide

theorem isDelimiter_delimiter (a : Alignment) {n : Nat} (hn : 0 < n) :
    (delimiter a n).isDelimiter = true := by
  simp [isDelimiter, isDelimiterText_bar a hn]

/-- A delimiter cell states the alignment that it was written for. -/
theorem alignment?_delimiter (a : Alignment) {n : Nat} (hn : 0 < n) :
    (delimiter a n).alignment? = some a := by
  have hl : decide ((a.bar n).head? = some ':') = a.colonLeft := by
    rw [Bool.eq_iff_iff, decide_eq_true_iff, head?_bar a hn]
  have hr : decide ((a.bar n).getLast? = some ':') = a.colonRight := by
    rw [Bool.eq_iff_iff, decide_eq_true_iff, getLast?_bar a hn]
  rw [alignment?, if_pos (isDelimiter_delimiter a hn), content_delimiter, hl, hr, ofColons_colons]

/-- Nothing in a delimiter cell could open a span or escape a pipe. -/
theorem plain_delimiter (a : Alignment) (n : Nat) : Text.Plain (delimiter a n).raw := by
  have chars : ∀ c ∈ (delimiter a n).raw, c = ':' ∨ c = '-' ∨ c = ' ' := by
    intro c hc
    rw [delimiter, delimiterText_eq, List.mem_append, List.mem_append] at hc
    rcases hc with (hc | hc) | hc
    · split at hc <;> simp at hc
      exact Or.inr (Or.inr hc)
    · exact (mem_bar hc).imp_right Or.inl
    · split at hc <;> simp at hc
      exact Or.inr (Or.inr hc)
  refine ⟨fun h => ?_, fun h => ?_, fun h => ?_⟩ <;>
    rcases chars _ h with h | h | h <;> exact absurd h (by decide)

/-- A delimiter cell is closed by its pipe alone. -/
theorem closed_delimiter (a : Alignment) (n : Nat) : (delimiter a n).Closed :=
  Or.inr (plain_delimiter a n)

theorem plain_content_delimiter (a : Alignment) (n : Nat) :
    Text.Plain (delimiter a n).content := by
  rw [content_delimiter]
  have h := plain_delimiter a n
  have hin : ∀ c ∈ a.bar n, c ∈ (delimiter a n).raw := by
    intro c hc
    rw [delimiter, delimiterText_eq]
    exact List.mem_append_left _ (List.mem_append_right _ hc)
  exact ⟨fun hc => h.pipe (hin _ hc), fun hc => h.backslash (hin _ hc),
    fun hc => h.backtick (hin _ hc)⟩

end Cell

namespace Row

/-- A delimiter row has a cell, and no other cells than delimiter cells. -/
theorem isDelimiter_iff {r : Row} :
    r.isDelimiter = true ↔ 0 < r.width ∧ ∀ c ∈ r.cells, c.isDelimiter = true := by
  rw [isDelimiter, Bool.and_eq_true, Bool.not_eq_true', List.isEmpty_eq_false_iff,
    List.all_eq_true, width, List.length_pos_iff]

end Row

end TextTable
