import TextTable.Proofs.Text.Blank
import TextTable.Row.Parts

/-!
# Fences

Whether a run of backticks begins a code span depends on the text far behind it: on whether some
later run has exactly as many backticks. Of a text that follows, this is all that matters
(`closes`), so it is all that has to be kept when a line is spaced anew (`closes_trim`). A character
that is no backtick ends a run, and so the runs of a text are those before such a character and
those behind it (`closes_append_cons`).
-/

namespace TextTable.Row

open Unicode (isBlank)

/-! ## Where a span ends -/

/-- A character other than a backtick cuts the search for the end of a span in two. -/
theorem spanEnd?_append_cons (f : Nat) {d : Char} (hd : d ≠ '`') (r : Text) :
    ∀ (run : Nat) (p : Text), spanEnd? f run (p ++ d :: r) =
      (spanEnd? f run p).or ((spanEnd? f 0 r).map (· + (p.length + 1)))
  | run, [] => by
      by_cases h : run = f <;> simp [spanEnd?, hd, h]
  | run, c :: p => by
      have ih := fun run => spanEnd?_append_cons f hd r run p
      by_cases hc : c = '`'
      · rw [List.cons_append, spanEnd?, spanEnd?, if_pos hc, if_pos hc, ih]
        cases spanEnd? f (run + 1) p <;> cases spanEnd? f 0 r <;> simp; omega
      · rw [List.cons_append, spanEnd?, spanEnd?, if_neg hc, if_neg hc, ih]
        by_cases h : run = f
        · simp [h]
        · cases spanEnd? f 0 p <;> cases spanEnd? f 0 r <;> simp [h]; omega

theorem spanEnd?_le {f : Nat} :
    ∀ {run n : Nat} {t : Text}, spanEnd? f run t = some n → n ≤ t.length
  | run, n, [], h => by
      by_cases hr : run = f <;> simp [spanEnd?, hr] at h ⊢
      omega
  | run, n, c :: t, h => by
      have ih : ∀ {run n : Nat}, spanEnd? f run t = some n → n ≤ t.length := spanEnd?_le
      by_cases hc : c = '`'
      · rw [spanEnd?, if_pos hc] at h
        obtain ⟨m, hm, rfl⟩ := Option.map_eq_some_iff.mp h
        simpa using ih hm
      · rw [spanEnd?, if_neg hc] at h
        by_cases hr : run = f
        · rw [if_pos hr] at h
          obtain rfl := Option.some.inj h
          exact Nat.zero_le _
        · rw [if_neg hr] at h
          obtain ⟨m, hm, rfl⟩ := Option.map_eq_some_iff.mp h
          simpa using ih hm

/-- Without backticks there is no run to end a span. -/
theorem spanEnd?_of_not_mem {f : Nat} (hf : 0 < f) :
    ∀ {t : Text}, '`' ∉ t → spanEnd? f 0 t = none
  | [], _ => by simp [spanEnd?, hf.ne]
  | c :: t, h => by
      obtain ⟨hc, ht⟩ := List.ne_and_not_mem_of_not_mem_cons h
      rw [spanEnd?, if_neg (Ne.symm hc), if_neg hf.ne, spanEnd?_of_not_mem hf ht]
      rfl

/-- Blanks at the end of a text end no span. -/
theorem spanEnd?_append_blank {f : Nat} (hf : 0 < f) (run : Nat) (t : Text) {r : Text}
    (hr : Text.Blank r) : spanEnd? f run (t ++ r) = spanEnd? f run t := by
  cases r with
  | nil => rw [List.append_nil]
  | cons d r =>
    rw [spanEnd?_append_cons f hr.plain.head.2.2, spanEnd?_of_not_mem hf hr.plain.tail.backtick,
      Option.map_none, Option.or_none]

/-! ## The fences that a text closes -/

/-- A run of exactly `f` backticks is in the text. -/
def closes (f : Nat) (t : Text) : Bool := (spanEnd? f 0 t).isSome

/-- A fence is closed before a character that is no backtick, or behind it. -/
theorem closes_append_cons (f : Nat) (p : Text) {d : Char} (hd : d ≠ '`') (r : Text) :
    closes f (p ++ d :: r) = (closes f p || closes f r) := by
  rw [closes, spanEnd?_append_cons f hd r 0 p, closes, closes]
  cases spanEnd? f 0 p <;> cases spanEnd? f 0 r <;> rfl

/-- Where there are no backticks, no fence is closed. -/
theorem closes_of_not_mem {f : Nat} (hf : 0 < f) {t : Text} (h : '`' ∉ t) :
    closes f t = false := by
  rw [closes, spanEnd?_of_not_mem hf h]
  rfl

/-- Blanks at the end close no fence, and keep none from being closed. -/
theorem closes_append_blank {f : Nat} (hf : 0 < f) (t : Text) {r : Text} (hr : Text.Blank r) :
    closes f (t ++ r) = closes f t := by
  rw [closes, spanEnd?_append_blank hf 0 t hr, closes]

theorem closes_blank_append {f : Nat} (hf : 0 < f) {l : Text} (hl : Text.Blank l) (t : Text) :
    closes f (l ++ t) = closes f t := by
  induction l with
  | nil => rfl
  | cons d l ih =>
    have hnil : closes f [] = false := closes_of_not_mem hf List.not_mem_nil
    have hsplit := closes_append_cons f [] hl.plain.head.2.2 (l ++ t)
    rw [hnil, Bool.false_or] at hsplit
    exact hsplit.trans (ih fun c hc => hl c (List.mem_cons_of_mem _ hc))

/-- White space around a text closes nothing. -/
theorem closes_trim {f : Nat} (hf : 0 < f) (t : Text) : closes f (Text.trim t) = closes f t := by
  obtain ⟨r, hr, ht⟩ := Text.exists_trim t
  conv => rhs; rw [ht]
  rw [closes_append_blank hf _ hr, closes_blank_append hf (Text.blank_takeWhile t)]

/-- The text `t` closes no other fences than `u` does. -/
def FencesIn (t u : Text) : Prop := ∀ f, 0 < f → closes f t = true → closes f u = true

end TextTable.Row
