import TextTable.Proofs.Row.Apart

/-!
# Cutting a text and joining its parts

The parts of a text with a pipe between each two are the text again (`joined_parts`), and no part
can be divided once more (`parts_of_mem`): whatever protects a pipe inside a part stands in the same
part. A pipe put behind a text cuts off one more part, an empty one, unless a backslash at the end
of the text protects it (`parts_concat_pipe_iff`). Such a backslash is *unpaired* (`endsUnpaired`):
it is not held itself, and there is nothing behind it to hold.
-/

namespace TextTable.Row

/-! ## Joining the parts -/

theorem exists_concat_eq_cons (ts : List Text) (p : Text) : ∃ q qs, ts ++ [p] = q :: qs :=
  List.exists_cons_of_ne_nil (List.append_ne_nil_of_right_ne_nil ts (List.cons_ne_nil p []))

theorem joined_concat (ts : List Text) (p : Text) :
    Text.joined ['|'] (ts ++ [p]) = piped ts ++ p := by
  induction ts with
  | nil => exact List.append_nil p
  | cons t ts ih =>
    obtain ⟨u, us, hu⟩ := exists_concat_eq_cons ts p
    rw [Text.joined, hu] at ih
    rw [Text.joined, List.cons_append, hu, List.intersperse_cons_cons, List.flatten_cons,
      List.flatten_cons, ih, piped_cons]
    simp

/-- A text is its parts, with a pipe behind each but the last. -/
theorem eq_piped_of_parts {ts : List Text} :
    ∀ {t p : Text}, parts t = ts ++ [p] → t = piped ts ++ p := by
  induction ts with
  | nil => exact fun h => partsHolding_singleton h
  | cons s ts ih =>
    intro t p h
    obtain ⟨q, qs, hq⟩ := exists_concat_eq_cons ts p
    rw [List.cons_append, hq] at h
    obtain ⟨r, rfl, hr⟩ := partsHolding_cons_cons h
    simp [ih (hr.trans hq.symm)]

/-- There is a last part. -/
theorem exists_parts_eq_concat (t : Text) : ∃ ts p, parts t = ts ++ [p] :=
  ⟨_, _, (List.dropLast_concat_getLast (partsHolding_ne_nil 0 t)).symm⟩

/-- Nothing is lost when a text is cut. -/
@[simp] theorem joined_parts (t : Text) : Text.joined ['|'] (parts t) = t := by
  obtain ⟨ts, p, h⟩ := exists_parts_eq_concat t
  rw [h, joined_concat, ← eq_piped_of_parts h]

/-! ## Cutting a part -/

/-- A sealed text by itself is one part. -/
theorem Sealed.partsHolding_eq {r : Text} {n : Nat} {p : Text} (h : Sealed r n p) :
    partsHolding n p = [p] := by
  induction p generalizing n with
  | nil => rw [partsHolding]
  | cons c p ih =>
    cases n with
    | succ n =>
      simp [partsHolding, ih (n := n) h]
    | zero =>
      obtain ⟨hc, -, h⟩ := h
      simp [partsHolding_zero_cons hc, ih h]

/-- A part of a text is its own only part. -/
theorem parts_of_mem {ps : List Text} :
    ∀ {t : Text}, parts t = ps → ∀ p ∈ ps, parts p = [p] := by
  induction ps with
  | nil => exact fun _ _ hp => absurd hp List.not_mem_nil
  | cons p ps ih =>
    intro t h
    cases ps with
    | nil =>
      obtain rfl := partsHolding_singleton h
      exact List.forall_mem_singleton.mpr h
    | cons q ps =>
      obtain ⟨r, rfl, hr⟩ := partsHolding_cons_cons h
      have hsealed : Sealed r 0 p :=
        sealed_of_partsHolding Text.blank_nil (by rw [List.append_nil]; exact h)
      exact List.forall_mem_cons.mpr ⟨hsealed.partsHolding_eq, ih hr⟩

/-! ## A pipe behind a text -/

/-- The text, of which the first characters are held, ends in a backslash that is not held. -/
def unpairedHolding : Nat → Text → Bool
  | _, [] => false
  | n + 1, _ :: t => unpairedHolding n t
  | 0, c :: t => (c = '\\' && t = []) || unpairedHolding (held c t) t

/-- The text ends in an unpaired backslash. -/
def endsUnpaired (t : Text) : Bool := unpairedHolding 0 t

/-- Only an unpaired backslash holds more than there is. -/
theorem held_le_length {c : Char} {t : Text} (h : ¬(c = '\\' ∧ t = [])) :
    held c t ≤ t.length := by
  by_cases h₁ : c = '\\'
  · rw [h₁, held_backslash]
    exact List.length_pos_iff.mpr fun ht => h ⟨h₁, ht⟩
  by_cases h₂ : c = '`'
  · rw [h₂]
    exact held_backtick_le t
  · rw [held_other h₁ h₂]
    exact Nat.zero_le _

/-- What a character holds does not depend on a pipe at the end of the text. -/
@[simp] theorem held_concat_pipe (c : Char) (t : Text) : held c (t ++ ['|']) = held c t := by
  refine held_append_pipe fun _ hcl => ?_
  rw [closes_of_not_mem (Nat.succ_pos _) List.not_mem_nil] at hcl
  cases hcl

/-- A character goes into the first part, whatever parts follow. -/
theorem intoFirst_append {ps : List Text} (hps : ps ≠ []) (c : Char) (qs : List Text) :
    intoFirst c (ps ++ qs) = intoFirst c ps ++ qs := by
  cases ps with
  | nil => exact absurd rfl hps
  | cons p ps => rfl

/-- Behind a text without an unpaired backslash, a pipe cuts off an empty part. -/
theorem partsHolding_concat_pipe {n : Nat} {t : Text} (hn : n ≤ t.length)
    (h : unpairedHolding n t = false) :
    partsHolding n (t ++ ['|']) = partsHolding n t ++ [[]] := by
  induction t generalizing n with
  | nil =>
    obtain rfl : n = 0 := Nat.le_zero.mp hn
    rfl
  | cons c t ih =>
    have into (k : Nat) := intoFirst_append (partsHolding_ne_nil k t) c [[]]
    cases n with
    | succ n =>
      rw [List.cons_append, partsHolding, ih (Nat.le_of_succ_le_succ hn) h, into, partsHolding]
    | zero =>
      rw [unpairedHolding, Bool.or_eq_false_iff] at h
      obtain ⟨hlast, h⟩ := h
      have hheld : held c t ≤ t.length := held_le_length (by simpa using hlast)
      by_cases hc : c = '|'
      · subst hc
        simp [parts, ih (Nat.zero_le _) h]
      · simp [partsHolding_zero_cons hc, ih hheld h, into]

/-- An unpaired backslash ends the last part, and a pipe behind it falls into this part, too. -/
theorem partsHolding_concat_pipe_of_unpaired {n : Nat} {t : Text}
    (h : unpairedHolding n t = true) :
    ∃ ps p, partsHolding n t = ps ++ [p ++ ['\\']] ∧
      partsHolding n (t ++ ['|']) = ps ++ [p ++ ['\\', '|']] := by
  induction t generalizing n with
  | nil =>
    rw [unpairedHolding] at h
    cases h
  | cons c t ih =>
    -- a character before the text begins its first part, which may be the last one as well
    have into : ∀ k, unpairedHolding k t = true → ∃ ps p,
        intoFirst c (partsHolding k t) = ps ++ [p ++ ['\\']] ∧
          intoFirst c (partsHolding k (t ++ ['|'])) = ps ++ [p ++ ['\\', '|']] := by
      intro k hk
      obtain ⟨ps, p, hparts, hpipe⟩ := ih hk
      rw [hparts, hpipe]
      cases ps with
      | nil => exact ⟨[], c :: p, rfl, rfl⟩
      | cons q ps => exact ⟨(c :: q) :: ps, p, rfl, rfl⟩
    cases n with
    | succ n =>
      rw [List.cons_append, partsHolding, partsHolding]
      exact into n h
    | zero =>
      rw [unpairedHolding, Bool.or_eq_true, Bool.and_eq_true, decide_eq_true_eq,
        decide_eq_true_eq] at h
      rcases h with ⟨rfl, rfl⟩ | h
      · exact ⟨[], [], rfl, rfl⟩
      · by_cases hc : c = '|'
        · subst hc
          obtain ⟨ps, p, hparts, hpipe⟩ := ih h
          refine ⟨[] :: ps, p, ?_, ?_⟩
          · rw [partsHolding_zero_pipe, parts, List.cons_append]
            exact congrArg _ hparts
          · rw [List.cons_append, partsHolding_zero_pipe, parts, List.cons_append]
            exact congrArg _ hpipe
        · rw [List.cons_append, partsHolding_zero_cons hc, partsHolding_zero_cons hc,
            held_concat_pipe]
          exact into _ h

/-- An unpaired backslash takes in the pipe that is put behind it. -/
theorem exists_parts_of_unpaired {t : Text} (h : ¬endsUnpaired t = false) :
    ∃ ps p, parts t = ps ++ [p ++ ['\\']] ∧ parts (t ++ ['|']) = ps ++ [p ++ ['\\', '|']] :=
  partsHolding_concat_pipe_of_unpaired ((Bool.not_eq_false _).mp h)

/-- A pipe behind a text cuts off an empty part if and only if the text does not end in an unpaired
backslash. -/
theorem parts_concat_pipe_iff (t : Text) :
    parts (t ++ ['|']) = parts t ++ [[]] ↔ endsUnpaired t = false := by
  constructor
  · intro h
    by_contra hunpaired
    obtain ⟨ps, p, hparts, hpipe⟩ := exists_parts_of_unpaired hunpaired
    rw [hparts, hpipe] at h
    exact absurd (congrArg List.length h) (by simp)
  · exact partsHolding_concat_pipe (Nat.zero_le _)

/-- Nothing is lost when a text is cut, and its parts cannot be cut further: with a pipe between
each two they are the text, and each of them is its own only part. With one more pipe behind it, the
text has the same parts and an empty one, unless it ends in an unpaired backslash; then the pipe
goes into the last part, behind the backslash. -/
theorem parts_lossless (t : Text) :
    Text.joined ['|'] (parts t) = t ∧ (∀ p ∈ parts t, parts p = [p]) ∧
      (parts (t ++ ['|']) = parts t ++ [[]] ↔ endsUnpaired t = false) ∧
      (endsUnpaired t = true → ∃ ps p, parts t = ps ++ [p ++ ['\\']] ∧
        parts (t ++ ['|']) = ps ++ [p ++ ['\\', '|']]) :=
  ⟨joined_parts t, parts_of_mem rfl, parts_concat_pipe_iff t,
    partsHolding_concat_pipe_of_unpaired⟩

/-- The second of two backticks begins a span that holds a pipe, and the last backslash is not held:
a part that holds the span, and a pipe that the backslash takes in. -/
theorem parts_lossless_unpaired :
    Text.joined ['|'] (parts "``a|b`c|d\\".toList) = "``a|b`c|d\\".toList ∧
      parts "``a|b`c".toList = ["``a|b`c".toList] ∧
      parts "``a|b`c|d\\|".toList ≠ parts "``a|b`c|d\\".toList ++ [[]] ∧
      ∃ ps p, parts "``a|b`c|d\\".toList = ps ++ [p ++ ['\\']] ∧
        parts "``a|b`c|d\\|".toList = ps ++ [p ++ ['\\', '|']] := by
  obtain ⟨hjoined, hpart, hpipe, hunpaired⟩ := parts_lossless "``a|b`c|d\\".toList
  have hends : endsUnpaired "``a|b`c|d\\".toList = true := by decide
  refine ⟨hjoined, hpart "``a|b`c".toList (by decide), fun h => ?_, hunpaired hends⟩
  exact absurd (hends.symm.trans (hpipe.mp h)) (by decide)

end TextTable.Row
