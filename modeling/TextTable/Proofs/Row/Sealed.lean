import TextTable.Proofs.Row.Fences

/-!
# Sealed texts

A text is `Sealed` before another one when, scanned from its start, it has no pipe that divides and
no run of backticks whose span ends only in the other text. A sealed text that is closed by a blank
and a pipe is one part of its line (`partsHolding_of_sealed`): the blank takes the place of whatever
a last backslash protects. The other way round, each part of a line is sealed before the rest of the
line, and so is what trimming leaves of it (`sealed_of_partsHolding`).

What stands behind a text can only matter by the runs of backticks in it, so a sealed text stays
sealed before any other one that has no further runs (`Sealed.mono`).
-/

namespace TextTable.Row

/-! ## What a character holds -/

/-- A run is not longer than the text. -/
theorem backticks_le (t : Text) : backticks t ≤ t.length :=
  (List.takeWhile_sublist _).length_le

/-- A run ends before any other character. -/
theorem backticks_append_cons (p : Text) {d : Char} (hd : d ≠ '`') (r : Text) :
    backticks (p ++ d :: r) = backticks p := by
  induction p with
  | nil => simp [backticks, hd]
  | cons c p ih =>
    rw [backticks, backticks] at ih ⊢
    by_cases hc : c = '`' <;> simp [hc, ih]

/-- Blanks do not prolong a run. -/
theorem backticks_append_blank (p : Text) {r : Text} (hr : Text.Blank r) :
    backticks (p ++ r) = backticks p := by
  cases r with
  | nil => rw [List.append_nil]
  | cons d r =>
    exact backticks_append_cons p hr.plain.head.2.2 r

/-- The text behind the run of backticks that a text begins with. -/
abbrev afterBackticks (t : Text) : Text := t.drop (backticks t)

/-- A backslash holds the next character, whatever it is. -/
@[simp] theorem held_backslash (rest : Text) : held '\\' rest = 1 := by
  rw [held, if_pos rfl]

/-- A backtick holds the rest of its run and the span up to its end, if there is one. -/
theorem held_backtick (rest : Text) :
    held '`' rest =
      ((spanEnd? (backticks rest + 1) 0 (afterBackticks rest)).map
        (backticks rest + ·)).getD 0 := by
  rw [held, if_neg (by decide), if_pos rfl]
  cases spanEnd? (backticks rest + 1) 0 (afterBackticks rest) <;> rfl

/-- No other character holds anything. -/
theorem held_other {c : Char} (h₁ : c ≠ '\\') (h₂ : c ≠ '`') (rest : Text) : held c rest = 0 := by
  rw [held, if_neg h₁, if_neg h₂]

/-- A code span ends within its line. -/
theorem held_backtick_le (rest : Text) : held '`' rest ≤ rest.length := by
  rw [held_backtick]
  cases h : spanEnd? (backticks rest + 1) 0 (afterBackticks rest) with
  | none => exact Nat.zero_le _
  | some n =>
    have hn := spanEnd?_le h
    rw [List.length_drop] at hn
    have hb := backticks_le rest
    simp only [Option.map_some, Option.getD_some]
    omega

/-- No more than one character behind the end is held, and that by a backslash. -/
theorem held_le (c : Char) (rest : Text) : held c rest ≤ rest.length + 1 := by
  by_cases h₁ : c = '\\'
  · rw [h₁, held_backslash]
    omega
  by_cases h₂ : c = '`'
  · rw [h₂]
    exact (held_backtick_le rest).trans (Nat.le_succ _)
  · rw [held_other h₁ h₂]
    exact Nat.zero_le _

/-- Blanks at the end close no span. -/
theorem held_append_blank (c : Char) (p : Text) {r : Text} (hr : Text.Blank r) :
    held c (p ++ r) = held c p := by
  by_cases h₁ : c = '\\'
  · simp [h₁]
  by_cases h₂ : c = '`'
  · rw [h₂, held_backtick, held_backtick, afterBackticks, backticks_append_blank p hr,
      List.drop_append_of_le_length (backticks_le p), spanEnd?_append_blank (Nat.succ_pos _) 0 _ hr]
  · rw [held_other h₁ h₂, held_other h₁ h₂]

/-- A run of backticks at the start of `c :: p` whose span would end in `r` ends before that, in `p`
itself. -/
def NoSpanInto (r : Text) (c : Char) (p : Text) : Prop :=
  c = '`' → closes (backticks p + 1) r = true →
    closes (backticks p + 1) (afterBackticks p) = true

/-- What a character holds before a pipe, when its span does not cross the pipe. -/
theorem held_append_pipe {c : Char} {p r : Text} (h : NoSpanInto r c p) :
    held c (p ++ '|' :: r) = held c p := by
  by_cases h₁ : c = '\\'
  · simp [h₁]
  by_cases h₂ : c = '`'
  · have hd : '|' ≠ '`' := by decide
    have hspan : spanEnd? (backticks p + 1) 0 (afterBackticks p ++ '|' :: r) =
        spanEnd? (backticks p + 1) 0 (afterBackticks p) := by
      have hc := h h₂
      rw [spanEnd?_append_cons _ hd]
      rw [closes, closes] at hc
      cases hin : spanEnd? (backticks p + 1) 0 (afterBackticks p) with
      | some n => rfl
      | none =>
        rw [hin] at hc
        cases hout : spanEnd? (backticks p + 1) 0 r with
        | none => rfl
        | some n =>
          rw [hout] at hc
          exact absurd (hc rfl) (by decide)
    rw [h₂, held_backtick, held_backtick, afterBackticks, backticks_append_cons p hd,
      List.drop_append_of_le_length (backticks_le p), hspan]
  · rw [held_other h₁ h₂, held_other h₁ h₂]

/-- A span that crosses a pipe holds the pipe. -/
theorem length_lt_held {c : Char} {p r : Text} (h : ¬ NoSpanInto r c p) :
    p.length < held c (p ++ '|' :: r) := by
  simp only [NoSpanInto, Classical.not_imp, Bool.not_eq_true] at h
  obtain ⟨rfl, hout, hin⟩ := h
  have hd : '|' ≠ '`' := by decide
  rw [closes] at hin hout
  obtain ⟨n, hn⟩ := Option.isSome_iff_exists.mp hout
  have hnone : spanEnd? (backticks p + 1) 0 (afterBackticks p) = none := by
    simpa using hin
  rw [held_backtick, afterBackticks, backticks_append_cons p hd,
    List.drop_append_of_le_length (backticks_le p), spanEnd?_append_cons _ hd, hnone, hn]
  have hb := backticks_le p
  simp only [Option.none_or, Option.map_some, Option.getD_some, List.length_drop]
  omega

/-! ## Sealed texts -/

/-- The text, of which the first characters are held, is sealed before the text `r`. -/
def Sealed (r : Text) : (holding : Nat) → Text → Prop
  | _, [] => True
  | n + 1, _ :: p => Sealed r n p
  | 0, c :: p => c ≠ '|' ∧ NoSpanInto r c p ∧ Sealed r (held c p) p

/-- An empty text has nothing to seal. -/
theorem sealed_nil (r : Text) (n : Nat) : Sealed r n [] := by
  cases n <;> exact trivial

/-- A text that closes fewer fences leaves sealed what is sealed. -/
theorem Sealed.mono {r r' : Text} (hr : FencesIn r' r) {n : Nat} {p : Text}
    (h : Sealed r n p) : Sealed r' n p := by
  induction p generalizing n with
  | nil => exact sealed_nil r' n
  | cons c p ih =>
    cases n with
    | succ n => exact ih (n := n) h
    | zero =>
      obtain ⟨hc, hspan, h⟩ := h
      exact ⟨hc, fun hb hcl => hspan hb (hr _ (Nat.succ_pos _) hcl), ih h⟩

/-- A plain text is sealed before anything. -/
theorem sealed_of_plain (r : Text) (n : Nat) {p : Text} (hp : Text.Plain p) : Sealed r n p := by
  induction p generalizing n with
  | nil => exact sealed_nil r n
  | cons c p ih =>
    cases n with
    | succ n => exact ih n hp.tail
    | zero => exact ⟨hp.head.1, fun hb => absurd hb hp.head.2.2, ih _ hp.tail⟩

/-- White space at the start of a text changes nothing. -/
theorem sealed_blank_append {r l : Text} (hl : Text.Blank l) (p : Text) :
    Sealed r 0 (l ++ p) ↔ Sealed r 0 p := by
  induction l with
  | nil => exact Iff.rfl
  | cons c l ih =>
    obtain ⟨h₁, h₂, h₃⟩ := hl.plain.head
    have hheld : held c (l ++ p) = 0 := held_other h₂ h₃ _
    rw [← ih fun d hd => hl d (List.mem_cons_of_mem _ hd), List.cons_append]
    refine ⟨fun ⟨_, _, h⟩ => hheld ▸ h, fun h => ⟨h₁, fun hb => absurd hb h₃, ?_⟩⟩
    rwa [hheld]

/-! ## Parts and sealed texts -/

@[simp] theorem intoFirst_cons (c : Char) (p : Text) (ps : List Text) :
    intoFirst c (p :: ps) = (c :: p) :: ps := rfl

theorem intoFirst_eq_cons {c d : Char} {qs : List Text} {p : Text} {ps : List Text}
    (hq : qs ≠ []) (h : intoFirst c qs = (d :: p) :: ps) : c = d ∧ qs = p :: ps := by
  cases qs with
  | nil => exact absurd rfl hq
  | cons q qs =>
    rw [intoFirst_cons] at h
    injection h with h₁ h₂
    injection h₁ with h₃ h₄
    exact ⟨h₃, by rw [h₄, h₂]⟩

/-- A character other than a pipe goes into the first part. -/
theorem partsHolding_zero_cons {c : Char} (hc : c ≠ '|') (rest : Text) :
    partsHolding 0 (c :: rest) = intoFirst c (partsHolding (held c rest) rest) := by
  rw [partsHolding, if_neg hc]

/-- A pipe that is not held ends the part. -/
@[simp] theorem partsHolding_zero_pipe (rest : Text) :
    partsHolding 0 ('|' :: rest) = [] :: parts rest := by
  rw [partsHolding, if_pos rfl, parts]

/-- What is held is in the first part. -/
theorem le_length_of_partsHolding : ∀ {n : Nat} {t p : Text} {ps : List Text},
    partsHolding n t = p :: ps → n ≤ t.length → n ≤ p.length
  | 0, _, _, _, _, _ => Nat.zero_le _
  | n + 1, [], p, ps, _, hn => absurd hn (by simp)
  | n + 1, c :: t, p, ps, h, hn => by
      obtain ⟨q, qs, hq⟩ := List.exists_cons_of_ne_nil (partsHolding_ne_nil n t)
      rw [partsHolding, hq, intoFirst_cons] at h
      injection h with h₁ h₂
      have := le_length_of_partsHolding hq (by simpa using hn)
      rw [← h₁]
      simpa using this

/-- A plain text is one part before a pipe. -/
theorem parts_plain_append_pipe {p : Text} (hp : Text.Plain p) (r : Text) :
    parts (p ++ '|' :: r) = p :: parts r := by
  induction p with
  | nil => exact partsHolding_zero_pipe r
  | cons c p ih =>
    obtain ⟨h₁, h₂, h₃⟩ := hp.head
    rw [List.cons_append, parts, partsHolding_zero_cons h₁, held_other h₂ h₃, ← parts, ih hp.tail]
    rfl

/-- A sealed text that ends in a blank is one part before a pipe. -/
theorem partsHolding_of_sealed {r ws : Text} (hws : Text.Blank ws) (hne : ws ≠ []) :
    ∀ {n : Nat} {p : Text}, n ≤ p.length + 1 → Sealed r n p →
      partsHolding n (p ++ ws ++ '|' :: r) = (p ++ ws) :: parts r := by
  intro n p
  -- by induction on the text; a bound on what is held carries over to each rest of it
  induction p generalizing n with
  | nil =>
    intro hn _
    cases n with
    | zero => exact parts_plain_append_pipe hws.plain r
    | succ n =>
      -- a backslash holds the first of the blanks
      obtain ⟨c, ws, rfl⟩ := List.exists_cons_of_ne_nil hne
      obtain rfl : n = 0 := by simpa using hn
      rw [List.nil_append, List.cons_append, partsHolding, ← parts,
        parts_plain_append_pipe hws.plain.tail]
      rfl
  | cons c p ih =>
    intro hn h
    cases n with
    | succ n =>
      rw [List.cons_append, List.cons_append, partsHolding, ih (by simpa using hn) h]
      rfl
    | zero =>
      obtain ⟨hc, hspan, h⟩ := h
      have hspan' : NoSpanInto r c (p ++ ws) := by
        intro hb hcl
        rw [afterBackticks, backticks_append_blank p hws,
          List.drop_append_of_le_length (backticks_le p)]
        rw [backticks_append_blank p hws] at hcl
        rw [closes_append_blank (Nat.succ_pos _) _ hws]
        exact hspan hb hcl
      rw [List.cons_append, List.cons_append, partsHolding_zero_cons hc, held_append_pipe hspan',
        held_append_blank c p hws, ih (held_le c p) h]
      rfl

/-- A part before a pipe is sealed before what is behind the pipe, up to its last blanks. -/
theorem sealed_of_partsHolding {r ws : Text} (hws : Text.Blank ws) {ps : List Text} :
    ∀ {n : Nat} {p : Text}, partsHolding n (p ++ ws ++ '|' :: r) = (p ++ ws) :: ps →
      Sealed r n p := by
  intro n p
  induction p generalizing n with
  | nil => exact fun _ => sealed_nil r n
  | cons c p ih =>
    intro h
    cases n with
    | succ n =>
      rw [List.cons_append, List.cons_append, partsHolding] at h
      exact ih (intoFirst_eq_cons (partsHolding_ne_nil _ _) h).2
    | zero =>
      have hc : c ≠ '|' := by
        rintro rfl
        rw [List.cons_append, List.cons_append, partsHolding_zero_pipe] at h
        cases h
      rw [List.cons_append, List.cons_append, partsHolding_zero_cons hc] at h
      have hparts := (intoFirst_eq_cons (partsHolding_ne_nil _ _) h).2
      -- a span over the pipe would make the part longer
      have hspan : NoSpanInto r c (p ++ ws) := by
        refine Classical.byContradiction fun hno => ?_
        have hlt := length_lt_held hno
        have hb : c = '`' := (Classical.not_imp.mp hno).1
        have := le_length_of_partsHolding hparts (hb ▸ held_backtick_le _)
        omega
      rw [held_append_pipe hspan, held_append_blank c p hws] at hparts
      refine ⟨hc, fun hb hcl => ?_, ih hparts⟩
      have := hspan hb (by rwa [backticks_append_blank p hws])
      rwa [afterBackticks, backticks_append_blank p hws,
        List.drop_append_of_le_length (backticks_le p),
        closes_append_blank (Nat.succ_pos _) _ hws] at this

/-- The last part of a line is sealed before nothing, up to its last blanks. -/
theorem sealed_of_partsHolding_last {ws : Text} (hws : Text.Blank ws) :
    ∀ {n : Nat} {p : Text}, partsHolding n (p ++ ws) = [p ++ ws] → Sealed [] n p := by
  intro n p
  induction p generalizing n with
  | nil => exact fun _ => sealed_nil [] n
  | cons c p ih =>
    intro h
    cases n with
    | succ n =>
      rw [List.cons_append, partsHolding] at h
      exact ih (intoFirst_eq_cons (partsHolding_ne_nil _ _) h).2
    | zero =>
      have hc : c ≠ '|' := by
        rintro rfl
        rw [List.cons_append, partsHolding_zero_pipe] at h
        cases h
      rw [List.cons_append, partsHolding_zero_cons hc, held_append_blank c p hws] at h
      -- nothing is behind the part, so no fence is closed there
      refine ⟨hc, fun _ hcl => ?_, ih (intoFirst_eq_cons (partsHolding_ne_nil _ _) h).2⟩
      rw [closes_of_not_mem (Nat.succ_pos _) List.not_mem_nil] at hcl
      cases hcl

end TextTable.Row
