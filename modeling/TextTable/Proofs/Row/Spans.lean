import TextTable.Proofs.Row.Parts

/-!
# Code spans

What a line is made of, said by a grammar: plain characters, escaped characters, runs of backticks
that are text, code spans, and between them the pipes that divide (`Piece`, `CutBy`). The grammar
leaves open how many backticks of a run open a span. By the `whole` rule all of them do if a run of
as many follows, and otherwise none. By the `most` rule as many as possible do, the last ones of the
run, and those before them are text. A line is cut into its parts by the `most` rule
(`CutBy.parts_eq`), for a run that is no fence is looked at again without its first backtick. Both
rules cut a text in one way only (`exists_cutBy`, `CutBy.unique`), and in the same way unless a run
that is text by the `whole` rule comes before a shorter one (`CutBy.most_of_whole`).
-/

namespace TextTable.Row

/-! ## Runs of backticks -/

/-- `n` backticks. -/
def ticks (n : Nat) : Text := List.replicate n '`'

/-- The text does not begin with a backtick. -/
def StartsPlain (t : Text) : Prop := t.head? ≠ some '`'

/-- The text does not end with a backtick. -/
def EndsPlain (t : Text) : Prop := t.getLast? ≠ some '`'

/-- A run of exactly `n` backticks is in the text, with no backtick before or behind it. -/
def HasRun (n : Nat) (t : Text) : Prop :=
  ∃ u v, t = u ++ ticks n ++ v ∧ EndsPlain u ∧ StartsPlain v

@[simp] theorem ticks_succ (n : Nat) : ticks (n + 1) = '`' :: ticks n := List.replicate_succ

@[simp] theorem length_ticks (n : Nat) : (ticks n).length = n := List.length_replicate

theorem ticks_add (m n : Nat) : ticks (m + n) = ticks m ++ ticks n := by
  rw [ticks, ticks, ticks, List.replicate_append_replicate]

/-- A text is the run of backticks that it begins with, and a text without a backtick in front. -/
theorem exists_ticks (t : Text) : ∃ n s, t = ticks n ++ s ∧ StartsPlain s := by
  induction t with
  | nil => exact ⟨0, [], rfl, by simp [StartsPlain]⟩
  | cons c t ih =>
    by_cases hc : c = '`'
    · obtain ⟨n, s, rfl, hs⟩ := ih
      exact ⟨n + 1, s, by rw [hc, ticks_succ, List.cons_append], hs⟩
    · exact ⟨0, c :: t, rfl, by simpa [StartsPlain] using hc⟩

theorem backticks_ticks_append (n : Nat) {s : Text} (hs : StartsPlain s) :
    backticks (ticks n ++ s) = n := by
  induction n with
  | zero =>
    cases s with
    | nil => rfl
    | cons d s =>
      have hd : d ≠ '`' := by simpa [StartsPlain] using hs
      simp [ticks, backticks, hd]
  | succ n ih =>
    rw [backticks] at ih ⊢
    simp [ticks_succ, ih]

/-- The run in front of a text and what is behind it are determined by the text. -/
theorem ticks_append_inj {m n : Nat} {r s : Text} (hr : StartsPlain r) (hs : StartsPlain s)
    (h : ticks m ++ r = ticks n ++ s) : m = n ∧ r = s := by
  have hlen : m = n := by rw [← backticks_ticks_append m hr, h, backticks_ticks_append n hs]
  subst hlen
  exact ⟨rfl, List.append_cancel_left h⟩

/-! ## The first run of a length -/

/-- What a text ends in is not changed by what comes before it. -/
theorem endsPlain_append_cons {d : Char} (hd : d ≠ '`') {u : Text} (hu : EndsPlain u) (t : Text) :
    EndsPlain (t ++ d :: u) := by
  rw [EndsPlain] at hu ⊢
  cases u with
  | nil => simpa using hd
  | cons e u => simpa [List.getLast?_cons] using hu

/-- A run that goes on to the end of the text ends a span if it has the length of the fence. -/
theorem spanEnd?_ticks (f run n : Nat) :
    spanEnd? f run (ticks n) = if run + n = f then some n else none := by
  induction n generalizing run with
  | zero => simp [ticks, spanEnd?]
  | succ n ih =>
    rw [ticks_succ, spanEnd?, if_pos rfl, ih, Nat.add_right_comm, Nat.add_assoc]
    split <;> rfl

/-- A run in front is passed unless it has the length, and with it the character behind it. -/
theorem spanEnd?_ticks_append (f n : Nat) {d : Char} (hd : d ≠ '`') (s : Text) :
    spanEnd? f 0 (ticks n ++ d :: s) =
      if n = f then some n else (spanEnd? f 0 s).map (· + (n + 1)) := by
  rw [spanEnd?_append_cons f hd, spanEnd?_ticks, Nat.zero_add, length_ticks]
  split <;> simp

theorem spanEnd?_run_append (f : Nat) {v : Text} (hv : StartsPlain v) :
    spanEnd? f 0 (ticks f ++ v) = some f := by
  cases v with
  | nil => rw [List.append_nil, spanEnd?_ticks, Nat.zero_add, if_pos rfl]
  | cons d v =>
    have hd : d ≠ '`' := by simpa [StartsPlain] using hv
    rw [spanEnd?_ticks_append f f hd, if_pos rfl]

/-- A run of the length of a fence closes it. -/
theorem closes_of_hasRun {f : Nat} {t : Text} (h : HasRun f t) : closes f t = true := by
  obtain ⟨u, v, rfl, hu, hv⟩ := h
  have hrun : closes f (ticks f ++ v) = true := by rw [closes, spanEnd?_run_append f hv]; rfl
  rcases List.eq_nil_or_concat u with rfl | ⟨u, d, rfl⟩
  · exact hrun
  · have hd : d ≠ '`' := by simpa [EndsPlain] using hu
    rw [List.concat_eq_append, List.append_assoc, List.append_assoc, List.singleton_append,
      closes_append_cons f u hd, hrun, Bool.or_true]

/-- The search for the end of a span finds the first run of the length. -/
theorem exists_run_of_spanEnd? {f : Nat} (hf : 0 < f) :
    ∀ {t : Text} {k : Nat}, spanEnd? f 0 t = some k →
      ∃ u v, t = u ++ ticks f ++ v ∧ closes f u = false ∧ EndsPlain u ∧ StartsPlain v ∧
        u.length + f = k := by
  intro t
  induction hlen : t.length using Nat.strongRecOn generalizing t with
  | ind length ih =>
    intro k h
    obtain ⟨n, s, rfl, hs⟩ := exists_ticks t
    have hfirst : closes f [] = false := closes_of_not_mem hf List.not_mem_nil
    cases s with
    | nil =>
      rw [List.append_nil, spanEnd?_ticks, Nat.zero_add] at h
      obtain ⟨rfl, hk⟩ := Option.ite_none_right_eq_some.mp h
      obtain rfl := Option.some.inj hk
      exact ⟨[], [], by simp, hfirst, by simp [EndsPlain], hs, Nat.zero_add _⟩
    | cons d s =>
      have hd : d ≠ '`' := by simpa [StartsPlain] using hs
      rw [spanEnd?_ticks_append f n hd] at h
      by_cases hn : n = f
      · subst hn
        rw [if_pos rfl] at h
        obtain rfl := Option.some.inj h
        exact ⟨[], d :: s, rfl, hfirst, by simp [EndsPlain], hs, Nat.zero_add _⟩
      · rw [if_neg hn] at h
        obtain ⟨k, hk, rfl⟩ := Option.map_eq_some_iff.mp h
        have hlt : s.length < length := by
          rw [← hlen, List.length_append, List.length_cons]
          omega
        obtain ⟨u, v, rfl, hu, hplain, hv, rfl⟩ := ih s.length hlt rfl hk
        refine ⟨ticks n ++ d :: u, v, by simp, ?_, endsPlain_append_cons hd hplain _, hv, ?_⟩
        · rw [closes_append_cons f _ hd, hu, closes, spanEnd?_ticks, Nat.zero_add, if_neg hn]
          rfl
        · rw [List.length_append, List.length_cons, length_ticks]
          omega

/-- A fence is closed by a run of its length, and by nothing else. -/
theorem hasRun_iff {f : Nat} (hf : 0 < f) {t : Text} : HasRun f t ↔ closes f t = true := by
  refine ⟨closes_of_hasRun, fun h => ?_⟩
  obtain ⟨k, hk⟩ := Option.isSome_iff_exists.mp h
  obtain ⟨u, v, rfl, -, hu, hv, -⟩ := exists_run_of_spanEnd? hf hk
  exact ⟨u, v, rfl, hu, hv⟩

/-- Between `u` and `v`, a run of exactly `f` backticks would be the first one. -/
structure FirstRun (f : Nat) (u v : Text) : Prop where
  none_before : ¬HasRun f u
  plain_before : EndsPlain u
  plain_behind : StartsPlain v

/-- A span ends behind the first run of the length of its fence. -/
theorem spanEnd?_eq_some_iff {f : Nat} (hf : 0 < f) {t : Text} {k : Nat} :
    spanEnd? f 0 t = some k ↔ ∃ u v, t = u ++ ticks f ++ v ∧ FirstRun f u v ∧ u.length + f = k := by
  constructor
  · intro h
    obtain ⟨u, v, ht, hnone, hu, hv, hk⟩ := exists_run_of_spanEnd? hf h
    refine ⟨u, v, ht, ⟨fun hrun => ?_, hu, hv⟩, hk⟩
    rw [closes_of_hasRun hrun] at hnone
    cases hnone
  · rintro ⟨u, v, rfl, ⟨hnone, hu, hv⟩, rfl⟩
    rcases List.eq_nil_or_concat u with rfl | ⟨u, d, rfl⟩
    · rw [List.length_nil, Nat.zero_add]
      exact spanEnd?_run_append f hv
    · have hd : d ≠ '`' := by simpa [EndsPlain] using hu
      rw [hasRun_iff hf, List.concat_eq_append, closes_append_cons f u hd, Bool.or_eq_true,
        not_or] at hnone
      have hbefore : spanEnd? f 0 u = none := by simpa [closes] using hnone.1
      rw [List.concat_eq_append, List.append_assoc, List.append_assoc, List.singleton_append,
        spanEnd?_append_cons f hd, hbefore, spanEnd?_run_append f hv, List.length_append]
      simp [Nat.add_comm]

/-! ## The grammar -/

/-- A rule that says how many backticks of a run open a span: of the `n` backticks before the text
`s`, the last `k`. -/
abbrev Opening := (n : Nat) → (s : Text) → (k : Nat) → Prop

/-- All backticks of a run open a span if a run of as many follows, and otherwise none. -/
def whole : Opening := fun n s k => (HasRun n s ∧ k = n) ∨ (¬HasRun n s ∧ k = 0)

/-- As many backticks of a run open a span as some following run has. -/
def most : Opening := fun n s k =>
  k ≤ n ∧ (k = 0 ∨ HasRun k s) ∧ ∀ j, k < j → j ≤ n → ¬HasRun j s

/-- The text `u` before `r` is one piece of a line: it is taken as it stands. -/
inductive Piece (opens : Opening) : (u r : Text) → Prop
  /-- a character without a meaning -/
  | plain {c r} (pipe : c ≠ '|') (backslash : c ≠ '\\') (backtick : c ≠ '`') : Piece opens [c] r
  /-- a backslash and the character that it protects -/
  | escaped (c r) : Piece opens ['\\', c] r
  /-- a backslash with nothing to protect -/
  | backslash : Piece opens ['\\'] []
  /-- a run of backticks that are text -/
  | run {n r} (pos : 0 < n) (all : StartsPlain r) (text : opens n r 0) : Piece opens (ticks n) r
  /-- a run of backticks of which the last `k` open a span, up to the end of the span -/
  | span {n k body r} (pos : 0 < k) (le : k ≤ n) (all : StartsPlain (body ++ ticks k ++ r))
      (fence : opens n (body ++ ticks k ++ r) k) (first : FirstRun k body r) :
      Piece opens (ticks n ++ (body ++ ticks k)) r

/-- The text is cut into these parts: at each pipe that is not inside a piece. -/
inductive CutBy (opens : Opening) : (t : Text) → (ps : List Text) → Prop
  | nil : CutBy opens [] [[]]
  | pipe {r ps} (rest : CutBy opens r ps) : CutBy opens ('|' :: r) ([] :: ps)
  | piece {u r p ps} (piece : Piece opens u r) (rest : CutBy opens r (p :: ps)) :
      CutBy opens (u ++ r) ((u ++ p) :: ps)

/-- A scan of `t` from piece to piece comes to `s`. -/
inductive Scans (opens : Opening) : (t s : Text) → Prop
  | here (t) : Scans opens t t
  | pipe {r s} (rest : Scans opens r s) : Scans opens ('|' :: r) s
  | piece {u r s} (piece : Piece opens u r) (rest : Scans opens r s) : Scans opens (u ++ r) s

/-! ## Cutting by the most rule -/

/-- What is held is put before the first part of the rest. -/
theorem partsHolding_append {k : Nat} {s p : Text} {ps : List Text}
    (h : partsHolding k s = p :: ps) (u : Text) :
    partsHolding (u.length + k) (u ++ s) = (u ++ p) :: ps := by
  induction u with
  | nil => rwa [List.length_nil, Nat.zero_add]
  | cons c u ih =>
    rw [List.length_cons, Nat.add_right_comm, List.cons_append, partsHolding, ih]
    rfl

/-- The first backtick of a run holds the other ones, together with the span that they open, or
nothing. -/
theorem held_ticks_append (n : Nat) {s : Text} (hs : StartsPlain s) :
    held '`' (ticks n ++ s) = ((spanEnd? (n + 1) 0 s).map (n + ·)).getD 0 := by
  have hdrop : (ticks n ++ s).drop n = s := by
    rw [List.drop_append_of_le_length (length_ticks n).ge, List.drop_of_length_le
      (length_ticks n).le, List.nil_append]
  rw [held_backtick, afterBackticks, backticks_ticks_append n hs, hdrop]

/-- The first backtick of a run is text if no run of as many follows. -/
theorem parts_tick_cons {n : Nat} {s p : Text} {ps : List Text} (hs : StartsPlain s)
    (hnone : ¬HasRun (n + 1) s) (h : parts (ticks n ++ s) = p :: ps) :
    parts (ticks (n + 1) ++ s) = ('`' :: p) :: ps := by
  rw [hasRun_iff (Nat.succ_pos n), closes, Bool.not_eq_true, Option.isSome_eq_false_iff,
    Option.isNone_iff_eq_none] at hnone
  have hheld : held '`' (ticks n ++ s) = 0 := by
    rw [held_ticks_append n hs, hnone]
    rfl
  rw [ticks_succ, List.cons_append, parts, partsHolding_zero_cons (by decide), hheld, ← parts, h]
  rfl

/-- The backticks before those that open a span are text. -/
theorem parts_ticks_append {k n : Nat} {s p : Text} {ps : List Text} (hs : StartsPlain s)
    (h : parts (ticks k ++ s) = p :: ps) :
    (∀ j, k < j → j ≤ k + n → ¬HasRun j s) →
      parts (ticks (n + k) ++ s) = (ticks n ++ p) :: ps := by
  induction n with
  | zero =>
    intro _
    rw [Nat.zero_add]
    exact h
  | succ n ih =>
    intro hnone
    have hrest := ih fun j hj hle => hnone j hj (by omega)
    have hrun : ¬HasRun (n + k + 1) s := hnone (n + k + 1) (by omega) (by omega)
    rw [Nat.add_right_comm, parts_tick_cons hs hrun hrest]
    rfl

/-- A span is held up to its end. -/
theorem parts_span {k : Nat} {body r p : Text} {ps : List Text} (hk : 0 < k)
    (hall : StartsPlain (body ++ ticks k ++ r)) (hfirst : FirstRun k body r)
    (h : parts r = p :: ps) :
    parts (ticks k ++ (body ++ ticks k ++ r)) = (ticks k ++ (body ++ ticks k) ++ p) :: ps := by
  obtain ⟨m, rfl⟩ : ∃ m, k = m + 1 := ⟨k - 1, by omega⟩
  have hend : spanEnd? (m + 1) 0 (body ++ ticks (m + 1) ++ r) = some (body.length + (m + 1)) :=
    (spanEnd?_eq_some_iff hk).mpr ⟨body, r, rfl, hfirst, rfl⟩
  have hheld : held '`' (ticks m ++ (body ++ ticks (m + 1) ++ r)) =
      (ticks m ++ (body ++ ticks (m + 1))).length + 0 := by
    rw [held_ticks_append m hall, hend]
    simp [length_ticks]
  have hsplit : ticks m ++ (body ++ ticks (m + 1) ++ r) =
      ticks m ++ (body ++ ticks (m + 1)) ++ r := by simp
  rw [ticks_succ m, List.cons_append, parts, partsHolding_zero_cons (by decide), ← ticks_succ,
    hheld, hsplit, partsHolding_append h]
  rfl

/-- A piece goes into the first part of what is behind it. -/
theorem Piece.parts_append {u r p : Text} {ps : List Text} (hu : Piece most u r)
    (h : parts r = p :: ps) : parts (u ++ r) = (u ++ p) :: ps := by
  cases hu with
  | @plain c _ hpipe hbackslash hbacktick =>
    rw [List.singleton_append, parts, partsHolding_zero_cons hpipe,
      held_other hbackslash hbacktick, ← parts, h]
    rfl
  | escaped c =>
    have hheld := partsHolding_append (k := 0) h [c]
    rw [List.cons_append, parts, partsHolding_zero_cons (by decide), held_backslash]
    rw [List.length_singleton] at hheld
    rw [hheld]
    rfl
  | backslash =>
    obtain ⟨rfl, rfl⟩ := List.cons.inj h
    rfl
  | @run n _ hpos hall htext =>
    exact parts_ticks_append (k := 0) hall h fun j hj hle => htext.2.2 j hj (by omega)
  | @span n k body _ hpos hle hall hfence hfirst =>
    obtain ⟨m, rfl⟩ : ∃ m, n = m + k := ⟨n - k, by omega⟩
    have hspan := parts_span hpos hall hfirst h
    have hrun := parts_ticks_append (n := m) hall hspan fun j hj hle =>
      hfence.2.2 j hj (by omega)
    rw [ticks_add]
    simpa [ticks_add] using hrun

theorem CutBy.ne_nil {opens : Opening} {t : Text} {ps : List Text} (h : CutBy opens t ps) :
    ps ≠ [] := by
  cases h <;> exact List.cons_ne_nil _ _

/-- What is cut by the most rule is cut into its parts. -/
theorem CutBy.parts_eq {t : Text} {ps : List Text} (h : CutBy most t ps) : parts t = ps := by
  induction h with
  | nil => rfl
  | pipe _ ih => rw [parts, partsHolding_zero_pipe, ih]
  | piece hu _ ih => exact hu.parts_append ih

/-! ## Every text is cut in one way -/

/-- A rule that always says one number: none, or one that the run has and that closes the span. -/
structure Opening.Sane (opens : Opening) : Prop where
  total : ∀ n s, ∃ k, opens n s k
  unique : ∀ {n s k k'}, opens n s k → opens n s k' → k = k'
  closed : ∀ {n s k}, opens n s k → k ≤ n ∧ (k = 0 ∨ HasRun k s)

/-- By the whole rule a run opens a span or does not, and it is settled which span. -/
theorem sane_whole : Opening.Sane whole where
  total n s := by
    by_cases h : HasRun n s
    · exact ⟨n, Or.inl ⟨h, rfl⟩⟩
    · exact ⟨0, Or.inr ⟨h, rfl⟩⟩
  unique := by
    rintro n s k k' (⟨h, rfl⟩ | ⟨h, rfl⟩) (⟨h', rfl⟩ | ⟨h', rfl⟩)
    · rfl
    · exact absurd h h'
    · exact absurd h' h
    · rfl
  closed := by
    rintro n s k (⟨h, rfl⟩ | ⟨-, rfl⟩)
    · exact ⟨Nat.le_refl _, Or.inr h⟩
    · exact ⟨Nat.zero_le _, Or.inl rfl⟩

/-- By the most rule as well, since there is a greatest number of backticks that a run can open a
span with. -/
theorem sane_most : Opening.Sane most where
  total n s := by
    induction n with
    | zero => exact ⟨0, Nat.le_refl 0, Or.inl rfl, fun j hj hle => by omega⟩
    | succ n ih =>
      by_cases h : HasRun (n + 1) s
      · exact ⟨n + 1, Nat.le_refl _, Or.inr h, fun j hj hle => by omega⟩
      · obtain ⟨k, hle, hk, hnone⟩ := ih
        refine ⟨k, by omega, hk, fun j hj hle' => ?_⟩
        rcases Nat.lt_or_eq_of_le hle' with hlt | rfl
        · exact hnone j hj (by omega)
        · exact h
  unique := by
    rintro n s k k' ⟨hle, hk, hnone⟩ ⟨hle', hk', hnone'⟩
    rcases Nat.lt_trichotomy k k' with hlt | heq | hgt
    · exact absurd (hk'.resolve_left (by omega)) (hnone k' hlt hle')
    · exact heq
    · exact absurd (hk.resolve_left (by omega)) (hnone' k hgt hle)
  closed h := ⟨h.1, h.2.1⟩

section Sane

variable {opens : Opening} (h : opens.Sane)

include h

/-- A text that does not begin with a pipe begins with a piece. -/
theorem exists_piece {c : Char} (hc : c ≠ '|') (t : Text) :
    ∃ u r, c :: t = u ++ r ∧ Piece opens u r ∧ r.length ≤ t.length := by
  by_cases hbackslash : c = '\\'
  · subst hbackslash
    cases t with
    | nil => exact ⟨['\\'], [], rfl, .backslash, Nat.le_refl _⟩
    | cons d t => exact ⟨['\\', d], t, rfl, .escaped d t, Nat.le_succ _⟩
  by_cases hbacktick : c = '`'
  · subst hbacktick
    obtain ⟨n, s, rfl, hs⟩ := exists_ticks t
    have hcons : '`' :: (ticks n ++ s) = ticks (n + 1) ++ s := by
      simp
    obtain ⟨k, hopens⟩ := h.total (n + 1) s
    obtain ⟨hle, hclosed⟩ := h.closed hopens
    rcases Nat.eq_zero_or_pos k with rfl | hk
    · refine ⟨_, s, hcons, .run (Nat.succ_pos n) hs hopens, ?_⟩
      rw [List.length_append]
      exact Nat.le_add_left _ _
    · have hrun := (hasRun_iff hk).mp (hclosed.resolve_left hk.ne')
      obtain ⟨length, hend⟩ := Option.isSome_iff_exists.mp hrun
      obtain ⟨body, r, rfl, hfirst, -⟩ := (spanEnd?_eq_some_iff hk).mp hend
      refine ⟨_, r, ?_, .span hk hle hs hopens hfirst, ?_⟩
      · rw [hcons, List.append_assoc (ticks (n + 1))]
      · simp only [List.length_append]
        omega
  · exact ⟨[c], t, rfl, .plain hc hbackslash hbacktick, Nat.le_refl _⟩

/-- Every text can be cut. -/
theorem exists_cutBy (t : Text) : ∃ ps, CutBy opens t ps := by
  induction hlen : t.length using Nat.strongRecOn generalizing t with
  | ind length ih =>
    cases t with
    | nil => exact ⟨_, .nil⟩
    | cons c t =>
      have hlt : ∀ r : Text, r.length ≤ t.length → r.length < length := by
        intro r hr
        rw [← hlen]
        exact Nat.lt_succ_of_le hr
      by_cases hc : c = '|'
      · obtain ⟨ps, hps⟩ := ih t.length (hlt t (Nat.le_refl _)) t rfl
        rw [hc]
        exact ⟨_, .pipe hps⟩
      · obtain ⟨u, r, ht, hu, hr⟩ := exists_piece h hc t
        obtain ⟨ps, hps⟩ := ih r.length (hlt r hr) r rfl
        obtain ⟨p, ps, rfl⟩ := List.exists_cons_of_ne_nil hps.ne_nil
        rw [ht]
        exact ⟨_, .piece hu hps⟩

end Sane

/-- How much of `s` belongs to a span that `k` backticks before it open. -/
def spanLength (k : Nat) (s : Text) : Nat := if k = 0 then 0 else (spanEnd? k 0 s).getD 0

/-- A piece is told by the text that begins with it. -/
theorem Piece.eq_take {opens : Opening} {u r : Text} (hu : Piece opens u r) :
    ∃ c t, u ++ r = c :: t ∧ c ≠ '|' ∧ (c ≠ '\\' → c ≠ '`' → u = [c]) ∧
      (c = '\\' → u = c :: t.take 1) ∧
      (c = '`' → ∃ n s k, StartsPlain s ∧ opens n s k ∧ u ++ r = ticks n ++ s ∧
        u = ticks n ++ s.take (spanLength k s)) := by
  have tick : ∀ {n : Nat} (s : Text), 0 < n → ticks n ++ s = '`' :: (ticks (n - 1) ++ s) := by
    intro n s hn
    rw [← List.cons_append, ← ticks_succ, Nat.sub_add_cancel hn]
  cases hu with
  | @plain c _ hpipe hbackslash hbacktick =>
    exact ⟨c, r, rfl, hpipe, fun _ _ => rfl, fun h => absurd h hbackslash,
      fun h => absurd h hbacktick⟩
  | escaped c => exact ⟨'\\', c :: r, rfl, by decide, fun h => absurd rfl h, fun _ => rfl, nofun⟩
  | backslash => exact ⟨'\\', [], rfl, by decide, fun h => absurd rfl h, fun _ => rfl, nofun⟩
  | @run n _ hpos hall htext =>
    refine ⟨'`', _, tick r hpos, by decide, fun _ h => absurd rfl h, nofun, fun _ =>
      ⟨n, r, 0, hall, htext, rfl, ?_⟩⟩
    rw [spanLength, if_pos rfl, List.take_zero, List.append_nil]
  | @span n k body _ hpos hle hall hfence hfirst =>
    have hsplit : ticks n ++ (body ++ ticks k) ++ r = ticks n ++ (body ++ ticks k ++ r) :=
      List.append_assoc ..
    have hend : spanEnd? k 0 (body ++ ticks k ++ r) = some (body ++ ticks k).length :=
      (spanEnd?_eq_some_iff hpos).mpr ⟨body, r, rfl, hfirst, by simp [length_ticks]⟩
    refine ⟨'`', _, hsplit.trans (tick _ (hpos.trans_le hle)), by decide, fun _ h => absurd rfl h,
      nofun, fun _ => ⟨n, _, k, hall, hfence, hsplit, ?_⟩⟩
    rw [spanLength, if_neg hpos.ne', hend, Option.getD_some, List.take_left]

section Sane

variable {opens : Opening} (h : opens.Sane)

include h

/-- A text begins with one piece at most. -/
theorem Piece.unique {u r u' r' : Text} (hu : Piece opens u r) (hu' : Piece opens u' r')
    (heq : u ++ r = u' ++ r') : u = u' ∧ r = r' := by
  have hsame : u = u' := by
    obtain ⟨c, t, ht, -, hplain, hbackslash, hbacktick⟩ := hu.eq_take
    obtain ⟨c', t', ht', -, hplain', hbackslash', hbacktick'⟩ := hu'.eq_take
    obtain ⟨rfl, rfl⟩ := List.cons.inj (ht.symm.trans (heq.trans ht'))
    by_cases h₁ : c = '\\'
    · rw [hbackslash h₁, hbackslash' h₁]
    by_cases h₂ : c = '`'
    · obtain ⟨n, s, k, hs, hk, hut, hu⟩ := hbacktick h₂
      obtain ⟨n', s', k', hs', hk', hut', hu'⟩ := hbacktick' h₂
      obtain ⟨rfl, rfl⟩ := ticks_append_inj hs hs' (hut.symm.trans (heq.trans hut'))
      obtain rfl := h.unique hk hk'
      rw [hu, hu']
    · rw [hplain h₁ h₂, hplain' h₁ h₂]
  subst hsame
  exact ⟨rfl, List.append_cancel_left heq⟩

end Sane

/-- A text is cut at its end, at a pipe in front, or behind a piece. -/
theorem CutBy.cut {opens : Opening} {t : Text} {ps : List Text} (h : CutBy opens t ps) :
    (t = [] ∧ ps = [[]]) ∨ (∃ r qs, t = '|' :: r ∧ ps = [] :: qs ∧ CutBy opens r qs) ∨
      ∃ u r p qs, t = u ++ r ∧ ps = (u ++ p) :: qs ∧ Piece opens u r ∧
        CutBy opens r (p :: qs) := by
  cases h with
  | nil => exact Or.inl ⟨rfl, rfl⟩
  | pipe rest => exact Or.inr (Or.inl ⟨_, _, rfl, rfl, rest⟩)
  | piece hu rest => exact Or.inr (Or.inr ⟨_, _, _, _, rfl, rfl, hu, rest⟩)

/-- A text is cut in one way only. -/
theorem CutBy.unique {opens : Opening} (h : opens.Sane) {t : Text} {ps : List Text}
    (hps : CutBy opens t ps) : ∀ {ps'}, CutBy opens t ps' → ps = ps' := by
  have nonempty : ∀ {u r : Text}, Piece opens u r → u ++ r ≠ [] := by
    intro u r hu hnil
    obtain ⟨c, t, ht, -⟩ := hu.eq_take
    exact absurd (hnil.symm.trans ht) (List.cons_ne_nil _ _).symm
  have nopipe : ∀ {u r : Text} (t : Text), Piece opens u r → u ++ r ≠ '|' :: t := by
    intro u r t hu hpipe
    obtain ⟨c, t', ht, hc, -⟩ := hu.eq_take
    exact hc (List.cons.inj (ht.symm.trans hpipe)).1
  induction hps with
  | nil =>
    intro ps' hps'
    rcases hps'.cut with ⟨-, rfl⟩ | ⟨r, qs, ht, -⟩ | ⟨u, r, p, qs, ht, -, hu, -⟩
    · rfl
    · cases ht
    · exact absurd ht.symm (nonempty hu)
  | pipe _ ih =>
    intro ps' hps'
    rcases hps'.cut with ⟨ht, -⟩ | ⟨r, qs, ht, rfl, hrest⟩ | ⟨u, r, p, qs, ht, -, hu, -⟩
    · cases ht
    · obtain ⟨-, rfl⟩ := List.cons.inj ht
      rw [ih hrest]
    · exact absurd ht.symm (nopipe _ hu)
  | @piece u r p ps hu _ ih =>
    intro ps' hps'
    rcases hps'.cut with ⟨ht, -⟩ | ⟨r', qs, ht, -⟩ | ⟨u', r', p', qs, ht, rfl, hu', hrest⟩
    · exact absurd ht (nonempty hu)
    · exact absurd ht (nopipe _ hu)
    · obtain ⟨rfl, rfl⟩ := hu.unique h hu' ht
      obtain ⟨rfl, rfl⟩ := List.cons.inj (ih hrest)
      rfl

/-! ## The two rules -/

/-- Where a run is text by the whole rule though a shorter run is behind it, the rules differ; else
they say the same. -/
theorem most_of_whole {n k : Nat} {s : Text} (h : whole n s k)
    (hsteady : HasRun n s ∨ ∀ j, 0 < j → j < n → ¬HasRun j s) : most n s k := by
  rcases h with ⟨hrun, rfl⟩ | ⟨hrun, rfl⟩
  · exact ⟨Nat.le_refl _, Or.inr hrun, fun j hj hle => absurd hle (Nat.not_le_of_gt hj)⟩
  · refine ⟨Nat.zero_le _, Or.inl rfl, fun j hj hle => ?_⟩
    rcases Nat.lt_or_eq_of_le hle with hlt | rfl
    · exact hsteady.resolve_left hrun j hj hlt
    · exact hrun

/-- Every run that a scan of the text by the whole rule comes to is followed by one of its length,
or by no shorter one. -/
def Steady (t : Text) : Prop :=
  ∀ n s, StartsPlain s → Scans whole t (ticks n ++ s) →
    HasRun n s ∨ ∀ j, 0 < j → j < n → ¬HasRun j s

/-- A piece by the whole rule is one by the most rule in a steady text. -/
theorem Piece.most_of_whole {u r : Text} (hu : Piece whole u r) (h : Steady (u ++ r)) :
    Piece most u r := by
  cases hu with
  | plain hpipe hbackslash hbacktick => exact .plain hpipe hbackslash hbacktick
  | escaped c => exact .escaped c r
  | backslash => exact .backslash
  | run hpos hall htext => exact .run hpos hall (Row.most_of_whole htext (h _ _ hall (.here _)))
  | @span n k body _ hpos hle hall hfence hfirst =>
    have hhere : Scans whole (ticks n ++ (body ++ ticks k) ++ r)
        (ticks n ++ (body ++ ticks k ++ r)) := by
      rw [List.append_assoc (ticks n)]
      exact .here _
    exact .span hpos hle hall (Row.most_of_whole hfence (h _ _ hall hhere)) hfirst

/-- A cut by the whole rule is one by the most rule in a steady text. -/
theorem CutBy.most_of_whole {t : Text} {ps : List Text} (hps : CutBy whole t ps) :
    Steady t → CutBy most t ps := by
  induction hps with
  | nil => exact fun _ => .nil
  | pipe _ ih => exact fun h => .pipe (ih fun n s hs hscan => h n s hs (.pipe hscan))
  | piece hu _ ih =>
    exact fun h => .piece (hu.most_of_whole h)
      (ih fun n s hs hscan => h n s hs (.piece hu hscan))

/-- Scanning comes to ends of the text only. -/
theorem Scans.suffix {opens : Opening} {t s : Text} (h : Scans opens t s) : s <:+ t := by
  induction h with
  | here t => exact List.suffix_refl t
  | pipe _ ih => exact ih.trans (List.suffix_cons _ _)
  | @piece u r _ _ _ ih => exact ih.trans (List.suffix_append u r)

/-- Where no two backticks stand side by side, no run is longer than another. -/
theorem steady_of_single {t : Text} (h : ¬ticks 2 <:+: t) : Steady t := by
  intro n s _ hscan
  right
  intro j hpos hj
  have htwo : ticks 2 <+: ticks n ++ s := by
    rw [← Nat.add_sub_of_le (show 2 ≤ n by omega), ticks_add, List.append_assoc]
    exact List.prefix_append _ _
  exact absurd (htwo.isInfix.trans hscan.suffix.isInfix) h

/-- The parts of a text are those into which it is cut by the most rule, and it is cut in no other
way: at the pipes that are neither escaped nor in a code span that the last backticks of a run open,
as many as some following run has. By the whole rule, too, each text is cut in one way, and into its
parts if every run that the scan comes to is followed by one of its length or by no shorter one. -/
theorem parts_cutBy (t : Text) :
    (∀ ps, CutBy most t ps ↔ parts t = ps) ∧ (∃ ps, ∀ qs, CutBy whole t qs ↔ ps = qs) ∧
      (Steady t → CutBy whole t (parts t)) := by
  have hmost : ∀ ps, CutBy most t ps ↔ parts t = ps := by
    intro ps
    refine ⟨CutBy.parts_eq, ?_⟩
    rintro rfl
    obtain ⟨ps, hps⟩ := exists_cutBy sane_most t
    rwa [hps.parts_eq]
  obtain ⟨ps, hps⟩ := exists_cutBy sane_whole t
  refine ⟨hmost, ⟨ps, fun qs => ⟨hps.unique sane_whole, ?_⟩⟩, fun h => ?_⟩
  · rintro rfl
    exact hps
  · rwa [(hps.most_of_whole h).parts_eq]

/-- An escaped backtick opens no span, and a span protects the pipe in it. -/
theorem parts_cutBy_single :
    parts "\\`a|`b|c`|d".toList = ["\\`a".toList, "`b|c`".toList, "d".toList] ∧
      CutBy whole "\\`a|`b|c`|d".toList ["\\`a".toList, "`b|c`".toList, "d".toList] := by
  have hparts : parts "\\`a|`b|c`|d".toList = ["\\`a".toList, "`b|c`".toList, "d".toList] :=
    rfl
  refine ⟨hparts, ?_⟩
  rw [← hparts]
  exact (parts_cutBy "\\`a|`b|c`|d".toList).2.2 (steady_of_single (by decide +kernel))

/-- Two backticks that no other two follow are text by the whole rule, so the pipe divides. But the
second of them is looked at again, as a run of one, and closed by the one backtick behind the
pipe. -/
theorem parts_half_run :
    (∀ ps, CutBy whole "``a|b`c".toList ps ↔ ["``a".toList, "b`c".toList] = ps) ∧
      parts "``a|b`c".toList = ["``a|b`c".toList] := by
  have one : whole 1 "c".toList 0 := Or.inr ⟨by rw [hasRun_iff Nat.one_pos]; decide, rfl⟩
  have two : whole 2 "a|b`c".toList 0 := Or.inr ⟨by rw [hasRun_iff Nat.two_pos]; decide, rfl⟩
  have hc : CutBy whole "c".toList ["c".toList] :=
    .piece (.plain (by decide) (by decide) (by decide)) .nil
  have hb : CutBy whole "b`c".toList ["b`c".toList] :=
    .piece (.plain (by decide) (by decide) (by decide))
      (.piece (.run Nat.one_pos (by unfold StartsPlain; decide) one) hc)
  have ha : CutBy whole "``a|b`c".toList ["``a".toList, "b`c".toList] :=
    .piece (.run Nat.two_pos (by unfold StartsPlain; decide) two)
      (.piece (.plain (by decide) (by decide) (by decide)) (.pipe hb))
  refine ⟨fun ps => ⟨ha.unique sane_whole, ?_⟩, rfl⟩
  rintro rfl
  exact ha

end TextTable.Row
