import Mathlib.Data.List.Induction
import TextTable.Options.Basic
import TextTable.Proofs.Row.Lines
import TextTable.Proofs.Row.Spans

/-!
# Cells made from values

The cell that holds a value is the value with each pipe behind a backslash. Read as a value it gives
the value back, trimmed (`value_ofValue`); that takes no look at what stands before a pipe. Cut as a
line it is one part only if the value has no *escaped pipe* of its own
(`partsHolding_escapePipes_iff`): a backslash that already protects a pipe comes to protect the
backslash put before the pipe, and then nothing protects the pipe. Between two pipes there is one
more place where a backslash can go astray, the end of the value (`value_between_pipes`).
-/

namespace TextTable

open Unicode (isBlank)

namespace Text

/-- A last character that is no white space is not trimmed off. -/
theorem getLast?_trim_concat (t : Text) {d : Char} (hd : isBlank d = false) :
    (trim (t ++ [d])).getLast? = some d := by
  obtain ⟨r, hr, ht⟩ := exists_trim (t ++ [d])
  have hne : ∀ {u : Text}, Blank u → u.getLast? ≠ some d := by
    intro u hu hlast
    rw [hu d (List.mem_of_getLast? hlast)] at hd
    cases hd
  have hlast : (t ++ [d]).getLast? = some d := List.getLast?_concat
  rw [ht, List.getLast?_append, Option.or_eq_some_iff] at hlast
  obtain hlast := hlast.resolve_left (hne hr)
  rw [List.getLast?_append, Option.or_eq_some_iff] at hlast
  exact hlast.2.resolve_right fun h => hne (blank_takeWhile _) h.2

/-- Nothing is trimmed from an end that is not blank. -/
theorem trimEnd_concat (t : Text) {d : Char} (hd : isBlank d = false) :
    trimEnd (t ++ [d]) = t ++ [d] := by
  rw [trimEnd, List.reverse_append, List.reverse_singleton, List.singleton_append,
    List.dropWhile_cons_of_neg (by simp [hd]), List.reverse_cons, List.reverse_reverse]

end Text

namespace Cell

/-! ## Escaped pipes and the value -/

@[simp] theorem escapePipes_nil : escapePipes [] = [] := rfl

@[simp]
theorem escapePipes_pipe_cons (t : Text) : escapePipes ('|' :: t) = '\\' :: '|' :: escapePipes t :=
  rfl

theorem escapePipes_cons {c : Char} (hc : c ≠ '|') (t : Text) :
    escapePipes (c :: t) = c :: escapePipes t := by
  simp [escapePipes, hc]

@[simp]
theorem escapePipes_append (t u : Text) : escapePipes (t ++ u) = escapePipes t ++ escapePipes u :=
  List.flatMap_append

theorem escapePipes_eq_nil {t : Text} : escapePipes t = [] ↔ t = [] := by
  cases t with
  | nil => exact iff_of_true rfl rfl
  | cons c t => by_cases hc : c = '|' <;> simp [escapePipes, hc]

/-- Where there is no pipe, nothing is escaped. -/
theorem escapePipes_of_not_mem {t : Text} (h : '|' ∉ t) : escapePipes t = t := by
  induction t with
  | nil => rfl
  | cons c t ih =>
    obtain ⟨hc, ht⟩ := List.ne_and_not_mem_of_not_mem_cons h
    rw [escapePipes_cons hc.symm, ih ht]

/-- Only a backslash can be taken out. -/
theorem unescapePipes_cons {c : Char} (hc : c ≠ '\\') (t : Text) :
    unescapePipes (c :: t) = c :: unescapePipes t := by
  rw [unescapePipes]
  exact fun _ h => absurd h hc

/-- A backslash stays unless it stands before a pipe. -/
theorem unescapePipes_backslash_cons {t : Text} (ht : t.head? ≠ some '|') :
    unescapePipes ('\\' :: t) = '\\' :: unescapePipes t := by
  rw [unescapePipes]
  intro u _ h
  rw [h] at ht
  exact ht rfl

/-- Each backslash that was put before a pipe is taken out again, and no other one is: what stood
before the pipe is now before a backslash. -/
@[simp] theorem unescapePipes_escapePipes (t : Text) : unescapePipes (escapePipes t) = t := by
  induction t with
  | nil => rfl
  | cons c t ih =>
    by_cases hpipe : c = '|'
    · simp [hpipe, unescapePipes, ih]
    rw [escapePipes_cons hpipe]
    by_cases hbackslash : c = '\\'
    · -- an escaped text never begins with a pipe
      have hhead : (escapePipes t).head? ≠ some '|' := by
        cases t with
        | nil => exact nofun
        | cons d t =>
          by_cases hd : d = '|'
          · simp [hd]
          · simpa [escapePipes_cons hd] using hd
      rw [hbackslash, unescapePipes_backslash_cons hhead, ih]
    · rw [unescapePipes_cons hbackslash, ih]

/-- Escaping begins no text with a blank. -/
theorem trimStart_escapePipes (t : Text) :
    Text.trimStart (escapePipes t) = escapePipes (Text.trimStart t) := by
  induction t with
  | nil => rfl
  | cons c t ih =>
    by_cases hpipe : c = '|'
    · subst hpipe
      rfl
    rw [Text.trimStart, Text.trimStart] at ih ⊢
    rw [escapePipes_cons hpipe]
    by_cases hc : isBlank c = true
    · rw [List.dropWhile_cons_of_pos hc, List.dropWhile_cons_of_pos hc, ih]
    · rw [List.dropWhile_cons_of_neg hc, List.dropWhile_cons_of_neg hc, escapePipes_cons hpipe]

/-- Escaping ends no text with a blank: the backslash goes before the pipe. -/
theorem trimEnd_escapePipes (t : Text) :
    Text.trimEnd (escapePipes t) = escapePipes (Text.trimEnd t) := by
  induction t using List.reverseRecOn with
  | nil => rfl
  | append_singleton t c ih =>
    by_cases hc : isBlank c = true
    · have hblank : Text.Blank [c] := List.forall_mem_singleton.mpr hc
      simp [escapePipes_of_not_mem hblank.plain.pipe, Text.trimEnd_append _ hblank, ih]
    · rw [Bool.not_eq_true] at hc
      obtain ⟨u, hu⟩ : ∃ u, escapePipes (t ++ [c]) = u ++ [c] := by
        by_cases hpipe : c = '|'
        · exact ⟨escapePipes t ++ ['\\'], by simp [hpipe]⟩
        · exact ⟨escapePipes t, by rw [escapePipes_append, escapePipes_cons hpipe]; rfl⟩
      rw [Text.trimEnd_concat t hc, hu, Text.trimEnd_concat u hc]

/-- It does not matter whether a value is trimmed before it is escaped or behind. -/
@[simp]
theorem trim_escapePipes (t : Text) : Text.trim (escapePipes t) = escapePipes (Text.trim t) := by
  rw [Text.trim, trimStart_escapePipes, trimEnd_escapePipes, Text.trim]

/-- The cell that holds a value holds it without the white space around it. -/
@[simp] theorem value_ofValue (v : Text) : (ofValue v).value = Text.trim v := by
  simp [value, content, ofValue]

end Cell

namespace Row

open Cell (escapePipes escapePipes_cons escapePipes_pipe_cons escapePipes_append escapePipes_nil
  escapePipes_eq_nil)

/-! ## Spans in an escaped text -/

/-- A span of an escaped text is the escaped span of the text, for pipes are in no run of
backticks. -/
theorem spanEnd?_escapePipes {f : Nat} (hf : 0 < f) (run : Nat) (t : Text) :
    spanEnd? f run (escapePipes t) =
      (spanEnd? f run t).map fun k => (escapePipes (t.take k)).length := by
  induction t generalizing run with
  | nil =>
    rw [escapePipes_nil, spanEnd?]
    split <;> rfl
  | cons c t ih =>
    have plain : ∀ {d : Char} (run : Nat) (u : Text), d ≠ '`' → spanEnd? f run (d :: u) =
        if run = f then some 0 else (spanEnd? f 0 u).map (· + 1) := by
      intro d run u hd
      rw [spanEnd?, if_neg hd]
    by_cases hpipe : c = '|'
    · subst hpipe
      rw [escapePipes_pipe_cons, plain run _ (by decide), plain 0 _ (by decide),
        plain run _ (by decide), if_neg hf.ne, ih]
      split
      · rfl
      · simp [Option.map_map, Function.comp_def]
    rw [escapePipes_cons hpipe]
    by_cases htick : c = '`'
    · rw [spanEnd?, if_pos htick, ih, spanEnd?, if_pos htick]
      simp [Option.map_map, Function.comp_def, escapePipes_cons hpipe]
    · rw [plain run _ htick, plain run _ htick, ih]
      split
      · rfl
      · simp [Option.map_map, Function.comp_def, escapePipes_cons hpipe]

/-- A run of backticks still ends where it did. -/
theorem startsPlain_escapePipes {t : Text} (ht : StartsPlain t) : StartsPlain (escapePipes t) := by
  cases t with
  | nil => exact ht
  | cons c t =>
    by_cases hpipe : c = '|'
    · simp [hpipe, StartsPlain]
    · rw [escapePipes_cons hpipe]
      exact ht

/-- There are no pipes among backticks. -/
@[simp] theorem escapePipes_ticks (n : Nat) : escapePipes (ticks n) = ticks n :=
  Cell.escapePipes_of_not_mem fun h => absurd (List.eq_of_mem_replicate h) (by decide)

/-- What a character holds of an escaped text is what it holds of the text, unless it is a backslash
before a pipe or at the end. -/
theorem held_escapePipes {c : Char} {t : Text}
    (ht : c = '\\' → t ≠ [] ∧ t.head? ≠ some '|') :
    held c (escapePipes t) = (escapePipes (t.take (held c t))).length := by
  by_cases hbackslash : c = '\\'
  · obtain ⟨hne, hhead⟩ := ht hbackslash
    obtain ⟨d, t, rfl⟩ := List.exists_cons_of_ne_nil hne
    have hd : d ≠ '|' := by simpa using hhead
    simp [hbackslash, escapePipes_cons hd]
  by_cases hbacktick : c = '`'
  · obtain ⟨n, s, rfl, hs⟩ := exists_ticks t
    rw [hbacktick, escapePipes_append, escapePipes_ticks, held_ticks_append n hs,
      held_ticks_append n (startsPlain_escapePipes hs), spanEnd?_escapePipes (Nat.succ_pos n)]
    cases spanEnd? (n + 1) 0 s with
    | none => simp
    | some k =>
      have htake : (ticks n ++ s).take (n + k) = ticks n ++ s.take k := by
        rw [List.take_append, List.take_of_length_le (by simp [length_ticks]), length_ticks,
          Nat.add_sub_cancel_left]
      simp [htake, escapePipes_ticks, length_ticks]
  · rw [held_other hbackslash hbacktick, held_other hbackslash hbacktick]
    rfl

/-! ## Escaped pipes of a value -/

/-- The text, of which the first characters are held, has a pipe that a backslash protects. -/
def escapedPipeHolding : Nat → Text → Bool
  | _, [] => false
  | n + 1, _ :: t => escapedPipeHolding n t
  | 0, c :: t => (c = '\\' && t.head? = some '|') || escapedPipeHolding (held c t) t

/-- The text has a pipe that a backslash protects. -/
def hasEscapedPipe (t : Text) : Bool := escapedPipeHolding 0 t

/-- Characters that are held go into the part as they are. -/
theorem partsHolding_append_iff {k : Nat} {s : Text} (u : Text) :
    partsHolding (u.length + k) (u ++ s) = [u ++ s] ↔ partsHolding k s = [s] := by
  obtain ⟨p, ps, h⟩ := List.exists_cons_of_ne_nil (partsHolding_ne_nil k s)
  simp [partsHolding_append h, h]

/-- A character other than a pipe begins the part, and may hold some of those behind it. -/
theorem partsHolding_zero_cons_iff {c : Char} (hc : c ≠ '|') (s : Text) :
    partsHolding 0 (c :: s) = [c :: s] ↔ partsHolding (held c s) s = [s] := by
  obtain ⟨p, ps, h⟩ := List.exists_cons_of_ne_nil (partsHolding_ne_nil (held c s) s)
  simp [partsHolding_zero_cons hc, h, intoFirst_cons]

theorem escapePipes_cons_eq (c : Char) (t : Text) :
    escapePipes (c :: t) = escapePipes [c] ++ escapePipes t :=
  escapePipes_append [c] t

/-- An escaped text is one part if and only if the text has no escaped pipe. -/
theorem partsHolding_escapePipes_iff (n : Nat) (t : Text) :
    partsHolding (escapePipes (t.take n)).length (escapePipes t) = [escapePipes t] ↔
      escapedPipeHolding n t = false := by
  induction t generalizing n with
  | nil => simp [partsHolding, escapedPipeHolding]
  | cons c t ih =>
    cases n with
    | succ n =>
      rw [List.take_succ_cons, escapePipes_cons_eq c (t.take n), escapePipes_cons_eq c t,
        List.length_append, partsHolding_append_iff, ih]
      rfl
    | zero =>
      have hzero := ih 0
      rw [List.take_zero, escapePipes_nil, List.length_nil] at hzero ⊢
      by_cases hpipe : c = '|'
      · -- the backslash put before a pipe protects it
        subst hpipe
        have hheld : held '|' t = 0 := held_other (by decide) (by decide) t
        rw [escapePipes_pipe_cons, partsHolding_zero_cons_iff (by decide), held_backslash]
        refine (partsHolding_append_iff (k := 0) ['|']).trans (hzero.trans ?_)
        simp [escapedPipeHolding, hheld]
      rw [escapePipes_cons hpipe, partsHolding_zero_cons_iff hpipe]
      by_cases hescaped : c = '\\' ∧ t.head? = some '|'
      · -- the backslash that is already there protects the one put before the pipe
        obtain ⟨rfl, hhead⟩ := hescaped
        obtain ⟨d, t, rfl⟩ : ∃ d u, t = d :: u := by
          cases t with
          | nil => cases hhead
          | cons d u => exact ⟨d, u, rfl⟩
        obtain rfl : d = '|' := by simpa using hhead
        rw [escapePipes_pipe_cons, held_backslash]
        refine (partsHolding_append_iff (k := 0) ['\\']).trans ?_
        rw [partsHolding_zero_pipe]
        simp [escapedPipeHolding]
      by_cases hlast : c = '\\' ∧ t = []
      · obtain ⟨rfl, rfl⟩ := hlast
        simp [partsHolding, escapedPipeHolding]
      · have ht : c = '\\' → t ≠ [] ∧ t.head? ≠ some '|' :=
          fun hc => ⟨fun h => hlast ⟨hc, h⟩, fun h => hescaped ⟨hc, h⟩⟩
        have hnot : (c = '\\' && t.head? = some '|') = false := by simpa using hescaped
        rw [held_escapePipes ht, ih, escapedPipeHolding, hnot, Bool.false_or]

/-- Characters that are held pair with no backslash. -/
theorem unpairedHolding_append (k : Nat) (u s : Text) :
    unpairedHolding (u.length + k) (u ++ s) = unpairedHolding k s := by
  induction u with
  | nil => rw [List.length_nil, Nat.zero_add, List.nil_append]
  | cons c u ih =>
    rw [List.length_cons, Nat.add_right_comm, List.cons_append, unpairedHolding, ih]

/-- A text without an escaped pipe ends in an unpaired backslash if and only if it does so when it
is escaped. -/
theorem unpairedHolding_escapePipes {n : Nat} {t : Text} (h : escapedPipeHolding n t = false) :
    unpairedHolding (escapePipes (t.take n)).length (escapePipes t) = unpairedHolding n t := by
  induction t generalizing n with
  | nil => simp [unpairedHolding]
  | cons c t ih =>
    cases n with
    | succ n =>
      rw [List.take_succ_cons, escapePipes_cons_eq c (t.take n), escapePipes_cons_eq c t,
        List.length_append, unpairedHolding_append, ih h, unpairedHolding]
    | zero =>
      rw [escapedPipeHolding, Bool.or_eq_false_iff] at h
      obtain ⟨hescaped, h⟩ := h
      rw [List.take_zero, escapePipes_nil, List.length_nil]
      by_cases hpipe : c = '|'
      · subst hpipe
        have hheld : held '|' t = 0 := held_other (by decide) (by decide) t
        rw [hheld] at h
        have hpiped := unpairedHolding_append 0 ['|'] (escapePipes t)
        rw [List.singleton_append, List.length_singleton] at hpiped
        have hrest := ih h
        rw [List.take_zero, escapePipes_nil, List.length_nil] at hrest
        simp [unpairedHolding, held_backslash, hpiped, hheld, hrest]
      by_cases hlast : c = '\\' ∧ t = []
      · obtain ⟨rfl, rfl⟩ := hlast
        rfl
      · have ht : c = '\\' → t ≠ [] ∧ t.head? ≠ some '|' :=
          fun hc => ⟨fun h => hlast ⟨hc, h⟩, by simpa [hc] using hescaped⟩
        rw [escapePipes_cons hpipe, unpairedHolding, held_escapePipes ht, ih h, unpairedHolding]
        simp [escapePipes_eq_nil]

/-! ## Values between two pipes -/

/-- The parts of a text between two pipes are those of the text, but an unpaired backslash at the
end takes the last pipe in. -/
theorem cells_between_pipes (m : Margin) (t : Text) :
    ∃ ts p, parts t = ts ++ [p] ∧ (Row.ofLine m ('|' :: (t ++ ['|']))).cells =
      (ts ++ [if endsUnpaired t then p ++ ['|'] else p]).map Cell.mk := by
  have hread : ∀ {ps : List Text}, parts (t ++ ['|']) = ps →
      (Row.ofLine m ('|' :: (t ++ ['|']))).cells = (separateEnd ps).1.map Cell.mk := by
    rintro _ rfl
    rw [ofLine_eq (l := []) (fun _ h => absurd h List.not_mem_nil) (partsHolding_zero_pipe _)]
  by_cases hpaired : endsUnpaired t = false
  · obtain ⟨ts, p, hparts⟩ := exists_parts_eq_concat t
    refine ⟨ts, p, hparts, ?_⟩
    rw [hread ((parts_concat_pipe_iff t).mpr hpaired), hparts, separateEnd_append_nil (by simp),
      hpaired]
    rfl
  · obtain ⟨ts, p, hparts, hpipe⟩ := exists_parts_of_unpaired hpaired
    have hnot : ¬EndsBlank (ts ++ [p ++ ['\\', '|']]) := by
      rw [endsBlank_concat]
      exact fun h => absurd (h.2 '|' (by simp)) (by decide)
    refine ⟨ts, p ++ ['\\'], hparts, ?_⟩
    rw [hread hpipe, separateEnd_of_not_endsBlank hnot, if_pos (by simpa using hpaired),
      List.append_assoc]
    rfl

/-- A pipe that goes into the cell behind the last backslash of a value changes the value. -/
theorem value_between_pipes (v : Text) :
    (⟨if endsUnpaired v then escapePipes v ++ ['|'] else escapePipes v⟩ : Cell).value =
      Text.trim v ↔ endsUnpaired v = false := by
  by_cases hpaired : endsUnpaired v = false
  · rw [hpaired]
    exact iff_of_true (Cell.value_ofValue v) rfl
  · refine iff_of_false (fun h => ?_) hpaired
    obtain ⟨ts, p, hparts, -⟩ := exists_parts_of_unpaired hpaired
    have hv : v = (piped ts ++ p) ++ ['\\'] := by
      rw [eq_piped_of_parts hparts, List.append_assoc]
    generalize piped ts ++ p = u at hv
    subst hv
    have hcell : (⟨escapePipes (u ++ ['\\']) ++ ['|']⟩ : Cell) = Cell.ofValue (u ++ ['|']) := by
      rw [Cell.ofValue, escapePipes_append, escapePipes_append, List.append_assoc]
      rfl
    rw [if_pos (by simpa using hpaired), hcell, Cell.value_ofValue] at h
    have hlast := congrArg List.getLast? h
    rw [Text.getLast?_trim_concat u (by decide), Text.getLast?_trim_concat u (by decide)] at hlast
    exact absurd hlast (by decide)

/-- The value that a cell is made from is the value that it holds, trimmed. The cell is one part if
and only if the value has no escaped pipe. Between two pipes it is read as one cell with this value
if and only if, besides, the value does not end in an unpaired backslash. -/
theorem ofValue_one_cell_iff (m : Margin) (v : Text) :
    (Cell.ofValue v).value = Text.trim v ∧
      ((parts (Cell.ofValue v).raw).length = 1 ↔ hasEscapedPipe v = false) ∧
      ((∃ c, (Row.ofLine m ('|' :: ((Cell.ofValue v).raw ++ ['|']))).cells = [c] ∧
        c.value = Text.trim v) ↔ hasEscapedPipe v = false ∧ endsUnpaired v = false) := by
  have hone : parts (escapePipes v) = [escapePipes v] ↔ hasEscapedPipe v = false :=
    partsHolding_escapePipes_iff 0 v
  have hlength : (parts (escapePipes v)).length = 1 ↔ hasEscapedPipe v = false := by
    rw [← hone, List.length_eq_one_iff]
    refine ⟨fun ⟨p, hp⟩ => ?_, fun h => ⟨_, h⟩⟩
    rw [hp, partsHolding_singleton hp]
  obtain ⟨ts, p, hparts, hcells⟩ := cells_between_pipes m (escapePipes v)
  refine ⟨Cell.value_ofValue v, hlength, ?_⟩
  rw [Cell.ofValue, hcells]
  by_cases hpipe : hasEscapedPipe v = false
  · have hends : endsUnpaired (escapePipes v) = endsUnpaired v :=
      unpairedHolding_escapePipes (n := 0) hpipe
    have hsingle : ts ++ [p] = [] ++ [escapePipes v] := hparts.symm.trans (hone.mpr hpipe)
    obtain ⟨rfl, hp⟩ := List.append_inj' hsingle rfl
    obtain rfl := List.singleton_inj.mp hp
    rw [hends, ← value_between_pipes v]
    simp [hpipe]
  · refine iff_of_false ?_ fun h => hpipe h.1
    rintro ⟨c, hc, -⟩
    have hlen := congrArg List.length hc
    refine hpipe (hlength.mp ?_)
    simpa [hparts] using hlen

/-- A value with a backslash before a pipe gives two cells, and one that ends in a backslash another
value. -/
theorem ofValue_backslash :
    parts (Cell.ofValue "a\\|b".toList).raw = ["a\\\\".toList, "b".toList] ∧
      (Row.ofLine ({} : Options).margin
        ('|' :: ((Cell.ofValue "a\\|b".toList).raw ++ ['|']))).cells =
          [⟨"a\\\\".toList⟩, ⟨"b".toList⟩] ∧
      (Row.ofLine ({} : Options).margin
        ('|' :: ((Cell.ofValue "a\\".toList).raw ++ ['|']))).cells = [⟨"a\\|".toList⟩] ∧
      (⟨"a\\|".toList⟩ : Cell).value = "a|".toList :=
  ⟨rfl, rfl, rfl, rfl⟩

end Row

end TextTable
