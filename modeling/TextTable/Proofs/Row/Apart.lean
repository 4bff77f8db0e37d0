import TextTable.Proofs.Row.Sealed
import TextTable.Table.Reader

/-!
# Rows that are read back

The contents of a row's cells are *apart* when each is sealed before those behind it (`Apart`). The
contents of a row that was read are apart (`apart_parts`); so are those that remain when some are
taken out (`Apart.sublist`), and empty ones can be put in anywhere (`Apart.insert_replicate`). A row
whose contents are apart, and whose cells end in a blank each, is what reading makes of the line it
is written as.
-/

namespace TextTable

open Unicode (isBlank)

namespace Row

/-! ## Contents apart -/

/-- Texts with a pipe behind each. -/
def piped (ts : List Text) : Text := ts.flatMap (· ++ ['|'])

@[simp]
theorem piped_cons (t : Text) (ts : List Text) : piped (t :: ts) = t ++ '|' :: piped ts := by
  rw [piped, List.flatMap_cons, ← piped, List.append_assoc]
  rfl

/-- Pipes close no fence. -/
theorem closes_piped {f : Nat} (hf : 0 < f) (ts : List Text) :
    closes f (piped ts) = ts.any (closes f) := by
  induction ts with
  | nil => exact closes_of_not_mem hf List.not_mem_nil
  | cons t ts ih => rw [piped_cons, closes_append_cons f t (by decide), ih, List.any_cons]

/-- No runs of backticks are added when texts are left out, or empty ones put in. -/
theorem fencesIn_piped {ts us : List Text} (h : ∀ t ∈ ts, t = [] ∨ t ∈ us) :
    FencesIn (piped ts) (piped us) := by
  intro f hf hts
  rw [closes_piped hf, List.any_eq_true] at hts ⊢
  obtain ⟨t, ht, hc⟩ := hts
  rcases h t ht with rfl | hu
  · rw [closes_of_not_mem hf List.not_mem_nil] at hc
    cases hc
  · exact ⟨t, hu, hc⟩

/-- Each text is sealed before those behind it. -/
def Apart : List Text → Prop
  | [] => True
  | t :: ts => Sealed (piped ts) 0 t ∧ Apart ts

/-- Empty texts are apart from all others. -/
theorem apart_filter (ts : List Text) : Apart (ts.filter (· ≠ [])) ↔ Apart ts := by
  induction ts with
  | nil => exact Iff.rfl
  | cons t ts ih =>
    by_cases ht : t = []
    · subst ht
      rw [List.filter_cons_of_neg (by simp), ih]
      exact ⟨fun h => ⟨sealed_nil _ _, h⟩, fun h => h.2⟩
    · rw [List.filter_cons_of_pos (by simpa using ht)]
      have hsub : ∀ u ∈ ts.filter (· ≠ []), u = [] ∨ u ∈ ts :=
        fun u hu => Or.inr (List.mem_filter.mp hu).1
      have hsup : ∀ u ∈ ts, u = [] ∨ u ∈ ts.filter (· ≠ []) := by
        intro u hu
        by_cases hn : u = []
        · exact Or.inl hn
        · exact Or.inr (List.mem_filter.mpr ⟨hu, by simpa using hn⟩)
      exact ⟨fun ⟨h, hs⟩ => ⟨h.mono (fencesIn_piped hsup), ih.mp hs⟩,
        fun ⟨h, hs⟩ => ⟨h.mono (fencesIn_piped hsub), ih.mpr hs⟩⟩

/-- Plain texts can close nothing, so they are apart in any order. -/
theorem apart_of_plain : ∀ {ts : List Text}, (∀ t ∈ ts, Text.Plain t) → Apart ts
  | [], _ => trivial
  | t :: ts, h => by
      obtain ⟨ht, hts⟩ := List.forall_mem_cons.mp h
      exact ⟨sealed_of_plain _ 0 ht, apart_of_plain hts⟩

/-- Texts stay apart when some are taken out. -/
theorem Apart.sublist {ts us : List Text} (h : us.Sublist ts) : Apart ts → Apart us := by
  induction h with
  | slnil => exact id
  | cons t _ ih => exact fun ht => ih ht.2
  | cons_cons t hs ih =>
    exact fun ht => ⟨ht.1.mono (fencesIn_piped fun u hu => Or.inr (hs.subset hu)), ih ht.2⟩

/-- Texts stay apart when empty ones are put in. -/
theorem Apart.insert_replicate {ts us : List Text} (n : Nat) (h : Apart (ts ++ us)) :
    Apart (ts ++ List.replicate n [] ++ us) := by
  have hn : (List.replicate n ([] : Text)).filter (· ≠ []) = [] := by
    rw [List.filter_replicate]
    rfl
  rw [← apart_filter, List.filter_append, List.filter_append, hn, List.append_nil,
    ← List.filter_append, apart_filter]
  exact h

/-! ## Parts of a line -/

/-- A character begins the first part, or it is a pipe that ends an empty one. -/
theorem partsHolding_cons_eq {n : Nat} {c : Char} {t p : Text} {ps : List Text}
    (h : partsHolding n (c :: t) = p :: ps) :
    (c = '|' ∧ p = [] ∧ parts t = ps) ∨ ∃ k q, p = c :: q ∧ partsHolding k t = q :: ps := by
  have into : ∀ k, intoFirst c (partsHolding k t) = p :: ps →
      ∃ k q, p = c :: q ∧ partsHolding k t = q :: ps := by
    intro k hk
    obtain ⟨q, qs, hq⟩ := List.exists_cons_of_ne_nil (partsHolding_ne_nil k t)
    rw [hq, intoFirst_cons] at hk
    obtain ⟨hp, hqs⟩ := List.cons.inj hk
    exact ⟨k, q, hp.symm, by rw [hq, hqs]⟩
  cases n with
  | succ n => exact Or.inr (into n h)
  | zero =>
    by_cases hc : c = '|'
    · rw [hc, partsHolding_zero_pipe] at h
      obtain ⟨hp, hps⟩ := List.cons.inj h
      exact Or.inl ⟨hc, hp.symm, hps⟩
    · rw [partsHolding_zero_cons hc] at h
      exact Or.inr (into _ h)

/-- The only part of a text is the text. -/
theorem partsHolding_singleton : ∀ {n : Nat} {t p : Text}, partsHolding n t = [p] → t = p
  | _, [], p, h => by
      rw [partsHolding] at h
      exact List.singleton_inj.mp h
  | n, c :: t, p, h => by
      rcases partsHolding_cons_eq h with ⟨-, -, hps⟩ | ⟨k, q, rfl, hq⟩
      · exact absurd hps (partsHolding_ne_nil 0 t)
      · rw [partsHolding_singleton hq]

/-- The first of several parts ends at a pipe, behind which the others are. -/
theorem partsHolding_cons_cons : ∀ {n : Nat} {t p q : Text} {ps : List Text},
    partsHolding n t = p :: q :: ps → ∃ r, t = p ++ '|' :: r ∧ parts r = q :: ps
  | _, [], p, q, ps, h => by
      rw [partsHolding] at h
      cases h
  | n, c :: t, p, q, ps, h => by
      rcases partsHolding_cons_eq h with ⟨rfl, rfl, hps⟩ | ⟨k, p', rfl, hp⟩
      · exact ⟨t, rfl, hps⟩
      · obtain ⟨r, rfl, hr⟩ := partsHolding_cons_cons hp
        exact ⟨r, rfl, hr⟩

/-- A text closes a fence when one of its parts does: no run of backticks reaches over a pipe. -/
theorem closes_parts {f : Nat} {ps : List Text} :
    ∀ {t : Text}, parts t = ps → closes f t = ps.any (closes f) := by
  induction ps with
  | nil => exact fun h => absurd h (partsHolding_ne_nil 0 _)
  | cons p ps ih =>
    intro t h
    cases ps with
    | nil => rw [partsHolding_singleton h, List.any_cons, List.any_nil, Bool.or_false]
    | cons q ps =>
      obtain ⟨r, rfl, hr⟩ := partsHolding_cons_cons h
      rw [closes_append_cons f p (by decide), ih hr]
      rfl

/-- What trimming leaves of the parts of a line is apart. -/
theorem apart_parts {ps : List Text} : ∀ {t : Text}, parts t = ps → Apart (ps.map Text.trim) := by
  induction ps with
  | nil => exact fun _ => trivial
  | cons p ps ih =>
    intro t h
    obtain ⟨ws, hws, hp⟩ := Text.exists_trim p
    have hl := Text.blank_takeWhile p
    cases ps with
    | nil =>
      obtain rfl := partsHolding_singleton h
      have hs : Sealed [] 0 (t.takeWhile isBlank ++ Text.trim t) :=
        sealed_of_partsHolding_last hws (by rw [← hp]; exact h)
      exact ⟨(sealed_blank_append hl _).mp hs, trivial⟩
    | cons q ps =>
      obtain ⟨r, rfl, hr⟩ := partsHolding_cons_cons h
      have hs : Sealed r 0 (p.takeWhile isBlank ++ Text.trim p) :=
        sealed_of_partsHolding hws (by rw [← hp]; exact h)
      have hin : FencesIn (piped ((q :: ps).map Text.trim)) r := by
        intro f hf hc
        rw [closes_piped hf, List.any_map, List.any_eq_true] at hc
        obtain ⟨u, hu, hc⟩ := hc
        rw [Function.comp_apply, closes_trim hf] at hc
        rw [closes_parts hr, List.any_eq_true]
        exact ⟨u, hu, hc⟩
      exact ⟨((sealed_blank_append hl _).mp hs).mono hin, ih hr⟩

end Row

end TextTable
