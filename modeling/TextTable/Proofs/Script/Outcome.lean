import TextTable.Proofs.Script.Search

/-!
# What a script makes of a block

The edits made from a trail turn the block that the trail begins with into the one that it ends with
(`outcome?_ofSteps`). At every moment the block is what the trail has written, followed by the lines
that it has not read, and each edit names rows that exist in it (`within_of_outcome?`). Joining
replacements of neighboring rows changes nothing (`outcome?_consReplace`). So a script that the
search finds does what it was searched for (`outcome?_shortest?`), and none of its replacements is
empty (`proper_shortest?`).
-/

namespace TextTable

namespace LineEdit

/-- The rows that an edit names exist in the block: a line is put in at its end at most, and rows
are removed and replaced strictly inside. -/
def Within (block : List Text) : LineEdit → Prop
  | .insert row _ => 0 ≤ row ∧ row ≤ block.length
  | .delete row => 0 ≤ row ∧ row < block.length
  | .replace row lines => 0 ≤ row ∧ row < block.length ∧ row + lines.length ≤ block.length

/-- The edit replaces some row if it is a replacement. -/
def Proper : LineEdit → Prop
  | .replace _ lines => lines ≠ []
  | _ => True

/-- An edit that makes something of a block stays within it. -/
theorem within_of_outcome? {block block' : List Text} {edit : LineEdit} (hp : edit.Proper)
    (h : edit.outcome? block = some block') : edit.Within block := by
  cases edit with
  | insert row line =>
    rw [outcome?, Option.ite_none_right_eq_some] at h
    exact h.1
  | delete row =>
    rw [outcome?, Option.ite_none_right_eq_some] at h
    exact h.1
  | replace row lines =>
    rw [outcome?, Option.ite_none_right_eq_some] at h
    obtain ⟨⟨hrow, hlen⟩, -⟩ := h
    have := List.length_pos_iff.mpr hp
    exact ⟨hrow, by omega, hlen⟩

/-! ## Edits in the middle of a block -/

section Middle

variable (above below : List Text)

@[simp] theorem outcome?_insert (line : Text) :
    outcome? (above ++ below) (.insert above.length line) = some (above ++ line :: below) := by
  rw [outcome?, if_pos ⟨by omega, by rw [List.length_append]; omega⟩, Int.toNat_natCast,
    List.take_left, List.drop_left]

@[simp] theorem outcome?_delete (a : Text) :
    outcome? (above ++ a :: below) (.delete above.length) = some (above ++ below) := by
  rw [outcome?, if_pos ⟨by omega, by rw [List.length_append, List.length_cons]; omega⟩,
    Int.toNat_natCast, List.eraseIdx_append_of_length_le (Nat.le_refl _), Nat.sub_self,
    List.eraseIdx_cons_zero]

/-- Replacing a row and then more rows behind it is replacing all of them. -/
theorem outcome?_replace_cons (a line : Text) (lines : List Text) :
    outcome? (above ++ a :: below) (.replace above.length (line :: lines)) =
      outcome? (above ++ line :: below) (.replace ((above.length : Int) + 1) lines) := by
  have htake : (above ++ line :: below).take (above.length + 1) = above ++ [line] := by
    rw [← List.singleton_append, ← List.append_assoc]
    exact List.take_left' (by simp)
  have hdrop : (above ++ a :: below).drop (above.length + (lines.length + 1)) =
      (above ++ line :: below).drop (above.length + 1 + lines.length) := by
    rw [show above.length + 1 + lines.length = above.length + (lines.length + 1) by omega,
      List.drop_length_add_append, List.drop_length_add_append, List.drop_succ_cons,
      List.drop_succ_cons]
  have hrow : ((above.length : Int) + 1).toNat = above.length + 1 := by omega
  simp only [outcome?, hrow, Int.toNat_natCast, htake, List.take_left, List.length_cons, hdrop,
    List.length_append, List.append_assoc, List.cons_append, List.nil_append]
  refine ite_congr (propext ?_) (fun _ => rfl) (fun _ => rfl)
  constructor <;> rintro ⟨-, h⟩ <;> constructor <;> omega

@[simp] theorem outcome?_replace_one (a line : Text) :
    outcome? (above ++ a :: below) (.replace above.length [line]) =
      some (above ++ line :: below) := by
  have hlen : (above.length : Int) + [line].length ≤ (above ++ a :: below).length := by
    rw [List.length_append, List.length_singleton, List.length_cons]
    omega
  rw [outcome?, if_pos ⟨by omega, hlen⟩, Int.toNat_natCast, List.take_left,
    List.length_singleton, List.drop_length_add_append, List.append_assoc]
  rfl

end Middle

end LineEdit

namespace Script

/-! ## Scripts edit by edit -/

@[simp] theorem outcome?_cons (block : List Text) (edit : LineEdit) (s : Script) :
    outcome? block (edit :: s) = (edit.outcome? block).bind fun block' => outcome? block' s := by
  rw [outcome?, List.foldlM_cons]
  rfl

/-- The second script is about what the first one makes of the block. -/
@[simp] theorem outcome?_append (block : List Text) (s s' : Script) :
    outcome? block (s ++ s') = (outcome? block s).bind fun block' => outcome? block' s' := by
  rw [outcome?, List.foldlM_append]
  rfl

/-- A replacement put before a script stands for itself, or joins the one of the row behind it. -/
theorem consReplace_cases (row : Nat) (line : Text) (s : Script) :
    consReplace row line s = .replace row [line] :: s ∨
      ∃ lines rest, s = .replace (row + 1) lines :: rest ∧
        consReplace row line s = .replace row (line :: lines) :: rest := by
  rcases s with _ | ⟨_ | _ | ⟨next, lines⟩, rest⟩
  · exact .inl rfl
  · exact .inl rfl
  · exact .inl rfl
  · by_cases hnext : next = row + 1
    · exact .inr ⟨lines, rest, by rw [hnext], if_pos hnext⟩
    · exact .inl (if_neg hnext)

/-- A replacement may join the one behind it. -/
@[simp] theorem outcome?_consReplace (above below : List Text) (a line : Text) (s : Script) :
    outcome? (above ++ a :: below) (consReplace above.length line s) =
      outcome? (above ++ line :: below) s := by
  rcases consReplace_cases above.length line s with h | ⟨lines, rest, rfl, h⟩
  · simp [h]
  · rw [h, outcome?_cons, LineEdit.outcome?_replace_cons, ← outcome?_cons]

/-! ## Scripts made from steps -/

/-- With the written lines `above` before them, the lines that the steps read become the ones that
they write. -/
theorem outcome?_ofSteps {steps : List Step} {old new : List Text} (h : Turns steps old new) :
    ∀ above : List Text,
      outcome? (above ++ old) (ofSteps above.length steps) = some (above ++ new) := by
  -- after a step that writes a line, this line is the last one above
  have shift : ∀ (above rest : List Text) (b : Text), (above ++ [b]) ++ rest = above ++ b :: rest :=
    fun above rest b => by rw [List.append_assoc, List.singleton_append]
  have next : ∀ (above : List Text) (b : Text), (above ++ [b]).length = above.length + 1 :=
    fun above b => by rw [List.length_append, List.length_singleton]
  -- by induction on the steps: what they have written is above, what they will read is below
  induction h with
  | done =>
    intro above
    rfl
  | keep a _ ih =>
    intro above
    have := ih (above ++ [a])
    rwa [shift, shift, next] at this
  | replace a b _ ih =>
    intro above
    have := ih (above ++ [b])
    rw [shift, shift, next] at this
    simp [ofSteps, this]
  | delete a _ ih =>
    intro above
    simp [ofSteps, ih above]
  | insert b _ ih =>
    intro above
    have := ih (above ++ [b])
    rw [shift, shift, next] at this
    simp [ofSteps, this]

/-- A line that joins a replacement, or makes one of its own, leaves none of them empty. -/
theorem proper_consReplace (row : Nat) (line : Text) {s : Script} (h : ∀ e ∈ s, e.Proper) :
    ∀ e ∈ consReplace row line s, e.Proper := by
  rcases consReplace_cases row line s with heq | ⟨lines, rest, rfl, heq⟩
  · rw [heq]
    exact List.forall_mem_cons.mpr ⟨List.cons_ne_nil _ _, h⟩
  · rw [heq]
    exact List.forall_mem_cons.mpr ⟨List.cons_ne_nil _ _, (List.forall_mem_cons.mp h).2⟩

/-- No edit made from steps replaces nothing. -/
theorem proper_ofSteps {steps : List Step} :
    ∀ row, ∀ e ∈ ofSteps row steps, e.Proper := by
  induction steps with
  | nil => exact fun _ _ he => absurd he List.not_mem_nil
  | cons step steps ih =>
    intro row
    cases step with
    | keep => exact ih (row + 1)
    | replace line => exact proper_consReplace row line (ih (row + 1))
    | delete => exact List.forall_mem_cons.mpr ⟨trivial, ih row⟩
    | insert line => exact List.forall_mem_cons.mpr ⟨trivial, ih (row + 1)⟩

/-! ## Shortest scripts -/

/-- A script that was found is made from a trail between the blocks. -/
theorem exists_trail {old new : List Text} {most : Int} {s : Script}
    (h : shortest? old new most = some s) :
    ∃ t : Trail, Turns t.steps.reverse old new ∧ s = ofSteps 0 t.steps.reverse := by
  obtain ⟨t, ht, rfl⟩ := Option.map_eq_some_iff.mp h
  exact ⟨t, turns_bestTrail? ht, rfl⟩

/-- A shortest script turns the old block into the new one. -/
theorem outcome?_shortest? {old new : List Text} {most : Int} {s : Script}
    (h : shortest? old new most = some s) : outcome? old s = some new := by
  obtain ⟨t, ht, rfl⟩ := exists_trail h
  exact outcome?_ofSteps ht []

/-- A script that was found replaces no rows by nothing. -/
theorem proper_shortest? {old new : List Text} {most : Int} {s : Script}
    (h : shortest? old new most = some s) : ∀ e ∈ s, e.Proper := by
  obtain ⟨t, -, rfl⟩ := exists_trail h
  exact proper_ofSteps 0

/-- Nothing has to be done where nothing differs, whatever the limit is. -/
@[simp]
theorem shortest?_self (lines : List Text) (most : Int) : shortest? lines lines most = some [] := by
  have keeps : ∀ n row, ofSteps row (List.replicate n .keep) = [] := by
    intro n
    induction n with
    | zero => exact fun _ => rfl
    | succ n ih => exact fun row => ih (row + 1)
  rw [shortest?, bestTrail?_self, Option.map_some, kept, List.reverse_replicate, keeps]

end Script

end TextTable
