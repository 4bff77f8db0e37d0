import Mathlib.Data.List.Nodup
import TextTable.Options.Value

/-!
# Spellings of field names

Every field of an object can be given under two names (`Spelling`). Where no two fields share a name
(`Spelling.Unambiguous`), an object that is spelled in one way throughout gives each field its own
value (`field?_spelled`), and an entry in snake case says nothing when the field is also there in
camel case (`HiddenChange.field?_eq`).
-/

namespace TextTable

variable {s : Spelling} {names : List Text} {name m n : Text} {v : Value}
variable {fields fields' entries : List (Text × Value)} {entry : Text × Value}

/-- The names are different, and no two of them share a spelling. -/
structure Spelling.Unambiguous (names : List Text) : Prop where
  nodup : names.Nodup
  snake : ∀ m ∈ names, ∀ n ∈ names, Spelling.snake.apply m = Spelling.snake.apply n → m = n
  apart : ∀ m ∈ names, ∀ n ∈ names, Spelling.snake.apply m = n → m = n

/-- A name in any spelling belongs to one field. -/
theorem Spelling.Unambiguous.eq (h : Unambiguous names) (hm : m ∈ names) (hn : n ∈ names) :
    ∀ {s s' : Spelling}, s.apply m = s'.apply n → m = n
  | .camel, .camel, heq => heq
  | .camel, .snake, heq => (h.apart n hn m hm heq.symm).symm
  | .snake, .camel, heq => h.apart m hm n hn heq
  | .snake, .snake, heq => h.snake m hm n hn heq

namespace Value

/-! ## Objects in one spelling -/

/-- The entries with their names in a spelling. -/
def spelled (s : Spelling) (entries : List (Text × Value)) : List (Text × Value) :=
  entries.map fun entry => (s.apply entry.1, entry.2)

/-- An entry that is found has the key. -/
theorem find?_key {key : Text} (h : fields.find? (·.1 = key) = some entry) : entry.1 = key := by
  simpa using List.find?_some h

theorem find?_ne_none {key : Text} (hmem : entry ∈ fields) (hkey : entry.1 = key) :
    fields.find? (·.1 = key) ≠ none :=
  fun h => List.find?_eq_none.mp h entry hmem (decide_eq_true hkey)

/-- A field is the entry under one of its two names, when no other entry is under them. -/
theorem field?_eq_of_unique (hmem : entry ∈ fields) (hkey : entry.1 = s.apply name)
    (hunique : ∀ e ∈ fields, ∀ s' : Spelling, e.1 = s'.apply name → e = entry) :
    field? fields name = some entry := by
  have hfound : ∀ (s' : Spelling) e, fields.find? (·.1 = s'.apply name) = some e → e = entry :=
    fun s' e he => hunique e (List.mem_of_find?_eq_some he) s' (find?_key he)
  rw [field?]
  cases hcamel : fields.find? (·.1 = Spelling.camel.apply name) with
  | some e => exact congrArg some (hfound .camel e hcamel)
  | none =>
    cases hsnake : fields.find? (·.1 = Spelling.snake.apply name) with
    | some e => exact congrArg some (hfound .snake e hsnake)
    | none =>
      -- the entry itself would have been found
      cases s with
      | camel => exact absurd hcamel (find?_ne_none hmem hkey)
      | snake => exact absurd hsnake (find?_ne_none hmem hkey)

/-- A field is found under the spelling that the object uses. -/
theorem field?_spelled (hnames : Spelling.Unambiguous (entries.map Prod.fst))
    (hmem : (name, v) ∈ entries) :
    field? (spelled s entries) name = some (s.apply name, v) := by
  refine field?_eq_of_unique (List.mem_map.mpr ⟨_, hmem, rfl⟩) rfl fun e he s' hkey => ?_
  obtain ⟨⟨m, w⟩, hm, rfl⟩ := List.mem_map.mp he
  obtain rfl : m = name :=
    hnames.eq (List.mem_map_of_mem hm) (List.mem_map_of_mem hmem) hkey
  obtain ⟨-, rfl⟩ := Prod.mk.inj (List.inj_on_of_nodup_map hnames.nodup hm hmem rfl)
  rfl

/-- A field that was found is under one of its two names. -/
theorem exists_spelling_of_field? (h : field? fields name = some entry) :
    ∃ s : Spelling, entry.1 = s.apply name := by
  rw [field?] at h
  split at h
  · next e hcamel =>
    obtain rfl := Option.some.inj h
    exact ⟨.camel, find?_key hcamel⟩
  · exact ⟨.snake, find?_key h⟩

/-! ## Objects that differ in one entry -/

/-- The objects agree on every name but one. -/
def AgreeOff (key : Text) (fields fields' : List (Text × Value)) : Prop :=
  ∀ k, k ≠ key → fields.find? (·.1 = k) = fields'.find? (·.1 = k)

/-- Objects that agree still do with one more entry in front. -/
theorem AgreeOff.cons {key : Text} (entry : Text × Value) (h : AgreeOff key fields fields') :
    AgreeOff key (entry :: fields) (entry :: fields') := by
  intro k hk
  simp only [List.find?_cons, h k hk]

/-- The entry under the name can be there or not, -/
theorem agreeOff_dropped {key : Text} (hkey : entry.1 = key) :
    AgreeOff key (entry :: fields) fields := by
  intro k hk
  have hne : ¬ decide (entry.1 = k) = true := by
    rw [decide_eq_true_iff, hkey]
    exact hk.symm
  exact List.find?_cons_of_neg hne

/-- and it can have any value. -/
theorem agreeOff_replaced {key : Text} {entry' : Text × Value} (hkey : entry.1 = key)
    (hkey' : entry'.1 = key) : AgreeOff key (entry :: fields) (entry' :: fields) :=
  fun k hk => (agreeOff_dropped hkey k hk).trans (agreeOff_dropped hkey' k hk).symm

/-- A field is the same in both objects when they differ under another name only. -/
theorem AgreeOff.field?_eq (h : AgreeOff m fields fields')
    (hm : ∀ s : Spelling, s.apply name ≠ m) : field? fields name = field? fields' name := by
  rw [field?, field?, h _ (hm .camel), h _ (hm .snake)]

/-- One object becomes the other by a change to an entry in snake case, while the same field is there
in camel case. -/
def HiddenChange (names : List Text) (fields fields' : List (Text × Value)) : Prop :=
  ∃ name ∈ names, Spelling.snake.apply name ≠ name ∧ name ∈ fields.map Prod.fst ∧
    AgreeOff (Spelling.snake.apply name) fields fields'

/-- A field in camel case hides its other spelling. -/
theorem AgreeOff.field?_eq_of_camel (h : AgreeOff (Spelling.snake.apply name) fields fields')
    (htwo : Spelling.snake.apply name ≠ name) (hcamel : name ∈ fields.map Prod.fst) :
    field? fields name = field? fields' name := by
  obtain ⟨entry, hmem, hkey⟩ := List.mem_map.mp hcamel
  have hfirst : fields.find? (·.1 = Spelling.camel.apply name) =
      fields'.find? (·.1 = Spelling.camel.apply name) := h _ htwo.symm
  rw [field?, field?, ← hfirst]
  cases hfind : fields.find? (·.1 = Spelling.camel.apply name) with
  | some e => rfl
  | none => exact absurd hfind (find?_ne_none hmem hkey)

/-- A hidden change is seen in no field. -/
theorem HiddenChange.field?_eq (hnames : Spelling.Unambiguous names)
    (h : HiddenChange names fields fields') (hm : m ∈ names) :
    field? fields m = field? fields' m := by
  obtain ⟨name, hname, htwo, hcamel, hagree⟩ := h
  by_cases hsame : m = name
  · subst hsame
    exact hagree.field?_eq_of_camel htwo hcamel
  · exact hagree.field?_eq fun s hs => hsame (hnames.eq hm hname hs)

end Value

end TextTable
