import TextTable.Proofs.Options.Accepted
import TextTable.Proofs.Options.Spellings

/-!
# Accepted options are safe and stable

Options that were read can be used without another check (`Options.SafeFor`): there is a dash in
every delimiter cell, and each choice is one of those that its field offers. Written out, in either
spelling, they are read as the same options again (`Options.ofValue_toValue`). A field's name in
snake case is looked at only when the one in camel case is not there, in the object of all options
as in that of the width options inside it (`Options.HiddenChange.ofValue_eq`).
-/

namespace TextTable

open Value

variable {v v' : Value} {fields fields' : List (Text × Value)}

/-! ## Written options -/

/-- The names of the fields, in camel case. -/
def WidthOptions.fieldNames : List Text :=
  ["normalize".toList, "wideOverrides".toList, "narrowOverrides".toList,
    "treatAmbiguousAsWide".toList]

/-- The names of the fields, in camel case. -/
def Options.fieldNames : List Text :=
  ["leftMarginChars".toList, "formatType".toList, "minDelimiterWidth".toList,
    "defaultAlignment".toList, "headerAlignment".toList, "textWidthOptions".toList,
    "smartCursor".toList]

theorem WidthOptions.unambiguous : Spelling.Unambiguous WidthOptions.fieldNames :=
  ⟨by decide, by decide, by decide⟩

/-- No two options share a name in any spelling. -/
theorem Options.unambiguous : Spelling.Unambiguous Options.fieldNames :=
  ⟨by decide, by decide, by decide⟩

example : Options.fieldNames.map Spelling.snake.apply =
    ["left_margin_chars".toList, "format_type".toList, "min_delimiter_width".toList,
      "default_alignment".toList, "header_alignment".toList, "text_width_options".toList,
      "smart_cursor".toList] := by decide

/-- What is written, by the names of the fields. -/
def WidthOptions.entries (o : WidthOptions) : List (Text × Value) :=
  [("normalize".toList, .bool o.normalize), ("wideOverrides".toList, .ofTexts o.wideOverrides),
    ("narrowOverrides".toList, .ofTexts o.narrowOverrides),
    ("treatAmbiguousAsWide".toList, .bool o.ambiguousIsWide)]

/-- What is written, by the names of the fields. The width options are written in the spelling of the
whole. -/
def Options.entries (s : Spelling) (o : Options) : List (Text × Value) :=
  [("leftMarginChars".toList, .ofTexts o.leftMarginChars),
    ("formatType".toList, .text o.formatType.name),
    ("minDelimiterWidth".toList, .number o.minDelimiterWidth 0),
    ("defaultAlignment".toList, .text o.defaultAlignment.name),
    ("headerAlignment".toList, .text o.headerAlignment.name),
    ("textWidthOptions".toList, o.widthOptions.toValue s),
    ("smartCursor".toList, .bool o.smartCursor)]

/-- A field of an object in one spelling is read from its own entry. -/
theorem Value.readField_spelled {α : Type} {s : Spelling} {entries : List (Text × Value)}
    {name : String} {default a : α} {read : Value → Checked α}
    (hnames : Spelling.Unambiguous (entries.map Prod.fst)) (i : Nat)
    (hentry : entries[i]? = some (name.toList, v)) (hread : read v = .ok a) :
    readField (spelled s entries) name default read = .ok a :=
  readField_eq_ok.mpr
    (.inr ⟨_, field?_spelled hnames (List.mem_of_getElem? hentry), hread⟩)

/-- Width options are read again as they were written. -/
theorem WidthOptions.ofValue_toValue {o : WidthOptions} (h : o.Canonical) (s : Spelling) :
    WidthOptions.ofValue (o.toValue s) = .ok o := by
  refine ofValue_eq_ok.mpr ⟨spelled s o.entries, rfl, ?_, ?_, ?_, ?_⟩
  · exact readField_spelled unambiguous 0 rfl rfl
  · exact readField_spelled unambiguous 1 rfl (toTextSet_ofTexts h.wideOverrides)
  · exact readField_spelled unambiguous 2 rfl (toTextSet_ofTexts h.narrowOverrides)
  · exact readField_spelled unambiguous 3 rfl rfl

/-- Canonical options are what is read of them when they are written. -/
theorem Options.ofValue_toValue {o : Options} (h : o.Canonical) (s : Spelling) :
    Options.ofValue (o.toValue s) = .ok o := by
  refine ofValue_eq_ok.mpr ⟨spelled s (o.entries s), rfl, ?_, ?_, ?_, ?_, ?_, ?_, ?_⟩
  · exact readField_spelled unambiguous 0 rfl (toTextSet_ofTexts h.leftMarginChars)
  · exact readField_spelled unambiguous 1 rfl
      (toChoice_eq_ok.mpr ⟨_, rfl, FormatType.ofName?_eq_some.mpr rfl⟩)
  · exact readField_spelled unambiguous 2 rfl (toPositive_eq_ok.mpr (toInteger_natCast _))
  · exact readField_spelled unambiguous 3 rfl
      (toChoice_eq_ok.mpr ⟨_, rfl, Side.ofName?_eq_some.mpr rfl⟩)
  · exact readField_spelled unambiguous 4 rfl
      (toChoice_eq_ok.mpr ⟨_, rfl, HeaderAlignment.ofName?_eq_some.mpr rfl⟩)
  · exact readField_spelled unambiguous 5 rfl (WidthOptions.ofValue_toValue h.widthOptions s)
  · exact readField_spelled unambiguous 6 rfl rfl

/-! ## Entries that are not looked at -/

/-- Nothing but the fields of the object matters. -/
theorem WidthOptions.ofValue_congr
    (h : ∀ name ∈ WidthOptions.fieldNames, field? fields name = field? fields' name) :
    WidthOptions.ofValue (.object fields) = WidthOptions.ofValue (.object fields') := by
  simp only [WidthOptions.fieldNames, List.forall_mem_cons] at h
  obtain ⟨h₁, h₂, h₃, h₄, -⟩ := h
  simp only [WidthOptions.ofValue, readField, h₁, h₂, h₃, h₄]

/-- Nothing but the fields of the object matters, and of the width options only what they are read
as. -/
theorem Options.ofValue_congr
    (h : ∀ name ∈ Options.fieldNames, name ≠ "textWidthOptions".toList →
      field? fields name = field? fields' name)
    (hwidths : readField fields "textWidthOptions" {} WidthOptions.ofValue =
      readField fields' "textWidthOptions" {} WidthOptions.ofValue) :
    Options.ofValue (.object fields) = Options.ofValue (.object fields') := by
  simp only [Options.fieldNames, List.forall_mem_cons] at h
  obtain ⟨h₁, h₂, h₃, h₄, h₅, -, h₇, -⟩ := h
  simp only [Options.ofValue, hwidths]
  simp only [readField, h₁ (by decide), h₂ (by decide), h₃ (by decide), h₄ (by decide),
    h₅ (by decide), h₇ (by decide)]

/-- The second value is the first with another entry for a field in snake case, or with none, where
the field is there in camel case too: a field of all options, or one of the width options inside. -/
inductive Options.HiddenChange : Value → Value → Prop
  | field {fields fields' : List (Text × Value)}
      (h : Value.HiddenChange Options.fieldNames fields fields') :
      HiddenChange (.object fields) (.object fields')
  | widthField {fields fields' inner inner' : List (Text × Value)} {key : Text}
      (hinner : field? fields "textWidthOptions".toList = some (key, .object inner))
      (hinner' : field? fields' "textWidthOptions".toList = some (key, .object inner'))
      (hagree : AgreeOff key fields fields')
      (h : Value.HiddenChange WidthOptions.fieldNames inner inner') :
      HiddenChange (.object fields) (.object fields')

/-- A hidden change is not seen, whether it is one of the options or of the width options in them.
-/
theorem Options.HiddenChange.ofValue_eq (h : HiddenChange v v') :
    Options.ofValue v = Options.ofValue v' := by
  cases h with
  | field h =>
    refine ofValue_congr (fun name hname _ => h.field?_eq unambiguous hname) ?_
    simp only [readField, h.field?_eq unambiguous (by decide : "textWidthOptions".toList ∈ fieldNames)]
  | widthField hinner hinner' hagree h =>
    obtain ⟨s, rfl⟩ := exists_spelling_of_field? hinner
    refine ofValue_congr (fun name hname hother => hagree.field?_eq fun s' hs => hother ?_) ?_
    · exact unambiguous.eq hname (by decide) hs
    · have hwidths := WidthOptions.ofValue_congr fun name hname =>
        h.field?_eq WidthOptions.unambiguous hname
      simp only [readField, hinner, hinner', hwidths]

/-! ## Safe options -/

/-- A field with choices holds one of them, and the very one that the object gives. -/
structure Value.HoldsChoice (fields : List (Text × Value)) (name : String) (choices : List Text)
    (held : Text) : Prop where
  mem : held ∈ choices
  given : ∀ entry, field? fields name.toList = some entry → entry.2 = .text held

/-- A delimiter cell has a dash, as many as the object asks for, and each field with choices holds one
of its own. -/
structure Options.SafeFor (fields : List (Text × Value)) (o : Options) : Prop where
  positive : 1 ≤ o.minDelimiterWidth
  given : ∀ entry, field? fields "minDelimiterWidth".toList = some entry →
    toInteger entry.2 = .ok (o.minDelimiterWidth : Int)
  formatType :
    HoldsChoice fields "formatType" ["normal".toList, "weak".toList] o.formatType.name
  defaultAlignment :
    HoldsChoice fields "defaultAlignment" ["left".toList, "right".toList, "center".toList]
      o.defaultAlignment.name
  headerAlignment :
    HoldsChoice fields "headerAlignment"
      ["follow".toList, "left".toList, "right".toList, "center".toList] o.headerAlignment.name

/-- The value of a field that is there has been accepted. -/
theorem Value.read_of_readField {α : Type} {name : String} {default a : α}
    {read : Value → Checked α} {entry : Text × Value}
    (h : readField fields name default read = .ok a)
    (hentry : field? fields name.toList = some entry) : read entry.2 = .ok a := by
  rcases readField_eq_ok.mp h with ⟨hnone, -⟩ | ⟨entry', hentry', hread⟩
  · rw [hnone] at hentry
    cases hentry
  · obtain rfl := Option.some.inj (hentry'.symm.trans hentry)
    exact hread

/-- Choices are read from their names only. -/
theorem Value.holdsChoice_of_readField {α : Type} {name : String} {default a : α}
    {ofName? : Text → Option α} {nameOf : α → Text} {choices : List Text}
    (hname : ∀ {t a}, ofName? t = some a ↔ t = nameOf a) (hchoices : ∀ a, nameOf a ∈ choices)
    (h : readField fields name default (toChoice ofName?) = .ok a) :
    HoldsChoice fields name choices (nameOf a) := by
  refine ⟨hchoices a, fun entry hentry => ?_⟩
  obtain ⟨t, htext, ht⟩ := toChoice_eq_ok.mp (read_of_readField h hentry)
  rw [htext, hname.mp ht]

/-- Options are safe as soon as each of their fields has been accepted. -/
theorem Options.ReadFrom.safeFor {o : Options} (h : o.ReadFrom fields) : o.SafeFor fields where
  positive := o.minDelimiterWidth_pos
  given entry hentry := toPositive_eq_ok.mp (read_of_readField h.minDelimiterWidth hentry)
  formatType :=
    holdsChoice_of_readField FormatType.ofName?_eq_some (by rintro (_ | _) <;> decide) h.formatType
  defaultAlignment :=
    holdsChoice_of_readField Side.ofName?_eq_some (by rintro (_ | _ | _) <;> decide)
      h.defaultAlignment
  headerAlignment :=
    holdsChoice_of_readField HeaderAlignment.ofName?_eq_some
      (by rintro (_ | _ | _ | _) <;> decide) h.headerAlignment

/-! ## Safe and stable -/

/-- Whatever value is read as options is an object, and they are safe for it; written in camel case or
in snake case, they are read as the same options. And what is read of a value, options or issues, is
the same when a field in snake case is changed that is there in camel case too. -/
theorem Options.accepted_stable :
    (∀ v o, Options.ofValue v = .ok o →
      (∃ fields, v = .object fields ∧ o.SafeFor fields) ∧
        ∀ s, Options.ofValue (o.toValue s) = .ok o) ∧
    ∀ v v', HiddenChange v v' → Options.ofValue v = Options.ofValue v' := by
  refine ⟨fun v o h => ⟨?_, fun s => ?_⟩, fun v v' h => h.ofValue_eq⟩
  · obtain ⟨fields, rfl, hread⟩ := ofValue_eq_ok.mp h
    exact ⟨fields, rfl, hread.safeFor⟩
  · exact ofValue_toValue (canonical_of_ofValue h) s

/-- An override given in both spellings, inside width options in snake case: the set in camel case is
read, put in order, and comes back when it is written. -/
theorem Options.accepted_stable_two_spellings :
    let wide : Text × Value :=
      ("wideOverrides".toList, .list [.text "b".toList, .text "a".toList, .text "b".toList])
    let value : List (Text × Value) → Value := fun inner =>
      .object [("minDelimiterWidth".toList, .text " 5 ".toList),
        ("text_width_options".toList, .object inner)]
    let o : Options :=
      { minDelimiterWidth := 5
        widthOptions := { wideOverrides := ["a".toList, "b".toList] } }
    Options.ofValue (value [("wide_overrides".toList, .null), wide]) = .ok o ∧
      Options.ofValue (o.toValue .snake) = .ok o ∧ Options.ofValue (value [wide]) = .ok o := by
  intro wide value o
  have hread : Options.ofValue (value [("wide_overrides".toList, .null), wide]) = .ok o := by decide
  have hfound : ∀ inner, field? [("minDelimiterWidth".toList, .text " 5 ".toList),
      ("text_width_options".toList, .object inner)] "textWidthOptions".toList =
        some ("text_width_options".toList, .object inner) := by
    simp [field?, Spelling.apply]
  have hhidden : HiddenChange (value [("wide_overrides".toList, .null), wide]) (value [wide]) := by
    refine .widthField (hfound _) (hfound _) (.cons _ (agreeOff_replaced ?_ ?_))
      ⟨"wideOverrides".toList, by decide, by decide, by decide, agreeOff_dropped ?_⟩ <;> rfl
  obtain ⟨haccepted, hsame⟩ := accepted_stable
  exact ⟨hread, (haccepted _ o hread).2 .snake, (hsame _ _ hhidden).symm.trans hread⟩

end TextTable
