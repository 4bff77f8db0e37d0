import TextTable.Options.Reader
import TextTable.Options.Writer
import TextTable.Proofs.Text.Sorted

/-!
# Accepted options

What a value that is read as options must be like. Each reader accepts a value exactly when the
value has the form that the reader is for (`toText_eq_ok`, `toTextSet_eq_ok`, `toChoice_eq_ok`,
`toPositive_eq_ok`), and so an object is read as given options exactly when each of its fields is
read as the option of that name (`Options.ofValue_eq_ok`). Accepted options are canonical
(`Options.canonical_of_ofValue`): their sets are increasing.
-/

namespace TextTable

/-! ## Checked values -/

namespace Checked

variable {α β : Type} {step : PathStep} {x : Checked α} {y : Checked β} {a : α} {b : β}

/-- The path to a value matters for its mistakes only. -/
theorem under_eq_ok : x.under step = .ok a ↔ x = .ok a := by
  cases x <;> simp [under]

/-- Two readers that report their mistakes together accept what each of them accepts. -/
theorem both_eq_ok {p : α × β} : x.both y = .ok p ↔ x = .ok p.1 ∧ y = .ok p.2 := by
  obtain ⟨a, b⟩ := p
  cases x <;> cases y <;> simp [both]

/-- What is made of a value is made of an accepted one. -/
theorem map_eq_ok {f : α → β} : x.map f = .ok b ↔ ∃ a, x = .ok a ∧ f a = b := by
  cases x <;> simp [Except.map]

end Checked

open Checked

/-! ## Names of choices -/

theorem Side.ofName?_eq_some {t : Text} {side : Side} :
    Side.ofName? t = some side ↔ t = side.name := by
  constructor
  · intro h
    simp only [ofName?] at h
    split_ifs at h with hleft hright hcenter <;> obtain rfl := Option.some.inj h
    · exact hleft
    · exact hright
    · exact hcenter
  · rintro rfl
    cases side <;> rfl

/-- A choice is written as its name, to the letter. -/
theorem FormatType.ofName?_eq_some {t : Text} {format : FormatType} :
    FormatType.ofName? t = some format ↔ t = format.name := by
  constructor
  · intro h
    simp only [ofName?] at h
    split_ifs at h with hnormal hweak <;> obtain rfl := Option.some.inj h
    · exact hnormal
    · exact hweak
  · rintro rfl
    cases format <;> rfl

theorem HeaderAlignment.ofName?_eq_some {t : Text} {alignment : HeaderAlignment} :
    HeaderAlignment.ofName? t = some alignment ↔ t = alignment.name := by
  constructor
  · intro h
    rw [ofName?] at h
    split at h
    · next hfollow =>
      obtain rfl := Option.some.inj h
      exact hfollow
    · obtain ⟨side, hside, rfl⟩ := Option.map_eq_some_iff.mp h
      exact Side.ofName?_eq_some.mp hside
  · rintro rfl
    cases alignment with
    | follow => rfl
    | fixed side => cases side <;> rfl

/-! ## Readers of single values -/

namespace Value

variable {α : Type} {v : Value} {vs : List Value} {ts : List Text}

theorem toText_eq_ok {t : Text} : toText v = .ok t ↔ v = .text t := by
  cases v <;> simp [toText, issue]

/-- A list is read as texts when all its items are texts. -/
theorem toTexts_eq_ok {i : Nat} : toTexts i vs = .ok ts ↔ vs = ts.map .text := by
  induction vs generalizing i ts with
  | nil =>
    rw [toTexts, eq_comm (b := ts.map Value.text), List.map_eq_nil_iff]
    simp [eq_comm]
  | cons v rest ih =>
    simp only [toTexts, map_eq_ok, both_eq_ok, under_eq_ok, toText_eq_ok, ih]
    constructor
    · rintro ⟨⟨t, us⟩, ⟨rfl, rfl⟩, rfl⟩
      rfl
    · intro h
      obtain ⟨t, us, rfl, rfl, rfl⟩ := List.map_eq_cons_iff.mp h.symm
      exact ⟨(t, us), ⟨rfl, rfl⟩, rfl⟩

/-- A set is read from any list of its members. -/
theorem toTextSet_eq_ok :
    toTextSet v = .ok ts ↔ ∃ us, v = .ofTexts us ∧ Text.sortedSet us = ts := by
  cases v with
  | list items =>
    simp only [toTextSet, map_eq_ok, toTexts_eq_ok, ofTexts, Value.list.injEq]
  | _ => simp [toTextSet, issue, ofTexts]

/-- Increasing texts are the set that they are read as. -/
theorem toTextSet_ofTexts (h : ts.Pairwise (· < ·)) : toTextSet (.ofTexts ts) = .ok ts :=
  toTextSet_eq_ok.mpr ⟨ts, rfl, Text.sortedSet_of_increasing h⟩

/-- A choice is read from a text that names it. -/
theorem toChoice_eq_ok {ofName? : Text → Option α} {a : α} :
    toChoice ofName? v = .ok a ↔ ∃ t, v = .text t ∧ ofName? t = some a := by
  cases v with
  | text t => cases h : ofName? t <;> simp [toChoice, h, issue]
  | _ => simp [toChoice, issue]

/-- No integer but the one that was read makes a positive number. -/
theorem toPositive_eq_ok {n : { n : Nat // 0 < n }} :
    toPositive v = .ok n ↔ toInteger v = .ok (n.1 : Int) := by
  obtain ⟨n, hn⟩ := n
  rw [toPositive]
  cases toInteger v with
  | error issues => simp
  | ok i =>
    by_cases hi : 0 < i.toNat
    · simp only [dif_pos hi, Except.ok.injEq, Subtype.mk.injEq]
      omega
    · simp only [dif_neg hi, issue, reduceCtorEq, Except.ok.injEq, false_iff]
      omega

/-- A number without a fraction is read as it stands. -/
theorem toInteger_natCast (n : Nat) : toInteger (.number n 0) = .ok (n : Int) := by
  simp [toInteger, powerOfTen]

/-- A field is left at its default, or it is there and its value is accepted. -/
theorem readField_eq_ok {fields : List (Text × Value)} {name : String} {default a : α}
    {read : Value → Checked α} :
    readField fields name default read = .ok a ↔
      field? fields name.toList = none ∧ a = default ∨
        ∃ entry, field? fields name.toList = some entry ∧ read entry.2 = .ok a := by
  rw [readField]
  cases field? fields name.toList with
  | none => simp [eq_comm]
  | some entry => simp [under_eq_ok]

end Value

open Value

/-! ## Readers of the options -/

/-- Each field of the object is read as the option of its name. -/
structure WidthOptions.ReadFrom (fields : List (Text × Value)) (o : WidthOptions) : Prop where
  normalize : readField fields "normalize" true toTruth = .ok o.normalize
  wideOverrides : readField fields "wideOverrides" [] toTextSet = .ok o.wideOverrides
  narrowOverrides : readField fields "narrowOverrides" [] toTextSet = .ok o.narrowOverrides
  ambiguousIsWide : readField fields "treatAmbiguousAsWide" false toTruth = .ok o.ambiguousIsWide

/-- Width options are read from an object, field by field. -/
theorem WidthOptions.ofValue_eq_ok {v : Value} {o : WidthOptions} :
    WidthOptions.ofValue v = .ok o ↔ ∃ fields, v = .object fields ∧ o.ReadFrom fields := by
  cases v with
  | object fields =>
    simp only [WidthOptions.ofValue, map_eq_ok, both_eq_ok, Value.object.injEq]
    constructor
    · rintro ⟨⟨normalize, wide, narrow, ambiguous⟩, ⟨h₁, h₂, h₃, h₄⟩, rfl⟩
      exact ⟨fields, rfl, ⟨h₁, h₂, h₃, h₄⟩⟩
    · rintro ⟨_, rfl, h⟩
      exact ⟨(_, _, _, _),
        ⟨h.normalize, h.wideOverrides, h.narrowOverrides, h.ambiguousIsWide⟩, rfl⟩
  | _ => simp [WidthOptions.ofValue, issue]

/-- Each field of the object is read as the option of its name. -/
structure Options.ReadFrom (fields : List (Text × Value)) (o : Options) : Prop where
  leftMarginChars : readField fields "leftMarginChars" [] toTextSet = .ok o.leftMarginChars
  formatType : readField fields "formatType" .normal (toChoice FormatType.ofName?) = .ok o.formatType
  minDelimiterWidth : readField fields "minDelimiterWidth" ⟨3, by decide⟩ toPositive =
    .ok ⟨o.minDelimiterWidth, o.minDelimiterWidth_pos⟩
  defaultAlignment :
    readField fields "defaultAlignment" .left (toChoice Side.ofName?) = .ok o.defaultAlignment
  headerAlignment :
    readField fields "headerAlignment" .follow (toChoice HeaderAlignment.ofName?) =
      .ok o.headerAlignment
  widthOptions : readField fields "textWidthOptions" {} WidthOptions.ofValue = .ok o.widthOptions
  smartCursor : readField fields "smartCursor" false toTruth = .ok o.smartCursor

/-- Options are read from an object, field by field. -/
theorem Options.ofValue_eq_ok {v : Value} {o : Options} :
    Options.ofValue v = .ok o ↔ ∃ fields, v = .object fields ∧ o.ReadFrom fields := by
  cases v with
  | object fields =>
    simp only [Options.ofValue, map_eq_ok, both_eq_ok, Value.object.injEq]
    constructor
    · rintro ⟨⟨margin, format, dashes, side, header, widths, smart⟩,
        ⟨h₁, h₂, h₃, h₄, h₅, h₆, h₇⟩, rfl⟩
      exact ⟨fields, rfl, ⟨h₁, h₂, h₃, h₄, h₅, h₆, h₇⟩⟩
    · rintro ⟨_, rfl, h⟩
      exact ⟨(_, _, _, _, _, _, _),
        ⟨h.leftMarginChars, h.formatType, h.minDelimiterWidth, h.defaultAlignment,
          h.headerAlignment, h.widthOptions, h.smartCursor⟩, rfl⟩
  | _ => simp [Options.ofValue, issue]

/-! ## Canonical options -/

/-- The sets are increasing. -/
structure WidthOptions.Canonical (o : WidthOptions) : Prop where
  wideOverrides : o.wideOverrides.Pairwise (· < ·)
  narrowOverrides : o.narrowOverrides.Pairwise (· < ·)

/-- All sets are increasing. -/
structure Options.Canonical (o : Options) : Prop where
  leftMarginChars : o.leftMarginChars.Pairwise (· < ·)
  widthOptions : o.widthOptions.Canonical

/-- A set that was read is increasing, also when its field is missing. -/
theorem Value.readField_increasing {fields : List (Text × Value)} {name : String} {ts : List Text}
    (h : readField fields name [] toTextSet = .ok ts) : ts.Pairwise (· < ·) := by
  rcases readField_eq_ok.mp h with ⟨-, rfl⟩ | ⟨entry, -, hread⟩
  · exact List.Pairwise.nil
  · obtain ⟨us, -, rfl⟩ := toTextSet_eq_ok.mp hread
    exact Text.sortedSet_increasing us

theorem WidthOptions.canonical_of_ofValue {v : Value} {o : WidthOptions}
    (h : WidthOptions.ofValue v = .ok o) : o.Canonical := by
  obtain ⟨fields, -, hread⟩ := ofValue_eq_ok.mp h
  exact ⟨readField_increasing hread.wideOverrides, readField_increasing hread.narrowOverrides⟩

/-- The sets of accepted options, those of the width options among them, are increasing. -/
theorem Options.canonical_of_ofValue {v : Value} {o : Options} (h : Options.ofValue v = .ok o) :
    o.Canonical := by
  obtain ⟨fields, -, hread⟩ := ofValue_eq_ok.mp h
  refine ⟨readField_increasing hread.leftMarginChars, ?_⟩
  rcases readField_eq_ok.mp hread.widthOptions with ⟨-, hdefault⟩ | ⟨entry, -, hwidths⟩
  · rw [hdefault]
    exact ⟨List.Pairwise.nil, List.Pairwise.nil⟩
  · exact WidthOptions.canonical_of_ofValue hwidths

end TextTable
