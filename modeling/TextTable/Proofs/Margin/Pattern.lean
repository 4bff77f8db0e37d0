import TextTable.Proofs.Row.Reading

/-!
# The pattern of a margin

A search pattern is read sign by sign (`signs?`), where a backslash and the character behind it are
one sign. In a character class, between square brackets, most signs are members by themselves
(`members?`). A hyphen between two members makes a range of them, a caret in front turns the class
around, and a closing bracket ends the class unless it stands first, each of them only without a
backslash. A backslash before a letter or a digit makes a class of its own, such as that of the
white space.

In the pattern of a margin each character with a meaning in a class has its backslash
(`signs?_escapeInPattern`), so that texts which happen to stand side by side make nothing new: the
pattern is one class (`class?_pattern`), in which the characters of the texts stand one by one
behind the white space, and table lines are the lines that begin with characters of this class and a
pipe (`pattern_denotes`).
-/

namespace TextTable

open Unicode (isBlank)

/-! ## Character classes -/

namespace Pattern

/-- A character of a pattern, without or with a backslash before it. -/
inductive Sign
  | plain (c : Char)
  | escaped (c : Char)
deriving DecidableEq

/-- A member of a character class. -/
inductive Member
  /-- all white space -/
  | blank
  | single (c : Char)
  /-- the characters from `first` up to and including `last` -/
  | range (first last : Char)
deriving DecidableEq

/-- A character class; a negated one has the characters that none of its members has. -/
structure CharClass where
  negated : Bool
  members : List Member
deriving DecidableEq

/-- The member has the character. -/
def Member.holds : Member → Char → Bool
  | .blank, c => isBlank c
  | .single d, c => c = d
  | .range first last, c => first ≤ c && c ≤ last

/-- The class has the character. -/
def CharClass.holds (k : CharClass) (c : Char) : Bool :=
  (k.members.any fun member => member.holds c) != k.negated

/-- The signs of a pattern, which does not end in a lone backslash. -/
def signs? : Text → Option (List Sign)
  | [] => some []
  | ['\\'] => none
  | '\\' :: c :: rest => (signs? rest).map (.escaped c :: ·)
  | c :: rest => (signs? rest).map (.plain c :: ·)

/-- What a sign means in a class. Of the classes that are written as a backslash with a letter or a
digit only the white space is known here, and a plain opening bracket has no place in a class. -/
def Sign.member? : Sign → Option Member
  | .plain c => if c = '[' then none else some (.single c)
  | .escaped c => if c = 's' then some .blank else if c.isAlphanum then none else some (.single c)

/-- The range between two characters, which are in order. -/
def Member.upTo? : Member → Member → Option Member
  | .single first, .single last => if first ≤ last then some (.range first last) else none
  | _, _ => none

/-- The members before the closing bracket, and the signs behind it. A hyphen right before the
bracket is a member. -/
def members? : List Sign → Option (List Member × List Sign)
  | [] => none
  | .plain ']' :: rest => some ([], rest)
  | sign :: .plain '-' :: .plain ']' :: rest => do
    return ([← sign.member?, .single '-'], rest)
  | sign :: .plain '-' :: last :: rest => do
    let range ← (← sign.member?).upTo? (← last.member?)
    let (members, behind) ← members? rest
    return (range :: members, behind)
  | sign :: rest => do
    let member ← sign.member?
    let (members, behind) ← members? rest
    return (member :: members, behind)

/-- The members of a class, in which a bracket in front closes nothing. -/
def body? : List Sign → Option (List Member × List Sign)
  | .plain ']' :: rest => members? (.escaped ']' :: rest)
  | signs => members? signs

/-- The class that a pattern begins with, and the signs behind it. -/
def class? (pattern : Text) : Option (CharClass × List Sign) := do
  match ← signs? pattern with
  | .plain '[' :: .plain '^' :: rest =>
    let (members, behind) ← body? rest
    return (⟨true, members⟩, behind)
  | .plain '[' :: rest =>
    let (members, behind) ← body? rest
    return (⟨false, members⟩, behind)
  | _ => none

example : class? "[^]\\s\\--a-]|".toList =
    some (⟨true, [.single ']', .blank, .range '-' 'a', .single '-']⟩, [.plain '|']) := by decide

/-! ## Reading characters that were written -/

/-- The sign that a character of a margin is written as. -/
def signOf (c : Char) : Sign := if c ∈ Margin.patternSpecials then .escaped c else .plain c

/-- A character that stands without a backslash has no meaning in a class. -/
theorem special_of_signOf {c d : Char} (h : signOf c = .plain d) : d ∉ Margin.patternSpecials := by
  rw [signOf] at h
  split at h
  · cases h
  · next hc =>
    obtain rfl := Sign.plain.inj h
    exact hc

theorem signs?_plain_cons {c : Char} (hc : c ≠ '\\') (rest : Text) :
    signs? (c :: rest) = (signs? rest).map (.plain c :: ·) := by
  rw [signs?]
  · exact fun h => absurd h hc
  · exact fun _ _ h => absurd h hc

/-- An escaped text is read as one sign for each of its characters, whatever follows. -/
theorem signs?_escapeInPattern (t rest : Text) :
    signs? (t.flatMap Margin.escapeInPattern ++ rest) = (signs? rest).map (t.map signOf ++ ·) := by
  induction t with
  | nil => simp
  | cons c t ih =>
    rw [List.flatMap_cons, List.append_assoc, Margin.escapeInPattern]
    split
    · next hc =>
      simp [signs?, ih, signOf, hc, Function.comp_def]
    · next hc =>
      have hne : c ≠ '\\' := by
        rintro rfl
        exact hc (by decide)
      rw [List.singleton_append, signs?_plain_cons hne, ih]
      simp [signOf, hc, Function.comp_def]

/-- The sign of a character is that character, and no class. -/
@[simp] theorem member?_signOf (c : Char) : (signOf c).member? = some (.single c) := by
  rw [signOf]
  split
  · next hc =>
    have hne : c ≠ 's' := by
      rintro rfl
      exact absurd hc (by decide)
    have hspecials : Margin.patternSpecials.all (! ·.isAlphanum) = true := by decide
    have hplain : c.isAlphanum = false := by simpa using List.all_eq_true.mp hspecials c hc
    simp [Sign.member?, hne, hplain]
  · next hc =>
    have hne : c ≠ '[' := by
      rintro rfl
      exact hc (by decide)
    simp [Sign.member?, hne]

/-- A sign that neither closes the class nor stands before a hyphen is a member by itself. -/
theorem members?_cons {sign : Sign} {member : Member} {rest : List Sign}
    (hmember : sign.member? = some member) (hsign : sign ≠ .plain ']')
    (hrest : rest.head? ≠ some (.plain '-')) :
    members? (sign :: rest) = (members? rest).map fun (members, behind) =>
      (member :: members, behind) := by
  rw [members?]
  · rw [hmember]
    cases members? rest <;> rfl
  · exact hsign
  · rintro _ rfl
    exact hrest rfl
  · rintro _ _ rfl
    exact hrest rfl

/-- No character that was written is a plain hyphen, and neither is the closing bracket. -/
theorem head?_signOf_ne (t : Text) (behind : List Sign) :
    (t.map signOf ++ .plain ']' :: behind).head? ≠ some (.plain '-') := by
  cases t with
  | nil => simp
  | cons c t =>
    intro h
    exact special_of_signOf (Option.some.inj h) (by decide)

/-- The signs of a text are its characters, up to the bracket that ends the class. -/
theorem members?_signOf (t : Text) (behind : List Sign) :
    members? (t.map signOf ++ .plain ']' :: behind) = some (t.map .single, behind) := by
  induction t with
  | nil => rfl
  | cons c t ih =>
    have hbracket : signOf c ≠ .plain ']' := by
      intro h
      exact special_of_signOf h (by decide)
    rw [List.map_cons, List.cons_append,
      members?_cons (member?_signOf c) hbracket (head?_signOf_ne t behind), ih]
    rfl

end Pattern

/-! ## The class of a margin -/

namespace Margin

open Pattern

variable (m : Margin)

/-- The class of the characters that may stand in a margin, as the pattern of the margin has it. -/
def charClass : CharClass := ⟨false, .blank :: m.admitted.flatten.map .single⟩

theorem pattern_eq :
    m.pattern = '[' :: '\\' :: 's' :: (m.admitted.flatten.flatMap escapeInPattern ++ [']', '*']) := by
  have hflatten : m.admitted.flatten.flatMap escapeInPattern =
      m.admitted.flatMap (·.flatMap escapeInPattern) := by
    rw [← List.flatMap_id, List.flatMap_assoc]
    rfl
  rw [pattern, hflatten]
  rfl

/-- The pattern of a margin is read as the class of the margin, and a star behind it. -/
theorem class?_pattern : class? m.pattern = some (m.charClass, [.plain '*']) := by
  have hsigns : signs? m.pattern = some (.plain '[' :: .escaped 's' ::
      (m.admitted.flatten.map signOf ++ [.plain ']', .plain '*'])) := by
    rw [pattern_eq, signs?_plain_cons (by decide), signs?, signs?_escapeInPattern]
    rfl
  have hmembers : members? (.escaped 's' ::
      (m.admitted.flatten.map signOf ++ [.plain ']', .plain '*'])) =
      some (.blank :: m.admitted.flatten.map .single, [.plain '*']) := by
    have hblank : (Sign.escaped 's').member? = some .blank := rfl
    rw [members?_cons hblank (by simp) (head?_signOf_ne _ _), members?_signOf]
    rfl
  rw [class?, hsigns]
  simp only [Option.bind_eq_bind, Option.bind_some, body?, hmembers]
  rfl

/-- The class holds the characters of the margin. -/
@[simp] theorem holds_charClass (c : Char) : m.charClass.holds c = m.contains c := by
  rw [Bool.eq_iff_iff]
  simp [charClass, CharClass.holds, Member.holds, contains]

/-- A margin has blanks, and the characters of its texts except for those texts that are reserved.
-/
theorem contains_iff {c : Char} :
    m.contains c = true ↔
      isBlank c = true ∨ ∃ t ∈ m.texts, t ≠ ['|'] ∧ t ≠ ['\\'] ∧ t ≠ ['`'] ∧ c ∈ t := by
  simp [contains, admitted, reserved, and_assoc]

/-- Whatever the texts of a margin are, and in whatever order: the pattern of the margin is read as
one class with a star behind it, in which the white space and single characters are all that is
read. The class has exactly the white space and the characters of those texts that are no pipe, no
backslash and no backtick by themselves. A table line is a line that begins with any number of
characters of the class and a pipe behind them. -/
theorem pattern_denotes :
    ∃ k : CharClass, class? m.pattern = some (k, [.plain '*']) ∧
      k.negated = false ∧ k.members = .blank :: m.admitted.flatten.map .single ∧
      (∀ c, k.holds c = true ↔
        isBlank c = true ∨ ∃ t ∈ m.texts, t ≠ ['|'] ∧ t ≠ ['\\'] ∧ t ≠ ['`'] ∧ c ∈ t) ∧
      ∀ line, m.isTableLine line = true ↔
        ∃ l r, line = l ++ '|' :: r ∧ ∀ c ∈ l, k.holds c = true := by
  refine ⟨m.charClass, m.class?_pattern, rfl, rfl, fun c => ?_, fun line => ?_⟩
  · simp [contains_iff]
  · simp only [holds_charClass]
    exact isTableLine_iff

/-- A hyphen between two letters, a caret and brackets make nothing of the pattern. -/
example : class? (pattern ⟨[['^', ']'], ['a'], ['-'], ['z', '|']]⟩) =
    some (⟨false, [.blank, .single '^', .single ']', .single 'a', .single '-', .single 'z',
      .single '|']⟩, [.plain '*']) := by
  decide

end Margin

end TextTable
