import Mathlib.Data.List.SplitBy
import TextTable.Proofs.Editor.Sweeping

/-!
# The layout of a document

In a document, neighbours that are both table lines belong together. So the document falls into
groups: its runs, and its other lines one by one. The *layout of the document*, `relaidAll`, lays
out each run and leaves the other lines as they are (`relaidAll_run`, `relaidAll_aside`). It grows
no shorter (`length_le_relaidAll`), and laying it out again changes nothing (`relaidAll_relaidAll`),
because it falls into the same groups as before (`groups_relaidAll`).
-/

namespace TextTable

/-- The runs of table lines, and each other line by itself, in their order. -/
def Margin.groups (m : Margin) (lines : List Text) : List (List Text) :=
  lines.splitBy fun a b => m.isTableLine a && m.isTableLine b

namespace Editor

/-- A group of lines, laid out if it is a run. -/
def relaidGroup (o : Options) (group : List Text) : List Text :=
  if group.all o.margin.isTableLine then relaid o group else group

/-- The document with each run laid out. -/
def relaidAll (o : Options) (lines : List Text) : List Text :=
  (o.margin.groups lines).flatMap (relaidGroup o)

variable {o : Options} {above block below lines : List Text} {line : Text}

/-! ## Document by document -/

/-- Parts of a document that no run connects are laid out apart. -/
theorem relaidAll_append (h : ∀ a ∈ above.getLast?, ∀ b ∈ below.head?,
    (o.margin.isTableLine a && o.margin.isTableLine b) = false) :
    relaidAll o (above ++ below) = relaidAll o above ++ relaidAll o below := by
  rw [relaidAll, Margin.groups, List.splitBy_append h, List.flatMap_append]
  rfl

@[simp] theorem relaidAll_nil (o : Options) : relaidAll o [] = [] := rfl

theorem relaidAll_singleton (hoff : o.margin.isTableLine line = false) :
    relaidAll o [line] = [line] := by
  have hgroups : o.margin.groups [line] = [[line]] := rfl
  rw [relaidAll, hgroups, List.flatMap_singleton, relaidGroup, List.all_cons, hoff,
    Bool.false_and, if_neg Bool.false_ne_true]

/-- A line of no table stays between what is above it and what is below it. -/
theorem relaidAll_aside (hoff : o.margin.isTableLine line = false) (above below : List Text) :
    relaidAll o (above ++ line :: below) = relaidAll o above ++ line :: relaidAll o below := by
  have hbelow : relaidAll o (line :: below) = line :: relaidAll o below := by
    rw [← List.singleton_append, relaidAll_append, relaidAll_singleton hoff]
    · rfl
    · intro a ha b _
      obtain rfl : line = a := Option.some.inj ha
      rw [hoff, Bool.false_and]
  rw [relaidAll_append, hbelow]
  intro a _ b hb
  obtain rfl : line = b := Option.some.inj hb
  rw [hoff, Bool.and_false]

/-- A document that is one run is laid out as that run. -/
theorem relaidAll_block (hblock : ∀ l ∈ block, o.margin.isTableLine l = true) (hne : block ≠ []) :
    relaidAll o block = relaid o block := by
  have hchain : block.IsChain fun a b =>
      (o.margin.isTableLine a && o.margin.isTableLine b) = true := by
    refine (List.pairwise_of_forall_mem_list fun a ha b hb => ?_).isChain
    rw [hblock a ha, hblock b hb, Bool.and_self]
  rw [relaidAll, Margin.groups, List.splitBy_of_isChain hne hchain, List.flatMap_singleton,
    relaidGroup, if_pos (List.all_eq_true.mpr hblock)]

/-- A run is laid out between what is above it and what is below it. -/
theorem relaidAll_run (hrun : Run o.margin above block below) (hne : block ≠ []) :
    relaidAll o (above ++ block ++ below) =
      relaidAll o above ++ relaid o block ++ relaidAll o below := by
  rw [List.append_assoc, relaidAll_append, relaidAll_append, relaidAll_block hrun.block hne,
    List.append_assoc]
  · intro a _ b hb
    rw [hrun.below b hb, Bool.and_false]
  · intro a ha b _
    rw [hrun.above a ha, Bool.false_and]

/-! ## Group by group -/

/-- No line is lost between groups. -/
@[simp]
theorem flatten_groups (m : Margin) (lines : List Text) : (m.groups lines).flatten = lines :=
  List.flatten_splitBy _ lines

/-- At most a delimiter row is put into a group. -/
theorem length_le_relaidGroup (o : Options) (group : List Text) :
    group.length ≤ (relaidGroup o group).length := by
  rw [relaidGroup]
  split
  · by_cases hne : group = []
    · rw [hne]
      exact Nat.zero_le _
    · rw [length_relaid hne]
      exact Nat.le_add_right _ _
  · exact Nat.le_refl _

/-- The layout of a document has at least as many lines as the document. -/
theorem length_le_relaidAll (o : Options) (lines : List Text) :
    lines.length ≤ (relaidAll o lines).length := by
  have hgroups : ∀ groups : List (List Text),
      groups.flatten.length ≤ (groups.flatMap (relaidGroup o)).length := by
    intro groups
    induction groups with
    | nil => exact Nat.le_refl _
    | cons group groups ih =>
      rw [List.flatten_cons, List.flatMap_cons, List.length_append, List.length_append]
      exact Nat.add_le_add (length_le_relaidGroup o group) ih
  have hall := hgroups (o.margin.groups lines)
  rwa [flatten_groups] at hall

/-! ### Documents that are laid out already -/

/-- Parts that do not get shorter stay the same when the whole does. -/
theorem append_inj_of_le {a a' b b' : List Text} (h : a' ++ b' = a ++ b)
    (ha : a.length ≤ a'.length) (hb : b.length ≤ b'.length) : a' = a ∧ b' = b := by
  have hlen := congrArg List.length h
  rw [List.length_append, List.length_append] at hlen
  exact List.append_inj h (by omega)

/-- In a document that is laid out already, each run is, and so is what is above it. -/
theorem relaid_of_relaidAll (hrun : Run o.margin above block below) (hne : block ≠ [])
    (h : relaidAll o (above ++ block ++ below) = above ++ block ++ below) :
    relaidAll o above = above ∧ relaid o block = block := by
  have habove := length_le_relaidAll o above
  have hblock : block.length ≤ (relaid o block).length := by
    rw [length_relaid hne]
    exact Nat.le_add_right _ _
  rw [relaidAll_run hrun hne] at h
  obtain ⟨hfront, -⟩ := append_inj_of_le h (by simp only [List.length_append]; omega)
    (length_le_relaidAll o below)
  exact append_inj_of_le hfront habove hblock

/-- In a document that is laid out already, what is above a line of no table is. -/
theorem relaidAll_above (hoff : o.margin.isTableLine line = false)
    (h : relaidAll o (above ++ line :: below) = above ++ line :: below) :
    relaidAll o above = above := by
  rw [relaidAll_aside hoff] at h
  exact (append_inj_of_le h (length_le_relaidAll o above)
    (Nat.succ_le_succ (length_le_relaidAll o below))).1

section Simple

variable (hm : o.margin.Simple) {group : List Text}

theorem relaidGroup_ne_nil (hne : group ≠ []) : relaidGroup o group ≠ [] := by
  have := length_le_relaidGroup o group
  have := List.length_pos_iff.mpr hne
  exact List.length_pos_iff.mp (by omega)

include hm

/-- A run stays a run, and another line stays what it is. -/
theorem relaidGroup_all (hne : group ≠ []) :
    (relaidGroup o group).all o.margin.isTableLine = group.all o.margin.isTableLine := by
  rw [relaidGroup]
  split
  · next hall =>
    rw [hall, List.all_eq_true]
    exact isTableLine_relaid (List.all_eq_true.mp hall) hne hm
  · rfl

/-- A laid out group is left as it is. -/
theorem relaidGroup_relaidGroup (hne : group ≠ []) :
    relaidGroup o (relaidGroup o group) = relaidGroup o group := by
  rw [relaidGroup, relaidGroup_all hm hne, relaidGroup]
  split
  · next hall => exact relaid_relaid (List.all_eq_true.mp hall) hne hm
  · rfl

/-- The first and the last line of a group stay table lines, or none. -/
theorem isTableLine_ends (hne : group ≠ []) (hne' : relaidGroup o group ≠ []) :
    o.margin.isTableLine ((relaidGroup o group).head hne') =
        o.margin.isTableLine (group.head hne) ∧
      o.margin.isTableLine ((relaidGroup o group).getLast hne') =
        o.margin.isTableLine (group.getLast hne) := by
  by_cases hall : group.all o.margin.isTableLine = true
  · have htable := List.all_eq_true.mp hall
    have htable' := List.all_eq_true.mp ((relaidGroup_all hm hne).trans hall)
    rw [htable _ (List.head_mem hne), htable _ (List.getLast_mem hne),
      htable' _ (List.head_mem hne'), htable' _ (List.getLast_mem hne')]
    exact ⟨rfl, rfl⟩
  · have hsame : relaidGroup o group = group := if_neg hall
    simp only [hsame, and_self]

/-- The layout of a document falls into the layouts of its groups. -/
theorem groups_relaidAll (lines : List Text) :
    o.margin.groups (relaidAll o lines) = (o.margin.groups lines).map (relaidGroup o) := by
  rw [relaidAll, List.flatMap_def, Margin.groups]
  have hne : ∀ g ∈ o.margin.groups lines, g ≠ [] := fun g hg => List.ne_nil_of_mem_splitBy hg
  refine List.splitBy_flatten ?_ ?_ ?_
  · intro hnil
    obtain ⟨g, hg, hempty⟩ := List.mem_map.mp hnil
    exact relaidGroup_ne_nil (hne g hg) hempty
  · intro g' hg'
    obtain ⟨g, hg, rfl⟩ := List.mem_map.mp hg'
    rw [relaidGroup]
    split
    · next hall =>
      have htable := isTableLine_relaid (List.all_eq_true.mp hall) (hne g hg) hm
      refine (List.pairwise_of_forall_mem_list fun a ha b hb => ?_).isChain
      rw [htable a ha, htable b hb, Bool.and_self]
    · exact List.isChain_of_mem_splitBy hg
  · rw [List.isChain_map]
    refine (List.isChain_getLast_head_splitBy _ lines).imp ?_
    rintro a b ⟨ha, hb, hapart⟩
    refine ⟨relaidGroup_ne_nil ha, relaidGroup_ne_nil hb, ?_⟩
    rw [(isTableLine_ends hm ha _).2, (isTableLine_ends hm hb _).1]
    exact hapart

/-- Laying out a document twice is laying it out once. -/
theorem relaidAll_relaidAll (lines : List Text) :
    relaidAll o (relaidAll o lines) = relaidAll o lines := by
  rw [relaidAll, groups_relaidAll hm, List.flatMap_map, relaidAll]
  have hgroup : ∀ g ∈ o.margin.groups lines,
      relaidGroup o (relaidGroup o g) = relaidGroup o g := fun g hg =>
    relaidGroup_relaidGroup hm (List.ne_nil_of_mem_splitBy hg)
  exact List.flatMap_congr hgroup

end Simple

/-! ## Runs of the layout -/

/-- What ends in a line of no table is laid out with this line at its end. -/
theorem getLast?_relaidAll (h : ∀ l ∈ lines.getLast?, o.margin.isTableLine l = false) :
    ∀ l ∈ (relaidAll o lines).getLast?, o.margin.isTableLine l = false := by
  rcases List.eq_nil_or_concat' lines with rfl | ⟨front, last, rfl⟩
  · exact h
  · have hoff := h last List.getLast?_concat
    rw [relaidAll_aside hoff front [], relaidAll_nil]
    exact fun l hl => h l (by rwa [List.getLast?_concat] at hl ⊢)

/-- A document that begins outside of all tables still does when it is laid out. -/
theorem head?_relaidAll (h : ∀ l ∈ lines.head?, o.margin.isTableLine l = false) :
    ∀ l ∈ (relaidAll o lines).head?, o.margin.isTableLine l = false := by
  cases lines with
  | nil => exact h
  | cons first rest =>
    have haside := relaidAll_aside (h first rfl) [] rest
    rw [List.nil_append, relaidAll_nil, List.nil_append] at haside
    rw [haside]
    exact h

/-- The layout of a run is a run in the layout of the document. -/
theorem run_relaidAll (hm : o.margin.Simple) (hrun : Run o.margin above block below)
    (hne : block ≠ []) : Run o.margin (relaidAll o above) (relaid o block) (relaidAll o below) :=
  ⟨isTableLine_relaid hrun.block hne hm, getLast?_relaidAll hrun.above, head?_relaidAll hrun.below⟩

end Editor

end TextTable
