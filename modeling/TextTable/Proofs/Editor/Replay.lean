import TextTable.Editor.Replay
import TextTable.Proofs.Editor.Operations
import TextTable.Proofs.Script.Outcome
import TextTable.Proofs.Signed

/-!
# Replaying scripts in a document

An editor makes every edit whose rows exist, unless it refuses an operation. Replayed on a block of
the document, a script does to the document what it does to the block (`replay_writes`): the lines
above and below the block stay, as do the cursor and all else but the log (`Rewritten`). This is
seen for one edit (`replayEdit_writes`) and carried through the script by `Writes.bind`; when a
block is replaced as a whole, `exchange_writes` says the same.
-/

namespace TextTable.Editor

/-! ## Rewritten documents -/

/-- The editor has other lines, and some modifications more in its log. -/
def Rewritten (e : Editor) (lines : List Text) (e' : Editor) : Prop :=
  ∃ changes, e' = { e with lines, log := e.log ++ changes }

namespace Rewritten

variable {e e' e'' : Editor} {lines lines' : List Text}

theorem refl (e : Editor) : Rewritten e e.lines e := ⟨[], by rw [List.append_nil]⟩

theorem one (e : Editor) (lines : List Text) (change : Change) :
    Rewritten e lines { e with lines, log := e.log ++ [change] } := ⟨[change], rfl⟩

/-- Lines that are written twice are those written last. -/
theorem trans (h : Rewritten e lines e') (h' : Rewritten e' lines' e'') :
    Rewritten e lines' e'' := by
  obtain ⟨changes, rfl⟩ := h
  obtain ⟨changes', rfl⟩ := h'
  exact ⟨changes ++ changes', by rw [List.append_assoc]⟩

theorem lines_eq (h : Rewritten e lines e') : e'.lines = lines := by
  obtain ⟨_, rfl⟩ := h
  rfl

/-- To write lines leaves the cursor where it is. -/
theorem cursor_eq (h : Rewritten e lines e') : e'.cursor = e.cursor := by
  obtain ⟨_, rfl⟩ := h
  rfl

theorem refused_eq (h : Rewritten e lines e') : e'.refused = e.refused := by
  obtain ⟨_, rfl⟩ := h
  rfl

theorem rejected_eq (h : Rewritten e lines e') : e'.rejected = e.rejected := by
  obtain ⟨_, rfl⟩ := h
  rfl

theorem transactions_eq (h : Rewritten e lines e') : e'.transactions = e.transactions := by
  obtain ⟨_, rfl⟩ := h
  rfl

end Rewritten

/-- The edit gives the document these lines and changes nothing else but the log, unless the editor
refuses one of its operations. -/
def Writes (x : Edit Unit) (e : Editor) (lines : List Text) : Prop := Ends x e (Rewritten e lines)

namespace Writes

variable {x y : Edit Unit} {e e' : Editor} {lines lines' : List Text}

/-- Where nothing is refused, the lines are written. -/
theorem ok (h : Writes x e lines) (hr : e.refused = none) :
    ∃ e', x e = .ok () e' ∧ Rewritten e lines e' := by
  obtain ⟨e', hok, -, hwrite⟩ := Ends.ok h hr
  exact ⟨e', hok, hwrite⟩

/-- An operation writes lines unless it is refused. -/
theorem of_ite {operation : Operation}
    (hx : x e = if e.refused = some operation then .error .readOnly e else .ok () e')
    (hwrite : Rewritten e lines e') : Writes x e lines := Ends.of_ite hx hwrite.refused_eq hwrite

/-- What is written last stays. -/
theorem bind (hx : Writes x e lines)
    (hy : ∀ e', Rewritten e lines e' → Writes y e' lines') :
    Writes (x >>= fun _ => y) e lines' :=
  Ends.bind hx fun e' hwrite => (hy e' hwrite).imp fun _ => hwrite.trans

end Writes

/-! ## Replaying on a block -/

section Block

variable {e : Editor} {above below : List Text}

/-- An edit within a block of the document is made. -/
theorem replayEdit_writes {block block' : List Text} (he : e.lines = above ++ block ++ below)
    {edit : LineEdit} (hedit : edit.outcome? block = some block') :
    Writes (replayEdit above.length edit) e (above ++ block' ++ below) := by
  cases edit with
  | insert row line =>
    rw [LineEdit.outcome?, Option.ite_none_right_eq_some] at hedit
    obtain ⟨⟨hrow, hlen⟩, hblock⟩ := hedit
    obtain ⟨k, rfl⟩ := Int.eq_ofNat_of_zero_le hrow
    have hins := Signed.insert_middle above block below (Int.ofNat_le.mp hlen) line
    rw [← he, Int.natCast_add] at hins
    refine .of_ite (insertLine_eq e _ line) ?_
    rw [hins, ← Option.some.inj hblock]
    exact Rewritten.one e _ _
  | delete row =>
    rw [LineEdit.outcome?, Option.ite_none_right_eq_some] at hedit
    obtain ⟨⟨hrow, hlen⟩, hblock⟩ := hedit
    obtain ⟨k, rfl⟩ := Int.eq_ofNat_of_zero_le hrow
    have hdel := Signed.erase?_middle above block below (Int.ofNat_lt.mp hlen)
    rw [← he, Int.natCast_add] at hdel
    refine .of_ite (deleteLine_eq e hdel) ?_
    rw [← Option.some.inj hblock]
    exact Rewritten.one e _ _
  | replace row lines =>
    rw [LineEdit.outcome?, Option.ite_none_right_eq_some] at hedit
    obtain ⟨⟨hrow, hlen⟩, hblock⟩ := hedit
    obtain ⟨k, rfl⟩ := Int.eq_ofNat_of_zero_le hrow
    have hrep := Signed.replaceRange_middle above block below
      (by omega : k + lines.length ≤ _) lines
    refine .of_ite (replaceLines_eq e _ _ lines) ?_
    rw [Int.add_assoc, ← Int.natCast_add, ← Int.natCast_add, ← Int.natCast_add, he, hrep,
      ← Option.some.inj hblock]
    exact Rewritten.one e _ _

/-- A script does to the document what it does to a block of it. -/
theorem replay_writes {block' : List Text} {script : Script} :
    ∀ {e : Editor} {block : List Text}, e.lines = above ++ block ++ below →
      Script.outcome? block script = some block' →
        Writes (replay above.length script) e (above ++ block' ++ below) := by
  -- by induction on the script; after each edit another block is between the same lines
  induction script with
  | nil =>
    intro e block he hs
    obtain rfl : block = block' := Option.some.inj hs
    refine Or.inl ⟨e, rfl, rfl, ?_⟩
    rw [← he]
    exact Rewritten.refl e
  | cons edit script ih =>
    intro e block he hs
    rw [Script.outcome?_cons, Option.bind_eq_some_iff] at hs
    obtain ⟨middle, hedit, hscript⟩ := hs
    exact (replayEdit_writes he hedit).bind fun e₁ hwrite => ih hwrite.lines_eq hscript

/-! ## Exchanging a block -/

/-- A block is replaced whole. -/
theorem replaceLines_block {old : List Text} (he : e.lines = above ++ old ++ below)
    (new : List Text) :
    replaceLines above.length (above.length + old.length) new e =
      if e.refused = some .replaceLines then .error .readOnly e
      else .ok () { e with
        lines := above ++ new ++ below
        log := e.log ++ [.replace above.length (above.length + old.length) new] } := by
  have hrep := Signed.replaceRange_middle above old below (Nat.le_of_eq (Nat.zero_add _)) new
  rw [← he, Nat.zero_add, Nat.add_zero, List.take_zero, List.drop_length, List.nil_append,
    List.append_nil, Int.natCast_add] at hrep
  rw [replaceLines_eq, hrep]

/-- A block is exchanged for other lines, whether edit by edit or whole. -/
theorem exchange_writes {old : List Text} (he : e.lines = above ++ old ++ below)
    (new : List Text) : Writes (exchange above.length old new) e (above ++ new ++ below) := by
  cases hs : Script.shortest? old new exchangeLimit with
  | some script =>
    simp only [exchange, hs]
    exact replay_writes he (Script.outcome?_shortest? hs)
  | none =>
    simp only [exchange, hs]
    exact .of_ite (replaceLines_block he new) (Rewritten.one e _ _)

/-- An editor that refuses nothing exchanges a block. -/
theorem exchange_ok (h : e.refused = none) {old : List Text} (he : e.lines = above ++ old ++ below)
    (new : List Text) :
    ∃ e', exchange above.length old new e = .ok () e' ∧
      Rewritten e (above ++ new ++ below) e' := (exchange_writes he new).ok h

/-- Nothing is done to exchange a block for itself. -/
@[simp] theorem exchange_self (first : Int) (lines : List Text) (e : Editor) :
    exchange first lines lines e = .ok () e := by
  rw [exchange, Script.shortest?_self]
  rfl

end Block

/-! ## Shortest scripts -/

/-- A script that the search finds is replayed without a fault on the old block, wherever it stands
in a document, and leaves the new block there. When an edit is about to be made, the edits before it
have left a block that has all the rows the edit names. -/
theorem replay_shortest_script {old new above below : List Text} {most : Int} {script : Script}
    (hscript : Script.shortest? old new most = some script) {e : Editor} (h : e.refused = none)
    (he : e.lines = above ++ old ++ below) :
    (∃ e', replay above.length script e = .ok () e' ∧ e'.lines = above ++ new ++ below) ∧
      ∀ done edit rest, script = done ++ edit :: rest →
        ∃ block e', replay above.length done e = .ok () e' ∧
          e'.lines = above ++ block ++ below ∧ edit.Within block := by
  have hout := Script.outcome?_shortest? hscript
  constructor
  · obtain ⟨e', hrun, hwrite⟩ := (replay_writes he hout).ok h
    exact ⟨e', hrun, hwrite.lines_eq⟩
  · rintro done edit rest rfl
    rw [Script.outcome?_append, Option.bind_eq_some_iff] at hout
    obtain ⟨block, hdone, hrest⟩ := hout
    rw [Script.outcome?_cons, Option.bind_eq_some_iff] at hrest
    obtain ⟨block', hedit, -⟩ := hrest
    obtain ⟨e', hrun, hwrite⟩ := (replay_writes he hdone).ok h
    have hproper : edit.Proper := Script.proper_shortest? hscript edit
      (List.mem_append_right _ List.mem_cons_self)
    exact ⟨block, e', hrun, hwrite.lines_eq, LineEdit.within_of_outcome? hproper hedit⟩

/-- Two rows are replaced at once and one is deleted, between two lines that stay. -/
theorem replay_shortest_script_between :
    let e : Editor := { lines := [[], ['a'], ['b'], ['c'], ['d'], ['z']], cursor := ⟨0, 0⟩ }
    ∃ e', replay 1 [.replace 0 [['x'], ['y']], .delete 3] e = .ok () e' ∧
      e'.lines = [[], ['x'], ['y'], ['c'], ['z']] := by
  intro e
  have hscript : Script.shortest? [['a'], ['b'], ['c'], ['d']] [['x'], ['y'], ['c']] 3 =
      some [.replace 0 [['x'], ['y']], .delete 3] := by decide
  have h : e.refused = none := rfl
  have he : e.lines = [[]] ++ [['a'], ['b'], ['c'], ['d']] ++ [['z']] := rfl
  exact (replay_shortest_script hscript h he).1

end TextTable.Editor
