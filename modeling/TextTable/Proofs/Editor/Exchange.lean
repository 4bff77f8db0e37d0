import TextTable.Proofs.Editor.Replay
import TextTable.Proofs.Script.Distance

/-!
# Two ways to exchange a block

A block is exchanged by single edits as long as few are needed, and replaced whole otherwise. What
is left is the same (`exchange_near`, `exchange_far`), and the log tells the ways apart: a replayed
script logs one modification for each of its edits (`replay_log`), so a short way logs as many
operations on lines as the distance of the blocks is, and none at all if the blocks are equal.
-/

namespace TextTable

/-- The modification that an edit makes of the block that begins on the row `base`. -/
def LineEdit.change (base : Int) : LineEdit → Change
  | .insert row line => .insert (base + row) line
  | .delete row => .delete (base + row)
  | .replace row lines => .replace (base + row) (base + row + lines.length) lines

/-- The number of operations on single lines that a modification stands for. Of two numbers of lines
that are exchanged, the smaller one is replaced, and the rest is taken out or put in. -/
def Change.operations : Change → Nat
  | .insert _ _ => 1
  | .delete _ => 1
  | .replace start stop lines => max (stop - start).toNat lines.length

/-- The number of operations on single lines that modifications stand for together. -/
def operationsIn : List Change → Nat
  | [] => 0
  | change :: changes => change.operations + operationsIn changes

/-- The modification that is logged for an edit counts as many operations as the edit. -/
@[simp] theorem LineEdit.operations_change (base : Int) (edit : LineEdit) :
    (edit.change base).operations = edit.distance := by
  cases edit with
  | insert row line => rfl
  | delete row => rfl
  | replace row lines =>
    rw [change, Change.operations, distance]
    omega

/-- So does the log of a script. -/
@[simp] theorem Script.operationsIn_changes (base : Int) (script : Script) :
    operationsIn (script.map (LineEdit.change base)) = script.distance := by
  induction script with
  | nil => rfl
  | cons edit script ih =>
    simp [operationsIn, ih, distance]

namespace Editor

variable {e e' : Editor}

/-! ## What is logged -/

/-- An edit that is made logs its modification. -/
theorem replayEdit_log {base : Int} {edit : LineEdit} (h : replayEdit base edit e = .ok () e') :
    e'.log = e.log ++ [edit.change base] := by
  cases edit with
  | insert row line =>
    rw [replayEdit, insertLine_eq] at h
    rw [eq_of_ite_ok h]
    rfl
  | delete row =>
    rw [replayEdit] at h
    cases hrow : Signed.erase? e.lines (base + row) with
    | none =>
      rw [deleteLine_missing e hrow] at h
      split at h <;> cases h
    | some lines =>
      rw [deleteLine_eq e hrow] at h
      rw [eq_of_ite_ok h]
      rfl
  | replace row lines =>
    rw [replayEdit, replaceLines_eq] at h
    rw [eq_of_ite_ok h]
    rfl

/-- A script that is replayed logs the modifications of its edits. -/
theorem replay_log {base : Int} {script : Script} :
    ∀ {e : Editor}, replay base script e = .ok () e' →
      e'.log = e.log ++ script.map (LineEdit.change base) := by
  induction script with
  | nil =>
    intro e h
    obtain ⟨-, rfl⟩ := EStateM.Result.ok.inj h
    exact (List.append_nil _).symm
  | cons edit script ih =>
    intro e h
    obtain ⟨_, e₁, hedit, hrest⟩ := bind_eq_ok.mp h
    rw [ih hrest, replayEdit_log hedit, List.map_cons, List.append_assoc, List.singleton_append]

/-! ## Both ways -/

section Block

variable {old above below : List Text}

/-- Near blocks are exchanged by as many operations on lines as their distance is; there are none if
and only if the blocks are equal. -/
theorem exchange_near (h : e.refused = none) (he : e.lines = above ++ old ++ below)
    {new : List Text} (hnear : Script.levenshtein old new ≤ 3) :
    ∃ changes, exchange above.length old new e =
        .ok () { e with lines := above ++ new ++ below, log := e.log ++ changes } ∧
      (changes = [] ↔ old = new) ∧
      operationsIn changes = Script.levenshtein old new := by
  have hlimit : (Script.levenshtein old new : Int) ≤ exchangeLimit := Int.ofNat_le.mpr hnear
  have hscript : Script.shortest? old new exchangeLimit = some (Script.shortest old new) := by
    rw [Script.shortest?_eq, if_pos (Or.inr hlimit)]
  obtain ⟨e', hrun, changes, rfl⟩ := exchange_ok h he new
  have hlog := hrun
  rw [exchange, hscript] at hlog
  obtain rfl := List.append_cancel_left (replay_log hlog)
  refine ⟨_, hrun, ?_, ?_⟩
  · rw [List.map_eq_nil_iff]
    constructor
    · intro hnil
      have hout := Script.outcome?_shortest? hscript
      rw [hnil] at hout
      exact Option.some.inj hout
    · rintro rfl
      rw [Script.shortest?_self] at hscript
      exact (Option.some.inj hscript).symm
  · simp

/-- Blocks that are further apart are exchanged by one replacement. -/
theorem exchange_far (h : e.refused = none) (he : e.lines = above ++ old ++ below)
    {new : List Text} (hfar : 3 < Script.levenshtein old new) :
    exchange above.length old new e = .ok () { e with
      lines := above ++ new ++ below
      log := e.log ++ [.replace above.length (above.length + old.length) new] } := by
  have hscript : Script.shortest? old new exchangeLimit = none := by
    rw [Script.shortest?_eq, if_neg]
    rw [exchangeLimit]
    omega
  rw [exchange, hscript]
  simp only [replaceLines_block he, if_neg (not_refused h _)]

end Block

/-- A block of the document is exchanged for other lines as if it were replaced whole, but for the
log. Nothing is logged if and only if the lines are equal. Up to a distance of three lines, as many
operations on lines are logged as the distance is; beyond it, the block is replaced whole. -/
theorem exchange_agrees {e : Editor} (h : e.refused = none) {start stop : Nat}
    (hle : start ≤ stop) (hstop : stop ≤ e.lines.length) (new : List Text) :
    let old := (e.lines.take stop).drop start
    ∃ whole changes, replaceLines start stop new e = .ok () whole ∧
      exchange start old new e = .ok () { whole with log := e.log ++ changes } ∧
      (changes = [] ↔ old = new) ∧
      (Script.levenshtein old new ≤ 3 →
        operationsIn changes = Script.levenshtein old new) ∧
      (3 < Script.levenshtein old new → changes = [.replace start stop new]) := by
  intro old
  have habove : (e.lines.take start).length = start := by
    rw [List.length_take]
    omega
  have hlen : (start : Int) + old.length = stop := by
    rw [List.length_drop, List.length_take]
    omega
  have he : e.lines = e.lines.take start ++ old ++ e.lines.drop stop := by
    have hfront := List.take_append_drop start (e.lines.take stop)
    rw [List.take_take, Nat.min_eq_left hle] at hfront
    rw [hfront, List.take_append_drop]
  have hwhole := replaceLines_block he new
  rw [habove, hlen, if_neg (not_refused h _)] at hwhole
  by_cases hnear : Script.levenshtein old new ≤ 3
  · obtain ⟨changes, hexchange, hnil, hsum⟩ := exchange_near h he hnear
    rw [habove] at hexchange
    exact ⟨_, changes, hwhole, hexchange, hnil, fun _ => hsum, fun hfar => by omega⟩
  · have hexchange := exchange_far h he (Nat.lt_of_not_le hnear)
    rw [habove, hlen] at hexchange
    refine ⟨_, _, hwhole, hexchange, ?_, fun hle => absurd hle hnear, fun _ => rfl⟩
    refine iff_of_false (List.cons_ne_nil _ _) fun heq => hnear ?_
    rw [heq, Script.levenshtein_self]
    exact Nat.zero_le _

/-- Of three lines, one is taken out, one is replaced, and one stays. -/
theorem exchange_agrees_between :
    let e : Editor := { lines := [[], ['a'], ['b'], ['c'], ['z']], cursor := ⟨0, 0⟩ }
    ∃ whole changes, replaceLines 1 4 [['x'], ['c']] e = .ok () whole ∧
      exchange 1 [['a'], ['b'], ['c']] [['x'], ['c']] e = .ok () { whole with log := changes } ∧
      changes ≠ [] ∧ operationsIn changes = 2 := by
  intro e
  have hnear : Script.levenshtein [['a'], ['b'], ['c']] [['x'], ['c']] = 2 := by
    simp [Script.levenshtein]
  obtain ⟨whole, changes, hwhole, hexchange, hnil, hsum, -⟩ :=
    exchange_agrees (e := e) rfl (by decide : 1 ≤ 4) (by decide) [['x'], ['c']]
  refine ⟨whole, changes, hwhole, hexchange, fun h => ?_, ?_⟩
  · exact absurd (hnil.mp h) (by decide)
  · exact (hsum (Nat.le_trans (Nat.le_of_eq hnear) (by decide))).trans hnear

end Editor

end TextTable
