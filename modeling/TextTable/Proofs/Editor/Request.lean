import TextTable.Proofs.Editor.SmartCursor
import TextTable.Proofs.Editor.Timeless

/-!
# Requests that fail

A *request* is all that a user can ask for: a command on the table under the cursor, an alignment by
its name, or the layout of all tables. A request that fails has changed nothing in the editor but
the count of transactions, and at most ended the session (`runOn_error`); the session would have
ended for the same reason had the request been repeated (`sessionFor_sessionFor`). So a user who
repeats the request once the editor refuses nothing any more gets what the request would have given
right away: each kind of request is `Repeatable`, and `repeatable_request` collects them.
-/

namespace TextTable

/-- What a user can ask for. -/
inductive Request
  /-- a command on the table under the cursor -/
  | command (c : Command)
  /-- to align the focused column as a name says -/
  | alignNamed (name : Text)
  /-- to lay out all tables -/
  | formatAll
deriving DecidableEq

instance decidableEqResult : DecidableEq (EStateM.Result Fault Workspace Unit)
  | .ok _ w, .ok _ w' =>
    decidable_of_iff (w = w') ⟨fun h => h ▸ rfl, fun h => (EStateM.Result.ok.inj h).2⟩
  | .error fault w, .error fault' w' =>
    decidable_of_iff (fault = fault' ∧ w = w') ⟨fun h => h.1 ▸ h.2 ▸ rfl, EStateM.Result.error.inj⟩
  | .ok _ _, .error _ _ => isFalse nofun
  | .error _ _, .ok _ _ => isFalse nofun

/-- Does what is asked for. -/
def Request.run (o : Options) : Request → EStateM Fault Workspace Unit
  | .command c => Workspace.run o c
  | .alignNamed name => Workspace.runAlignColumn o name
  | .formatAll => Workspace.formatAll o

namespace Workspace

open Editor (atCount Timeless)

/-! ## What a user sees -/

/-- The workspace whose editor refuses nothing. -/
def healed (w : Workspace) : Workspace := { w with editor := { w.editor with refused := none } }

/-- A user sees no difference between the workspaces: lines, cursor, selection, log and session are
the same. -/
structure Alike (w w' : Workspace) : Prop where
  lines : w.editor.lines = w'.editor.lines
  cursor : w.editor.cursor = w'.editor.cursor
  selection : w.editor.selection = w'.editor.selection
  log : w.editor.log = w'.editor.log
  session : w.session = w'.session

/-- Both results are of one kind, with the same fault if they have one, and a user sees no
difference between the workspaces. -/
def AlikeResult : (r r' : EStateM.Result Fault Workspace Unit) → Prop
  | .ok _ w, .ok _ w' => Alike w w'
  | .error fault w, .error fault' w' => fault = fault' ∧ Alike w w'
  | _, _ => False

theorem Alike.refl (w : Workspace) : Alike w w := ⟨rfl, rfl, rfl, rfl, rfl⟩

theorem AlikeResult.refl (r : EStateM.Result Fault Workspace Unit) : AlikeResult r r := by
  cases r with
  | ok _ w => exact Alike.refl w
  | error fault w => exact ⟨rfl, Alike.refl w⟩

/-- Two workspaces are alike if only their counts differ. -/
theorem alike_atCount (n : Nat) (e : Editor) (s : Option Session) :
    Alike ⟨e.atCount n, s⟩ ⟨e, s⟩ := ⟨rfl, rfl, rfl, rfl, rfl⟩

/-! ## Commands -/

section Commands

variable {o : Options}

/-- The session that a command works with. -/
def sessionFor (c : Command) (b : Block) (s : Option Session) : Option Session :=
  if c.checksSession then Session.check s b.start b.focus else s

/-- A session that was found to be over is not found otherwise when it is looked at again. -/
@[simp] theorem sessionFor_sessionFor (c : Command) (b : Block) (s : Option Session) :
    sessionFor c b (sessionFor c b s) = sessionFor c b s := by
  rw [sessionFor, sessionFor]
  split
  · exact Session.check_check s b.start b.focus
  · rfl

/-- A session goes on or is over. -/
theorem sessionFor_eq_or (c : Command) (b : Block) (s : Option Session) :
    sessionFor c b s = s ∨ sessionFor c b s = none := by
  rw [sessionFor]
  split
  · exact Session.check_eq_or s b.start b.focus
  · exact Or.inl rfl

/-- A command on a table that fails leaves the count of transactions and the session it worked
with. -/
theorem runOn_error {c : Command} {b : Block} {w w' : Workspace} {fault : Fault}
    (h : runOn o c b w = .error fault w') :
    ∃ n, w' = ⟨w.editor.atCount n, sessionFor c b w.session⟩ := by
  simp only [runOn] at h
  split at h
  · obtain ⟨-, rfl⟩ := EStateM.Result.error.inj h
    exact ⟨w.editor.transactions, rfl⟩
  · split at h
    · next htransact =>
      obtain ⟨-, rfl⟩ := EStateM.Result.error.inj h
      exact ⟨_, by rw [Editor.transact_error htransact]; rfl⟩
    · cases h

/-- Neither the count of transactions nor a check that the command makes anyway matters to it. -/
theorem alike_runOn (c : Command) (b : Block) (n : Nat) (e : Editor) (s : Option Session) :
    AlikeResult (runOn o c b ⟨e.atCount n, sessionFor c b s⟩) (runOn o c b ⟨e, s⟩) := by
  have hsession : (if c.checksSession then Session.check (sessionFor c b s) b.start b.focus
      else sessionFor c b s) = if c.checksSession then Session.check s b.start b.focus else s :=
    sessionFor_sessionFor c b s
  simp only [runOn, hsession]
  -- from here on, the plan is made from the same table, focus and session
  split
  · exact ⟨rfl, alike_atCount n e _⟩
  · next p _ =>
    rw [Editor.transact_atCount (Editor.timeless_carryOut p o b)]
    cases Editor.transact (p.carryOut o b) e with
    | ok _ e' => exact alike_atCount _ e' _
    | error fault e' => exact ⟨rfl, alike_atCount _ e' _⟩

end Commands

/-! ## Repeating what failed -/

/-- What fails has changed nothing but the count of transactions, and at most ended the session; and
once nothing is refused any more, it can be repeated as if it had not failed. -/
def Repeatable (x : EStateM Fault Workspace Unit) : Prop :=
  ∀ w fault w', x w = .error fault w' →
    (∃ n s, w' = ⟨w.editor.atCount n, s⟩ ∧ (s = w.session ∨ s = none)) ∧
      AlikeResult (x w'.healed) (x w.healed)

/-- What fails without a trace can be repeated. -/
theorem repeatable_unchanged {x : EStateM Fault Workspace Unit} {w w' : Workspace} (h : w' = w) :
    (∃ n s, w' = ⟨w.editor.atCount n, s⟩ ∧ (s = w.session ∨ s = none)) ∧
      AlikeResult (x w'.healed) (x w.healed) := by
  subst h
  exact ⟨⟨w'.editor.transactions, w'.session, rfl, Or.inl rfl⟩, AlikeResult.refl _⟩

/-- A command fails in its transaction, which is undone, or before it. -/
theorem repeatable_run (o : Options) (c : Command) : Repeatable (run o c) := by
  intro w fault w' h
  have hhealed : ∀ n s, (Workspace.mk (w.editor.atCount n) s).healed.editor.block? o.margin =
      w.healed.editor.block? o.margin := fun n _ =>
    Editor.block?_atCount o.margin n w.healed.editor
  cases hb : w.healed.editor.block? o.margin with
  | error fault' =>
    rw [run, show w.editor.block? o.margin = _ from hb] at h
    exact repeatable_unchanged (EStateM.Result.error.inj h).2.symm
  | ok found =>
    rw [run, show w.editor.block? o.margin = _ from hb] at h
    cases found with
    | none => cases h
    | some b =>
      obtain ⟨n, rfl⟩ := runOn_error h
      refine ⟨⟨n, _, rfl, sessionFor_eq_or c b w.session⟩, ?_⟩
      rw [run, run, hhealed, hb]
      exact alike_runOn c b n w.healed.editor w.session

/-- A name that is not known fails where nothing has changed yet, or asks for the layout alone. -/
theorem repeatable_runAlignColumn (o : Options) (name : Text) :
    Repeatable (runAlignColumn o name) := by
  intro w fault w' h
  cases hname : Alignment.ofName name with
  | ok a =>
    have hrun : runAlignColumn o name = run o (.alignColumn a) := by
      funext w
      rw [runAlignColumn, hname]
    rw [hrun] at h ⊢
    exact repeatable_run o _ w fault w' h
  | error fault' =>
    -- the alignment is refused, or the table is laid out, by what stands under the cursor alone
    have hcases : (∀ u : Workspace, u.editor.block? o.margin = w.editor.block? o.margin →
          runAlignColumn o name u = .error fault' u) ∨
        ∀ u : Workspace, u.editor.block? o.margin = w.editor.block? o.margin →
          runAlignColumn o name u = run o .format u := by
      simp only [runAlignColumn, hname]
      rcases w.editor.block? o.margin with _ | _ | b
      · exact Or.inr fun u hu => by rw [hu]
      · exact Or.inr fun u hu => by rw [hu]
      · by_cases hin : Command.inHeader b.table b.focus.column = true
        · exact Or.inl fun u hu => by rw [hu]; exact if_pos hin
        · exact Or.inr fun u hu => by rw [hu]; exact if_neg hin
    rcases hcases with hrefuse | hlayout
    · rw [hrefuse w rfl] at h
      exact repeatable_unchanged (EStateM.Result.error.inj h).2.symm
    · rw [hlayout w rfl] at h
      obtain ⟨⟨n, s, rfl, hs⟩, halike⟩ := repeatable_run o .format w fault w' h
      refine ⟨⟨n, s, rfl, hs⟩, ?_⟩
      rwa [hlayout (healed ⟨w.editor.atCount n, s⟩) rfl, hlayout w.healed rfl]

/-- The layout of all tables is one transaction too. -/
theorem repeatable_formatAll (o : Options) : Repeatable (formatAll o) := by
  intro w fault w' h
  simp only [formatAll] at h
  split at h
  · next htransact =>
    obtain ⟨-, rfl⟩ := EStateM.Result.error.inj h
    rw [Editor.transact_error htransact]
    refine ⟨⟨_, _, rfl, Or.inl rfl⟩, ?_⟩
    have hretry := Editor.transact_atCount (Editor.timeless_sweep o) (w.editor.transactions + 1)
      w.healed.editor
    have hhealed :
        (healed { w with editor := w.editor.atCount (w.editor.transactions + 1) }).editor =
          w.healed.editor.atCount (w.editor.transactions + 1) := rfl
    simp only [formatAll, hhealed, hretry]
    cases Editor.transact (Editor.sweep o) w.healed.editor with
    | ok _ e' => exact alike_atCount _ e' _
    | error fault e' => exact ⟨rfl, alike_atCount _ e' _⟩
  · cases h

/-- To align a column by the name of an alignment is to align it so. -/
theorem run_alignNamed (o : Options) {name : Text} {a : Alignment}
    (h : Alignment.ofName? name = some a) :
    (Request.alignNamed name).run o = run o (.alignColumn a) := by
  funext w
  simp only [Request.run, runAlignColumn, Alignment.ofName, h]

/-- A name that is known asks for a command. -/
theorem exists_alignColumn (o : Options) {name : Text}
    (h : (Alignment.ofName? name).isSome = true) :
    ∃ a, (Request.alignNamed name).run o = run o (.alignColumn a) := by
  obtain ⟨a, ha⟩ := Option.isSome_iff_exists.mp h
  exact ⟨a, run_alignNamed o ha⟩

theorem repeatable_request (o : Options) (r : Request) : Repeatable (r.run o) := by
  cases r with
  | command c => exact repeatable_run o c
  | alignNamed name => exact repeatable_runAlignColumn o name
  | formatAll => exact repeatable_formatAll o

/-- Whatever the editor refuses, or whatever else is wrong: a request that fails leaves the lines,
the cursor, the selection and the log as they were, and the session too unless it has ended; and
repeated on the healed editor, it does all that it would have done there without the failure. -/
theorem failed_request_repeats (o : Options) (r : Request) {w w' : Workspace} {fault : Fault}
    (h : r.run o w = .error fault w') :
    w'.editor.lines = w.editor.lines ∧ w'.editor.cursor = w.editor.cursor ∧
      w'.editor.selection = w.editor.selection ∧ w'.editor.log = w.editor.log ∧
      (w'.session = w.session ∨ w'.session = none) ∧
      AlikeResult (r.run o w'.healed) (r.run o w.healed) := by
  obtain ⟨⟨n, s, rfl, hs⟩, halike⟩ := repeatable_request o r w fault w' h
  exact ⟨rfl, rfl, rfl, rfl, hs, halike⟩

/-- The cursor cannot be put into the cell that was to be reached, after two lines were written. -/
theorem failed_request_repeats_next_cell :
    ∃ w', (Request.command .nextCell).run { formatType := .weak }
        ⟨{ lines := ["|a".toList], cursor := ⟨0, 1⟩, refused := some .setCursor }, none⟩ =
          .error .readOnly w' ∧
      w'.editor.lines = ["|a".toList] ∧ w'.editor.log = [] ∧
      AlikeResult ((Request.command .nextCell).run { formatType := .weak } w'.healed)
        ((Request.command .nextCell).run { formatType := .weak }
          ⟨{ lines := ["|a".toList], cursor := ⟨0, 1⟩ }, none⟩) := by
  have h : (Request.command .nextCell).run { formatType := .weak }
      ⟨{ lines := ["|a".toList], cursor := ⟨0, 1⟩, refused := some .setCursor }, none⟩ =
        .error .readOnly ⟨{ lines := ["|a".toList], cursor := ⟨0, 1⟩
                            refused := some .setCursor, transactions := 1 }, none⟩ := by
    decide
  have hrepeats := failed_request_repeats { formatType := .weak } (.command .nextCell) h
  refine ⟨_, h, hrepeats.1, hrepeats.2.2.2.1, ?_⟩
  obtain ⟨-, -, -, -, -, halike⟩ := hrepeats
  exact halike

end Workspace

end TextTable
