import TextTable.Proofs.Editor.CarryOut
import TextTable.Proofs.Editor.Request
import TextTable.Proofs.Editor.Runs

/-!
# What commands leave alone

A command that succeeds has either found no table and done nothing at all, or it has exchanged the
lines of the table under the cursor for those of a laid out table, in one transaction (`run_frame`).
All lines around the table stay; this holds whatever the rows are that the editor rejects, whatever
it refuses, and whatever may stand in a margin. Whether the cursor leaves the table, and what
becomes of the session, can be told by the command alone (`Plan.Of`, `plan_of`).
-/

namespace TextTable

/-- Only a landing below the table has no focus in it. -/
theorem Landing.exists_focus {l : Landing} (h : l ≠ .below) (formatted : Table) :
    ∃ f, l.focus? formatted = some f := by
  cases l with
  | cell f basis moved selected => exact ⟨_, rfl⟩
  | below => exact absurd rfl h

/-- The command ends the session. -/
def Command.endsSession : Command → Bool
  | .moveFocus _ _ | .nextCell | .previousCell | .nextRow => false
  | _ => true

/-- What can be told of a plan by its command alone: only the escape sends the cursor below the
table, and what becomes of the session. -/
structure Plan.Of (o : Options) (c : Command) (p : Plan) : Prop where
  landing : c ≠ .escape → p.landing ≠ .below
  records : c.checksSession = true → p.memory = Command.recordIf o
  forgets : c.endsSession = true → p.memory = .forget

section Of

variable {o : Options} {c : Command} {p : Plan}

/-- No command looks at the session and ends it. -/
theorem Command.not_checks_of_ends (h : c.endsSession = true) : c.checksSession = false := by
  cases c with
  | nextCell | nextRow => cases h
  | _ => rfl

/-- A plan that forgets the session. -/
theorem Plan.Of.of_ends (hc : c.endsSession = true) (hcell : p.landing ≠ .below)
    (hmemory : p.memory = .forget) : p.Of o c :=
  ⟨fun _ => hcell, fun h => absurd h (by simp [Command.not_checks_of_ends hc]), fun _ => hmemory⟩

/-- A plan that goes on with the session. -/
theorem Plan.Of.of_checks (hc : c.checksSession = true) (hcell : p.landing ≠ .below)
    (hmemory : p.memory = Command.recordIf o) : p.Of o c :=
  ⟨fun _ => hcell, fun _ => hmemory, fun h => absurd hc (by simp [Command.not_checks_of_ends h])⟩

end Of

namespace Command

/-! ## Plans -/

/-- The command lays out the table as it is. -/
def laysOut : Command → Bool
  | .format | .escape | .selectCell | .moveFocus _ _ | .previousCell => true
  | _ => false

variable {o : Options} {s : Option Session} {t : Table} {f : Focus} {c : Command} {p : Plan}

/-- A command that lays out the table plans no change of it. -/
theorem plan_table (hc : c.laysOut = true) (h : c.plan o s t f = .ok p) : p.table = t := by
  cases c with
  | format | escape | selectCell | moveFocus _ _ | previousCell =>
    obtain rfl := Except.ok.inj h
    rfl
  | _ => cases hc

/-- A plan that is made for an altered table is one of the plans that are made for any. -/
theorem plan_of_map {P : Plan → Prop} {x : Except Fault Table} {plan : Table → Plan}
    (h : x.map plan = .ok p) (hplan : ∀ u, P (plan u)) : P p := by
  cases x with
  | error fault => cases h
  | ok u =>
    obtain rfl := Except.ok.inj h
    exact hplan u

/-- The plan of any command is one of that command. -/
theorem plan_of (h : c.plan o s t f = .ok p) : p.Of o c := by
  have hcell : ∀ {f basis moved selected}, Landing.cell f basis moved selected ≠ .below := by
    simp
  cases c with
  | format | alignColumn _ | selectCell | insertRow =>
    obtain rfl := Except.ok.inj h
    exact .of_ends rfl hcell rfl
  | escape =>
    obtain rfl := Except.ok.inj h
    exact ⟨fun hne => absurd rfl hne, fun hc => (by cases hc), fun _ => rfl⟩
  | moveFocus _ _ | previousCell =>
    obtain rfl := Except.ok.inj h
    exact ⟨fun _ => hcell, fun hc => (by cases hc), fun hc => (by cases hc)⟩
  | nextRow =>
    obtain rfl := Except.ok.inj h
    exact .of_checks rfl hcell rfl
  | nextCell =>
    simp only [plan, planNextCell] at h
    split at h
    · obtain rfl := Except.ok.inj h
      exact .of_checks rfl hcell rfl
    · exact plan_of_map h fun _ => .of_checks rfl hcell rfl
  | deleteRow =>
    simp only [plan, planDeleteRow] at h
    split at h
    · exact plan_of_map h fun _ => .of_ends rfl hcell rfl
    · obtain rfl := Except.ok.inj h
      exact .of_ends rfl hcell rfl
  | moveRow rows =>
    simp only [plan, planMoveRow] at h
    split at h
    · exact plan_of_map h fun _ => .of_ends rfl hcell rfl
    · obtain rfl := Except.ok.inj h
      exact .of_ends rfl hcell rfl
  | insertColumn => exact plan_of_map h fun _ => .of_ends rfl hcell rfl
  | deleteColumn =>
    simp only [plan, planDeleteColumn] at h
    split at h
    · exact plan_of_map h fun _ => .of_ends rfl hcell rfl
    · obtain rfl := Except.ok.inj h
      exact .of_ends rfl hcell rfl
  | moveColumn columns =>
    simp only [plan, planMoveColumn] at h
    split at h
    · exact plan_of_map h fun _ => .of_ends rfl hcell rfl
    · obtain rfl := Except.ok.inj h
      exact .of_ends rfl hcell rfl

end Command

namespace Workspace

variable {o : Options} {w w' : Workspace}

/-! ## Commands -/

/-- A command that succeeds on a table has made a plan and carried it out, and the session is what
the plan makes of it. -/
theorem runOn_ok {c : Command} {b : Block} (h : runOn o c b w = .ok () w') :
    ∃ p, c.plan o (sessionFor c b w.session) (b.table.complete o.toStyle)
        (b.focus.completed b.table) = .ok p ∧
      p.carryOut o b { w.editor with transactions := w.editor.transactions + 1 } =
        .ok () w'.editor ∧
      w'.session =
        p.remember o b (b.focus.completed b.table) (sessionFor c b w.session) := by
  simp only [runOn] at h
  split at h
  · cases h
  · next p hplan =>
    split at h
    · cases h
    · next htransact =>
      obtain ⟨-, rfl⟩ := EStateM.Result.ok.inj h
      exact ⟨p, hplan, Editor.transact_eq_ok.mp htransact, rfl⟩

/-- A command on a table writes a laid out table between the lines that are around it. -/
theorem run_frame {c : Command} {above block below : List Text}
    (harea : w.editor.Around o.margin above block below) (h : run o c w = .ok () w') :
    w'.editor.transactions = w.editor.transactions + 1 ∧
      ∃ t : Table, w'.editor.lines = above ++ (t.format o.toStyle).lines ++ below ++
          (if c = .escape ∧ below = [] then [[]] else []) ∧
        (c.laysOut = true → t = (Table.ofLines o.margin block).complete o.toStyle) := by
  obtain ⟨f, -, hblock⟩ := harea.block?_eq
  rw [run, hblock] at h
  obtain ⟨p, hplan, hcarry, -⟩ := runOn_ok h
  by_cases hc : c = .escape
  · subst hc
    obtain rfl := Except.ok.inj hplan
    have hheight : (((Table.ofLines o.margin block).complete o.toStyle).format o.toStyle).height =
        block.length + if (Table.ofLines o.margin block).lacksDelimiter then 1 else 0 :=
      (Table.height_format _ _).trans (Table.height_complete_ofLines _ _ harea.ne_nil)
    have hplaced := Editor.Ends.of_ok hcarry (Editor.carryOut_below o _ rfl hheight rfl harea.lines)
    refine ⟨hplaced.transactions, _, ?_, fun _ => rfl⟩
    simp only [true_and]
    exact hplaced.lines
  · obtain ⟨g, hg⟩ := Landing.exists_focus ((Command.plan_of hplan).landing hc) (p.written o)
    have hplaced := Editor.Ends.of_ok hcarry (Editor.carryOut_cell o p hg rfl harea.lines)
    refine ⟨hplaced.transactions, p.table, ?_, fun hlays => Command.plan_table hlays hplan⟩
    rw [if_neg fun hescape => hc hescape.1, List.append_nil]
    exact hplaced.lines

/-! ## Requests -/

/-- A request about one table that succeeds runs a command. -/
theorem exists_command {r : Request} (hr : r ≠ .formatAll) (h : r.run o w = .ok () w') :
    ∃ c, run o c w = .ok () w' ∧ (c = .escape ↔ r = .command .escape) ∧
      ∀ c', r = .command c' → c = c' := by
  cases r with
  | command c => exact ⟨c, h, by simp, fun c' hc => Request.command.inj hc⟩
  | alignNamed name =>
    have hnamed : ∀ (c c' : Command), Request.alignNamed name = .command c' → c = c' :=
      fun _ _ heq => by cases heq
    simp only [Request.run, runAlignColumn] at h
    split at h
    · exact ⟨_, h, by simp, hnamed _⟩
    · split at h
      · split at h
        · cases h
        · exact ⟨_, h, by simp, hnamed _⟩
      · exact ⟨_, h, by simp, hnamed _⟩
  | formatAll => exact absurd rfl hr

/-- A request about one table that succeeds, with the cursor on a row of the document. Off the
tables it changes nothing at all. In a table it begins one transaction, and exchanges the lines of
the table for those of a laid out table; all other lines stay, and only an escape from the end of
the document adds an empty line behind them. A command that makes no change of its own writes the
layout of the table as it was read and completed, wherever the cursor is. -/
theorem request_frame (o : Options) {r : Request} (hr : r ≠ .formatAll) {w w' : Workspace}
    (hlow : 0 ≤ w.editor.cursor.row) (hhigh : w.editor.cursor.row < w.editor.lines.length)
    (h : r.run o w = .ok () w') :
    (w.editor.cursorInTable o.margin = .ok false ∧ w' = w) ∨
      (w.editor.cursorInTable o.margin = .ok true ∧
        w'.editor.transactions = w.editor.transactions + 1 ∧
        ∃ above block below t, w.editor.Around o.margin above block below ∧
          w'.editor.lines = above ++ (Table.format o.toStyle t).lines ++ below ++
            (if r = .command .escape ∧ below = [] then [[]] else []) ∧
          ∀ c, r = .command c → c.laysOut = true →
            t = (Table.ofLines o.margin block).complete o.toStyle) := by
  obtain ⟨c, hrun, hescape, hcommand⟩ := exists_command hr h
  have hin := Editor.cursorInTable_eq (m := o.margin) hlow hhigh
  cases htable : w.editor.isTableRow o.margin w.editor.cursor.row with
  | false =>
    rw [htable] at hin
    rw [run, Editor.block?, hin] at hrun
    exact Or.inl ⟨hin, (EStateM.Result.ok.inj hrun).2.symm⟩
  | true =>
    obtain ⟨above, block, below, harea⟩ := Editor.exists_around hlow hhigh htable
    obtain ⟨htransactions, t, hlines, hlays⟩ := run_frame harea hrun
    rw [htable] at hin
    simp only [hescape] at hlines
    refine Or.inr ⟨hin, htransactions, above, block, below, t, harea, hlines, ?_⟩
    rintro c' hc' hlaid
    obtain rfl := hcommand c' hc'
    exact hlays hlaid

/-- Below a table line that is rejected, a table at the end of the document is escaped. -/
theorem request_frame_escape :
    let e : Editor := { lines := ["|x".toList, "|a|b".toList, "|c".toList], cursor := ⟨2, 1⟩
                        rejected := [0], refused := some .select }
    ∃ w', (Request.command .escape).run { formatType := .weak } ⟨e, none⟩ = .ok () w' ∧
      w'.editor.transactions = 1 ∧
      ∃ above block below t, e.Around ⟨[]⟩ above block below ∧
        w'.editor.lines = above ++ (Table.format { formatType := .weak } t).lines ++ below ++
          if below = [] then [[]] else [] := by
  intro e
  have hrun : (Request.command .escape).run { formatType := .weak } ⟨e, none⟩ = .ok ()
      ⟨{ e with lines := ["|x".toList, "| a | b |".toList, "| --- | --- |".toList,
                          "| c |  |".toList, []]
                cursor := ⟨4, 0⟩, transactions := 1
                log := [.insert 1 "| a | b |".toList,
                        .replace 2 4 ["| --- | --- |".toList, "| c |  |".toList],
                        .insert 4 []] }, none⟩ := by
    decide
  have hframe := request_frame { formatType := .weak } (by decide) (by decide) (by decide) hrun
  obtain ⟨hoff, -⟩ | ⟨-, htransactions, above, block, below, t, harea, hlines, -⟩ := hframe
  · exact absurd hoff (by decide)
  · refine ⟨_, hrun, htransactions, above, block, below, t, harea, ?_⟩
    simpa using hlines

end Workspace

end TextTable
