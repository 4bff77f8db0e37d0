import TextTable.Editor.Sweep
import TextTable.Editor.Workspace

/-!
# Edits and the count of transactions

An editor counts its transactions, and undoing a transaction does not take back that it was begun.
No edit looks at this count: an edit is *timeless* when it does the same whatever the count is, and
leaves the count alone. All that a command does in its transaction is timeless (`timeless_carryOut`,
`timeless_sweep`), and so is the table that is found under the cursor (`block?_atCount`). What a
transaction does can then be told from what it does at another count (`transact_atCount`).

The proofs follow the way edits are put together: `Timeless.bind` for one edit after another, and
`timeless_get` and `timeless_modify` for the looks at the editor and the changes of it, where it is
left to see that they pass over the count.
-/

namespace TextTable.Editor

variable {α β : Type}

/-- The editor, had it begun `n` transactions. -/
def atCount (n : Nat) (e : Editor) : Editor := { e with transactions := n }

/-- The result, had the editor begun `n` transactions. -/
def recount (n : Nat) : EStateM.Result Fault Editor α → EStateM.Result Fault Editor α
  | .ok a e => .ok a (e.atCount n)
  | .error fault e => .error fault (e.atCount n)

/-- The edit does the same whatever the count of transactions is. -/
def Timeless (x : Edit α) : Prop := ∀ n e, x (atCount n e) = recount n (x e)

/-! ## Making timeless edits -/

theorem timeless_pure (a : α) : Timeless (pure a : Edit α) := fun _ _ => rfl

/-- A fault does not tell the count. -/
theorem timeless_throw (fault : Fault) : Timeless (throw fault : Edit α) := fun _ _ => rfl

/-- One edit after another is timeless when both are, whatever the first one returns. -/
theorem Timeless.bind {x : Edit α} {f : α → Edit β} (hx : Timeless x) (hf : ∀ a, Timeless (f a)) :
    Timeless (x >>= f) := by
  intro n e
  change EStateM.bind x f (atCount n e) = recount n (EStateM.bind x f e)
  rw [EStateM.bind, EStateM.bind, hx n e]
  cases x e with
  | ok a e' => exact hf a n e'
  | error fault e' => rfl

/-- An edit that looks at the editor is timeless when it does not look at the count. -/
theorem timeless_get {f : Editor → Edit α} (hf : ∀ e, Timeless (f e))
    (hcount : ∀ n e, f (atCount n e) = f e) : Timeless (get >>= f) := by
  intro n e
  change f (atCount n e) (atCount n e) = recount n (f e e)
  rw [hcount n e]
  exact hf e n e

/-- A change of the editor is timeless when it does not matter whether the count is set before it or
after it. -/
theorem timeless_modify {f : Editor → Editor} (hf : ∀ n e, f (atCount n e) = atCount n (f e)) :
    Timeless (modify f) := by
  intro n e
  change EStateM.Result.ok () (f (atCount n e)) = .ok () (atCount n (f e))
  rw [hf]

theorem Timeless.map {x : Edit α} (hx : Timeless x) (f : α → β) : Timeless (f <$> x) :=
  hx.bind fun a => timeless_pure (f a)

/-! ## Operations -/

/-- What an editor refuses does not depend on the count. -/
theorem timeless_permit (operation : Operation) : Timeless (permit operation) := by
  refine timeless_get (fun e => ?_) (fun _ _ => rfl)
  split
  · exact timeless_throw _
  · exact timeless_pure _

theorem timeless_setCursor (p : Position) : Timeless (setCursor p) :=
  (timeless_permit _).bind fun _ => timeless_modify fun _ _ => rfl

theorem timeless_select (span : Span) : Timeless (select span) :=
  (timeless_permit _).bind fun _ => timeless_modify fun _ _ => rfl

/-- The log is kept apart from the count. -/
theorem timeless_record (change : Change) : Timeless (record change) :=
  timeless_modify fun _ _ => rfl

/-- A line is put in, and the change recorded, whatever the count is. -/
theorem timeless_insertLine (row : Int) (line : Text) : Timeless (insertLine row line) :=
  (timeless_permit _).bind fun _ => (timeless_record _).bind fun _ =>
    timeless_modify fun _ _ => rfl

/-- Which line is deleted, and whether there is one, can be seen from the lines. -/
theorem timeless_deleteLine (row : Int) : Timeless (deleteLine row) := by
  refine (timeless_permit _).bind fun _ => (timeless_record _).bind fun _ =>
    timeless_get (fun e => ?_) (fun _ _ => rfl)
  split
  · exact timeless_modify fun _ _ => rfl
  · exact timeless_throw _

theorem timeless_replaceLines (start stop : Int) (lines : List Text) :
    Timeless (replaceLines start stop lines) :=
  (timeless_permit _).bind fun _ => (timeless_record _).bind fun _ =>
    timeless_modify fun _ _ => rfl

/-! ## Exchanging a block -/

/-- Each edit of a script is one operation on the lines. -/
theorem timeless_replayEdit (base : Int) (edit : LineEdit) : Timeless (replayEdit base edit) := by
  cases edit with
  | insert row line => exact timeless_insertLine _ _
  | delete row => exact timeless_deleteLine _
  | replace row lines => exact timeless_replaceLines _ _ _

/-- A script is replayed edit by edit. -/
theorem timeless_replay (base : Int) (script : Script) : Timeless (replay base script) := by
  induction script with
  | nil => exact timeless_pure _
  | cons edit script ih => exact (timeless_replayEdit base edit).bind fun _ => ih

/-- The search for a script sees the lines only. -/
theorem timeless_exchange (first : Int) (old new : List Text) :
    Timeless (exchange first old new) := by
  rw [exchange]
  split
  · exact timeless_replay _ _
  · exact timeless_replaceLines _ _ _

/-! ## Commands -/

theorem timeless_land (top : Int) (t : Table) (f : Focus) (selected : Bool) :
    Timeless (land top t f selected) := by
  rw [land]
  split
  · exact timeless_select _
  · split
    · exact timeless_setCursor _
    · exact timeless_pure _

theorem timeless_landBelow (m : Margin) (row : Int) : Timeless (landBelow m row) := by
  refine timeless_get (fun e => ?_) (fun _ _ => rfl)
  split
  · exact (timeless_insertLine _ _).bind fun _ => timeless_setCursor _
  · split
    · exact timeless_setCursor _
    · exact timeless_throw _

/-- To carry out a plan is to write its table and to put the cursor where it leads. -/
theorem timeless_carryOut (p : Plan) (o : Options) (b : Block) : Timeless (p.carryOut o b) := by
  refine (timeless_exchange _ _ _).bind fun _ => ?_
  split
  · exact timeless_land _ _ _ _
  · exact timeless_landBelow _ _

/-! ## Sweeps -/

theorem timeless_formatBlock (o : Options) (first : Int) (lines : List Text) (p : Position) :
    Timeless (formatBlock o first lines p) := by
  refine (timeless_exchange _ _ _).bind fun _ => ?_
  split
  · exact timeless_pure _
  · exact timeless_pure _

/-- Row by row, a sweep gathers table lines and lays out those that it has gathered. -/
theorem timeless_sweepFrom (o : Options) {count : Nat} :
    ∀ (row : Int) (lines : List Text) (p : Position), Timeless (sweepFrom o count row lines p) := by
  -- by induction on the rows ahead; the editor is looked at only for its lines and rejected rows
  induction count with
  | zero =>
    intro row lines p
    rw [sweepFrom]
    split
    · exact timeless_pure _
    · exact (timeless_formatBlock _ _ _ _).map _
  | succ count ih =>
    intro row lines p
    refine timeless_get (fun e => ?_) (fun _ _ => rfl)
    split
    · exact ih _ _ _
    · split
      · exact ih _ _ _
      · exact (timeless_formatBlock _ _ _ _).bind fun _ => ih _ _ _

/-- A sweep through the document is timeless, from its first row to its last. -/
theorem timeless_sweep (o : Options) : Timeless (sweep o) :=
  timeless_get (fun _ => (timeless_sweepFrom o _ _ _).bind fun _ => timeless_setCursor _)
    (fun _ _ => rfl)

/-! ## Transactions -/

/-- An edit that fails in a transaction leaves nothing but the count. -/
theorem transact_error {x : Edit α} {e e' : Editor} {fault : Fault}
    (h : transact x e = .error fault e') : e' = e.atCount (e.transactions + 1) := by
  rw [transact] at h
  split at h
  · cases h
  · exact (EStateM.Result.error.inj h).2.symm

/-- How often transactions were begun before does not matter. -/
theorem transact_atCount {x : Edit α} (hx : Timeless x) (n : Nat) (e : Editor) :
    transact x (e.atCount n) = recount (n + 1) (transact x e) := by
  have h := hx (n + 1) { e with transactions := e.transactions + 1 }
  have hbegun : { e.atCount n with transactions := (e.atCount n).transactions + 1 } =
      atCount (n + 1) { e with transactions := e.transactions + 1 } := rfl
  rw [transact, transact, hbegun, h]
  cases x { e with transactions := e.transactions + 1 } with
  | ok a e' => rfl
  | error fault e' => rfl

/-! ## The table under the cursor -/

/-- The table under the cursor is found at any count. -/
@[simp] theorem block?_atCount (m : Margin) (n : Nat) (e : Editor) :
    (e.atCount n).block? m = e.block? m := rfl

end TextTable.Editor
