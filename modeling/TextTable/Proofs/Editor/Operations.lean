import TextTable.Editor.Basic

/-!
# Operations

What the operations of an editor do, refused or not (`setCursor_eq`, `insertLine_eq`,
`deleteLine_eq`, `replaceLines_eq`). An edit is followed step by step: once it is known where its
first step ends, the rest goes on from there (`bind_ok`, `bind_error`). Any state can be followed
so.

What an edit does to an editor that may refuse it is said by `Ends`: the edit fails because it is
refused, or ends where it should. `Ends.bind` puts two such edits together, so that no proof has to
go through the refusals of each.
-/

namespace TextTable.Editor

/-! ## Steps of an edit -/

section Steps

variable {σ α β : Type} {x : EStateM Fault σ α} {f : α → EStateM Fault σ β} {a : α} {e e' : σ}

/-- After a step that succeeds, the edit goes on from where the step ended. -/
theorem bind_ok (h : x e = .ok a e') : (x >>= f) e = f a e' := by
  change EStateM.bind x f e = f a e'
  rw [EStateM.bind, h]

/-- An edit stops where its first step stops. -/
theorem bind_error {fault : Fault} (h : x e = .error fault e') :
    (x >>= f) e = .error fault e' := by
  change EStateM.bind x f e = .error fault e'
  rw [EStateM.bind, h]

/-- An edit succeeds if and only if its first step does, and the rest of it does from there. -/
theorem bind_eq_ok {b : β} :
    (x >>= f) e = .ok b e' ↔ ∃ a e₁, x e = .ok a e₁ ∧ f a e₁ = .ok b e' := by
  cases hx : x e with
  | ok a e₁ =>
    rw [bind_ok hx]
    constructor
    · exact fun h => ⟨a, e₁, rfl, h⟩
    · rintro ⟨a', e₁', h, hrest⟩
      obtain ⟨rfl, rfl⟩ := EStateM.Result.ok.inj h
      exact hrest
  | error fault e₁ =>
    rw [bind_error hx]
    constructor
    · exact nofun
    · rintro ⟨_, _, h, -⟩
      cases h

/-- Looking at the state leaves it as it is. -/
@[simp] theorem get_ok (e : σ) : (get : EStateM Fault σ σ) e = .ok e e := rfl

/-- If each of some actions succeeds and leaves the state in step with an abstract one, so do all of
them, one after the other. -/
theorem forM_ok {ι τ : Type} {act : ι → EStateM Fault σ Unit} {g : τ → ι → τ}
    {R : τ → σ → Prop} : ∀ {is : List ι} {b : τ} {e : σ},
      (∀ i ∈ is, ∀ b e, R b e → ∃ e', act i e = .ok () e' ∧ R (g b i) e') → R b e →
        ∃ e', is.forM act e = .ok () e' ∧ R (is.foldl g b) e'
  | [], _, e, _, h => ⟨e, rfl, h⟩
  | i :: is, b, e, hstep, h => by
      obtain ⟨hfirst, hrest⟩ := List.forall_mem_cons.mp hstep
      obtain ⟨e₁, hact, h₁⟩ := hfirst b e h
      obtain ⟨e', hacts, h'⟩ := forM_ok hrest h₁
      exact ⟨e', (bind_ok hact).trans hacts, h'⟩

end Steps

/-! ## Refused and permitted operations -/

section Operations

variable (e : Editor)

/-- An operation that is refused fails, and changes nothing. -/
theorem permit_eq (operation : Operation) :
    permit operation e = if e.refused = some operation then .error .readOnly e else .ok () e := by
  rw [permit, bind_ok (get_ok e)]
  split <;> rfl

/-- What follows a permission is done unless the operation is refused. -/
theorem permit_bind {α : Type} (operation : Operation) (f : Unit → Edit α) :
    (permit operation >>= f) e =
      if e.refused = some operation then .error .readOnly e else f () e := by
  have hpermit := permit_eq e operation
  by_cases h : e.refused = some operation
  · rw [if_pos h] at hpermit ⊢
    exact bind_error hpermit
  · rw [if_neg h] at hpermit ⊢
    exact bind_ok hpermit

/-- A cursor that is set selects nothing. -/
theorem setCursor_eq (p : Position) :
    setCursor p e = if e.refused = some .setCursor then .error .readOnly e
      else .ok () { e with cursor := p, selection := none } := permit_bind e _ _

/-- The cursor is put at the end of what is selected. -/
theorem select_eq (span : Span) :
    select span e = if e.refused = some .select then .error .readOnly e
      else .ok () { e with cursor := span.stop, selection := some span } := permit_bind e _ _

theorem insertLine_eq (row : Int) (line : Text) :
    insertLine row line e = if e.refused = some .insertLine then .error .readOnly e
      else .ok () { e with
        lines := Signed.insert e.lines row line, log := e.log ++ [.insert row line] } :=
  permit_bind e _ _

theorem deleteLine_eq {row : Int} {lines : List Text}
    (hrow : Signed.erase? e.lines row = some lines) :
    deleteLine row e = if e.refused = some .deleteLine then .error .readOnly e
      else .ok () { e with lines, log := e.log ++ [.delete row] } := by
  have hrecord : record (.delete row) e = .ok () { e with log := e.log ++ [.delete row] } := rfl
  rw [deleteLine, permit_bind, bind_ok hrecord, bind_ok (get_ok _), hrow]
  rfl

/-- Deleting a line that is not there fails when the change is in the log already. -/
theorem deleteLine_missing {row : Int} (hrow : Signed.erase? e.lines row = none) :
    deleteLine row e = if e.refused = some .deleteLine then .error .readOnly e
      else .error .outOfRange { e with log := e.log ++ [.delete row] } := by
  have hrecord : record (.delete row) e = .ok () { e with log := e.log ++ [.delete row] } := rfl
  rw [deleteLine, permit_bind, bind_ok hrecord, bind_ok (get_ok _), hrow]
  rfl

theorem replaceLines_eq (start stop : Int) (lines : List Text) :
    replaceLines start stop lines e = if e.refused = some .replaceLines then .error .readOnly e
      else .ok () { e with
        lines := Signed.replaceRange e.lines start stop lines
        log := e.log ++ [.replace start stop lines] } := permit_bind e _ _

end Operations

/-- Where an operation that may be refused succeeds, it was made. -/
theorem eq_of_ite_ok {p : Prop} [Decidable p] {fault : Fault} {e e₁ e' : Editor}
    (h : (if p then .error fault e else .ok () e₁) =
      (.ok () e' : EStateM.Result Fault Editor Unit)) : e' = e₁ := by
  split at h
  · cases h
  · exact (EStateM.Result.ok.inj h).2.symm

section Permitted

variable {e : Editor} (h : e.refused = none)

include h

/-- An editor that refuses nothing does not refuse this operation. -/
theorem not_refused (operation : Operation) : e.refused ≠ some operation := by
  rw [h]
  exact (Option.some_ne_none operation).symm

theorem setCursor_ok (p : Position) :
    setCursor p e = .ok () { e with cursor := p, selection := none } := by
  rw [setCursor_eq, if_neg (not_refused h _)]

end Permitted

/-! ## Edits of which an operation may be refused -/

/-- Unless the editor refuses one of its operations, the edit ends in an editor that has the
property and refuses what was refused before. -/
def Ends (x : Edit Unit) (e : Editor) (P : Editor → Prop) : Prop :=
  (∃ e', x e = .ok () e' ∧ e'.refused = e.refused ∧ P e') ∨
    (e.refused ≠ none ∧ ∃ fault e', x e = .error fault e')

namespace Ends

variable {x y : Edit Unit} {e e' : Editor} {P Q : Editor → Prop}

/-- Where nothing is refused, the edit succeeds. -/
theorem ok (h : Ends x e P) (hr : e.refused = none) :
    ∃ e', x e = .ok () e' ∧ e'.refused = none ∧ P e' := by
  obtain ⟨e', hok, hrefused, hP⟩ := h.resolve_right fun hn => hn.1 hr
  exact ⟨e', hok, hrefused.trans hr, hP⟩

/-- Where the edit succeeds, it ends as it should. -/
theorem of_ok (hx : x e = .ok () e') (h : Ends x e P) : P e' := by
  rcases h with ⟨e₁, hok, -, hP⟩ | ⟨-, fault, e₁, herror⟩
  · rw [hok] at hx
    obtain ⟨-, rfl⟩ := EStateM.Result.ok.inj hx
    exact hP
  · rw [herror] at hx
    cases hx

/-- What follows from the end of an edit holds there, too. -/
theorem imp (h : Ends x e P) (hPQ : ∀ e', P e' → Q e') : Ends x e Q :=
  h.imp_left fun ⟨e', hok, hrefused, hP⟩ => ⟨e', hok, hrefused, hPQ e' hP⟩

/-- Only what the edit does to this editor matters. -/
theorem of_eq (h : Ends y e P) (hxy : x e = y e) : Ends x e P := by
  rwa [Ends, hxy]

/-- An operation that is refused stops, and otherwise is made. -/
theorem of_ite {operation : Operation}
    (hx : x e = if e.refused = some operation then .error .readOnly e else .ok () e')
    (hrefused : e'.refused = e.refused) (hP : P e') : Ends x e P := by
  split at hx
  · next hrefuses => exact Or.inr ⟨by simp [hrefuses], _, _, hx⟩
  · exact Or.inl ⟨_, hx, hrefused, hP⟩

/-- The edit goes on from where its first part ended. -/
theorem bind (hx : Ends x e P) (hy : ∀ e', P e' → Ends y e' Q) :
    Ends (x >>= fun _ => y) e Q := by
  rcases hx with ⟨e₁, hok, hrefused, hP⟩ | ⟨hr, fault, e₁, herror⟩
  · rcases hy e₁ hP with ⟨e₂, hok', hrefused', hQ⟩ | ⟨hr, fault, e₂, herror⟩
    · exact Or.inl ⟨e₂, (bind_ok hok).trans hok', hrefused'.trans hrefused, hQ⟩
    · exact Or.inr ⟨hrefused ▸ hr, fault, e₂, (bind_ok hok).trans herror⟩
  · exact Or.inr ⟨hr, fault, e₁, bind_error herror⟩

end Ends

/-- A transaction that succeeds is counted, and otherwise does what is done in it. -/
theorem transact_eq_ok {α : Type} {action : Edit α} {e e' : Editor} {a : α} :
    transact action e = .ok a e' ↔
      action { e with transactions := e.transactions + 1 } = .ok a e' := by
  rw [transact]
  cases action { e with transactions := e.transactions + 1 } with
  | ok a e₁ => exact Iff.rfl
  | error fault e₁ => exact ⟨nofun, nofun⟩

end TextTable.Editor
