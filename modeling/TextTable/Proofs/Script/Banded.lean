import TextTable.Proofs.Script.Distance
import TextTable.Script.Banded

/-!
# The band is not seen

The search in a band gives the same answers as the search by trails (`shortest?_eq`). Up to the
limit, each cost in its table tells the distance of the lines before the place (`Tells`,
`Filled.tells`); beyond, it tells only that the distance is beyond. The places outside of the band
are far apart for the difference of their lengths alone, and where all places of a row are far
apart, all places below are (`Far.append`). On the way back every comparison is with a cost that the
limit allows, so it is decided as the distances decide it, and the steps are those of the best trail
(`back_eq`). Hence a script that is found under a limit is the one found without
(`shortest?_unlimited`).
-/

namespace TextTable.Script.Banded

open Trail

variable {limit : Nat}

/-! ## Costs up to the limit -/

/-- A cost, where all costs beyond the limit are the same. -/
def capped (limit : Nat) : Option Nat → Nat
  | some c => min c (limit + 1)
  | none => limit + 1

/-- The cost tells the distance, up to the limit. -/
def Tells (limit : Nat) (c : Option Nat) (d : Nat) : Prop := capped limit c = min d (limit + 1)

/-- A distance tells itself, as long as the limit allows it. -/
theorem tells_within (limit d : Nat) : Tells limit (if d ≤ limit then some d else none) d := by
  rw [Tells]
  split
  · rfl
  · rw [capped]
    omega

/-- No cost tells a distance beyond the limit. -/
theorem tells_none {d : Nat} (h : limit < d) : Tells limit none d := by
  rw [Tells, capped]
  omega

namespace Tells

variable {c : Option Nat} {d v : Nat}

/-- A cost that the limit allows is a distance. -/
theorem eq_some_iff (h : Tells limit c d) (hv : v ≤ limit) : c = some v ↔ d = v := by
  cases c with
  | none =>
    rw [Tells, capped] at h
    exact iff_of_false (Option.some_ne_none v).symm (by omega)
  | some c =>
    rw [Tells, capped] at h
    rw [Option.some.injEq]
    omega

theorem succ (h : Tells limit c d) : Tells limit (c.map (· + 1)) (d + 1) := by
  rw [Tells] at h ⊢
  cases c with
  | none =>
    rw [capped] at h
    rw [Option.map_none, capped]
    omega
  | some c =>
    rw [capped] at h
    rw [Option.map_some, capped]
    omega

/-- The lower of two costs tells the lower of two distances. -/
theorem lower {c' : Option Nat} {d' : Nat} (h : Tells limit c d) (h' : Tells limit c' d') :
    Tells limit (lower c c') (min d d') := by
  have hmin : min (min d d') (limit + 1) = min (min d (limit + 1)) (min d' (limit + 1)) := by omega
  rw [Tells] at h h' ⊢
  rw [hmin, ← h, ← h']
  cases c <;> cases c' <;> simp only [Banded.lower, capped] <;> omega

/-- A cost that comes before an allowed one is compared as the distances are. -/
theorem map_succ_eq_some_iff (h : Tells limit c d) (hv : v ≤ limit) :
    c.map (· + 1) = some v ↔ d + 1 = v := by
  cases v with
  | zero =>
    refine iff_of_false ?_ (by omega)
    cases c <;> simp
  | succ v =>
    rw [Nat.add_right_cancel_iff, ← h.eq_some_iff (Nat.le_of_succ_le hv)]
    cases c <;> simp

/-- A cost exceeds the limit when the distance does. -/
theorem exceeds_iff (h : Tells limit c d) : exceeds limit c = true ↔ limit < d := by
  cases c with
  | none =>
    rw [Tells, capped] at h
    exact iff_of_true rfl (by omega)
  | some c =>
    rw [Tells, capped] at h
    rw [exceeds, Option.all_some, decide_eq_true_eq]
    omega

end Tells

/-- A cost is told by the costs before it. -/
theorem tells_cost {a b : Text} {as bs : List Text} {before above left : Option Nat}
    (hbefore : Tells limit before (levenshtein as bs))
    (habove : Tells limit above (levenshtein as (b :: bs)))
    (hleft : Tells limit left (levenshtein (a :: as) bs)) :
    Tells limit (cost a b before above left) (levenshtein (a :: as) (b :: bs)) := by
  rw [cost]
  split
  · next hab =>
    -- no way is cheaper than to keep the line: the others would have to make up for it
    subst hab
    have hdelete : Reaches 1 1 (a :: bs) bs := .delete a (.refl bs : Reaches 0 0 bs bs)
    have hinsert : Reaches 1 1 as (a :: as) := .insert a (.refl as : Reaches 0 0 as as)
    have := levenshtein_le ((reaches_best as (a :: bs)).trans hdelete)
    have := levenshtein_le (hinsert.trans (reaches_best (a :: as) bs))
    have hleast : levenshtein (a :: as) (a :: bs) = min (min (levenshtein as bs)
        (levenshtein as (a :: bs) + 1)) (levenshtein (a :: as) bs + 1) := by
      rw [levenshtein, if_pos rfl]
      omega
    rw [hleast]
    exact (hbefore.lower habove.succ).lower hleft.succ
  · next hab =>
    rw [levenshtein_of_ne hab, ← Nat.add_min_add_right, ← Nat.add_min_add_right]
    exact (hbefore.succ.lower habove.succ).lower hleft.succ

/-! ## Rows -/

/-- The distances in the row below the lines `old`, from the place behind the new lines `before` to
the place behind `rest`. -/
def distances (old : List Text) : (before rest : List Text) → List Nat
  | before, [] => [levenshtein old before]
  | before, b :: rest => levenshtein old before :: distances old (b :: before) rest

/-- The costs of a row tell distances. -/
def TellsRow (limit : Nat) (row : List (Option Nat)) (ds : List Nat) : Prop :=
  row.map (capped limit) = ds.map (min · (limit + 1))

theorem tellsRow_cons_iff {c : Option Nat} {row : List (Option Nat)} {d : Nat} {ds : List Nat} :
    TellsRow limit (c :: row) (d :: ds) ↔ Tells limit c d ∧ TellsRow limit row ds := by
  rw [TellsRow, List.map_cons, List.map_cons, List.cons.injEq, Tells, TellsRow]

theorem distances_eq_cons (old before rest : List Text) :
    distances old before rest = levenshtein old before :: (distances old before rest).tail := by
  cases rest with
  | nil => rfl
  | cons b rest => rfl

theorem getElem?_distances (old done rest : List Text) :
    ∀ before, (distances old before (done ++ rest))[done.length]? =
      some (levenshtein old (done.reverse ++ before)) := by
  induction done with
  | nil =>
    intro before
    rw [List.nil_append, distances_eq_cons]
    rfl
  | cons b done ih =>
    intro before
    rw [List.cons_append, distances, List.length_cons, List.getElem?_cons_succ, ih,
      List.reverse_cons, List.append_assoc, List.singleton_append]

/-- The place of a row behind some of the new lines. -/
theorem TellsRow.lookup {row : List (Option Nat)} {old new bs : List Text}
    (h : TellsRow limit row (distances old [] new)) (hbs : bs <:+ new.reverse) :
    ∃ c, row[bs.length]? = some c ∧ Tells limit c (levenshtein old bs) := by
  obtain ⟨rest, hrest⟩ := hbs
  have hnew : new = bs.reverse ++ rest.reverse := by
    rw [← List.reverse_append, hrest, List.reverse_reverse]
  have hget := congrArg (·[bs.length]?) h
  rw [hnew] at hget
  have hd := getElem?_distances old bs.reverse rest.reverse []
  rw [List.length_reverse, List.reverse_reverse, List.append_nil] at hd
  simp only [List.getElem?_map, hd, Option.map_some, Option.map_eq_some_iff] at hget
  exact hget

/-- From no line at all, each new line is put in. -/
theorem tells_firstRow (limit : Nat) {rest : List Text} :
    ∀ before, TellsRow limit (firstRow limit before.length rest) (distances [] before rest) := by
  induction rest with
  | nil =>
    intro before
    rw [firstRow, distances, levenshtein]
    exact tellsRow_cons_iff.mpr ⟨tells_within limit before.length, rfl⟩
  | cons b rest ih =>
    intro before
    rw [firstRow, distances, levenshtein]
    exact tellsRow_cons_iff.mpr ⟨tells_within limit before.length, ih (b :: before)⟩

/-- The lengths of two blocks are no further apart than the blocks. -/
theorem length_le_levenshtein (old new : List Text) :
    old.length ≤ new.length + levenshtein old new ∧
      new.length ≤ old.length + levenshtein old new := by
  have := (reaches_best old new).length_le
  omega

/-- A row tells distances if the row above and the place to the left do. -/
theorem tells_rowRest {a : Text} {old rest : List Text} :
    ∀ {before : List Text} {c left : Option Nat} {aboves : List (Option Nat)},
      TellsRow limit (c :: aboves) (distances old before rest) →
        Tells limit left (levenshtein (a :: old) before) →
          TellsRow limit (left :: rowRest limit (old.length + 1) a (before.length + 1) c left
            aboves rest) (distances (a :: old) before rest) := by
  -- by induction on the new lines; the place that was just filled is to the left of the next one
  induction rest with
  | nil =>
    intro before c left aboves _ hleft
    rw [distances]
    cases aboves <;> exact tellsRow_cons_iff.mpr ⟨hleft, rfl⟩
  | cons b rest ih =>
    intro before c left aboves habove hleft
    rw [distances, tellsRow_cons_iff, distances_eq_cons] at habove
    obtain ⟨hc, haboves⟩ := habove
    cases aboves with
    | nil => exact absurd haboves (by simp [TellsRow])
    | cons above aboves =>
      obtain ⟨habove, -⟩ := tellsRow_cons_iff.mp haboves
      rw [distances, rowRest, tellsRow_cons_iff]
      refine ⟨hleft, ih (by rwa [distances_eq_cons]) ?_⟩
      split
      · exact tells_cost hc habove hleft
      · have := length_le_levenshtein (a :: old) (b :: before)
        rw [List.length_cons, List.length_cons] at this
        exact tells_none (by omega)

/-- If a row tells the distances, so does the row below it. -/
theorem tells_nextRow {a : Text} {old new : List Text} {row : List (Option Nat)}
    (h : TellsRow limit row (distances old [] new)) :
    TellsRow limit (nextRow limit (old.length + 1) a new row) (distances (a :: old) [] new) := by
  cases row with
  | nil =>
    rw [distances_eq_cons] at h
    exact absurd h (by simp [TellsRow])
  | cons before aboves =>
    refine tells_rowRest h ?_
    rw [levenshtein, List.length_cons]
    exact tells_within limit (old.length + 1)

/-! ## The table -/

/-- All the new lines before a place are further from the old ones than the limit, whatever the
place of the row is. -/
def Far (limit : Nat) (old new : List Text) : Prop :=
  ∀ bs, bs <:+ new.reverse → limit < levenshtein old bs

/-- Below a row of places that are too far, all places are too far. -/
theorem Far.cons {old new : List Text} (a : Text) (h : Far limit old new) :
    Far limit (a :: old) new := by
  intro bs
  induction bs with
  | nil =>
    intro hbs
    have := h [] hbs
    rw [levenshtein_nil_right] at this ⊢
    exact Nat.lt_succ_of_lt this
  | cons b bs ih =>
    intro hbs
    have hbs' : bs <:+ new.reverse := (List.suffix_cons b bs).trans hbs
    have hbefore := h bs hbs'
    have habove := h (b :: bs) hbs
    have hleft := ih hbs'
    rw [levenshtein]
    split
    · exact hbefore
    · omega

/-- Nor do more old lines come near again. -/
theorem Far.append {old new : List Text} (h : Far limit old new) :
    ∀ more, Far limit (more ++ old) new
  | [] => h
  | a :: more => (Far.append h more).cons a

/-- The rows of a table, the last one first, tell the distances from the old lines. -/
inductive Filled (limit : Nat) (new : List Text) :
    (old : List Text) → (table : List (List (Option Nat))) → Prop
  | first {row : List (Option Nat)} :
      TellsRow limit row (distances [] [] new) → Filled limit new [] [row]
  | next {old : List Text} {table : List (List (Option Nat))} {row : List (Option Nat)} (a : Text) :
      Filled limit new old table → TellsRow limit row (distances (a :: old) [] new) →
        Filled limit new (a :: old) (row :: table)

namespace Filled

variable {old new : List Text} {table : List (List (Option Nat))}

theorem length_eq (h : Filled limit new old table) : table.length = old.length + 1 := by
  induction h with
  | first _ => rfl
  | next a _ _ ih => rw [List.length_cons, List.length_cons, ih]

theorem last (h : Filled limit new old table) :
    TellsRow limit (table.headD []) (distances old [] new) := by
  cases h with
  | first hrow => exact hrow
  | next a _ hrow => exact hrow

/-- The row below some of the old lines. -/
theorem lookup (h : Filled limit new old table) {as : List Text} (has : as <:+ old) :
    ∃ row, table.reverse[as.length]? = some row ∧ TellsRow limit row (distances as [] new) := by
  induction h with
  | first hrow =>
    rw [List.suffix_nil] at has
    subst has
    exact ⟨_, rfl, hrow⟩
  | @next old table row a h hrow ih =>
    have hlen := h.length_eq
    rw [List.reverse_cons]
    rcases List.suffix_cons_iff.mp has with rfl | has
    · refine ⟨row, ?_, hrow⟩
      rw [List.length_cons, ← hlen, ← List.length_reverse, List.getElem?_concat_length]
    · have hle := has.length_le
      rw [List.getElem?_append_left (by rw [List.length_reverse]; omega)]
      exact ih has

/-- The place behind some of the old and some of the new lines. -/
theorem tells (h : Filled limit new old table) {as bs : List Text} (has : as <:+ old)
    (hbs : bs <:+ new.reverse) :
    Tells limit (costAt table as.length bs.length) (levenshtein as bs) := by
  obtain ⟨row, hrow, hds⟩ := h.lookup has
  obtain ⟨c, hc, hd⟩ := hds.lookup hbs
  rw [costAt, hrow, Option.bind_some, hc]
  exact hd

/-- A further row is filled, or all its places are too far. -/
theorem addRow? (h : Filled limit new old table) (a : Text) :
    (addRow? limit new table a = none ∧ Far limit (a :: old) new) ∨
      ∃ table', addRow? limit new table a = some table' ∧ Filled limit new (a :: old) table' := by
  have hrow := tells_nextRow (a := a) h.last
  rw [Banded.addRow?, h.length_eq]
  split
  · next hall =>
    refine .inl ⟨rfl, fun bs hbs => ?_⟩
    obtain ⟨c, hc, htells⟩ := hrow.lookup hbs
    exact htells.exceeds_iff.mp (List.all_eq_true.mp hall c (List.mem_of_getElem? hc))
  · exact .inr ⟨_, rfl, .next a h hrow⟩

/-- All further rows are filled, or the last places are too far. -/
theorem foldlM (rest : List Text) :
    ∀ {old : List Text} {table : List (List (Option Nat))}, Filled limit new old table →
      (rest.foldlM (Banded.addRow? limit new) table = none ∧
          Far limit (rest.reverse ++ old) new) ∨
        ∃ table', rest.foldlM (Banded.addRow? limit new) table = some table' ∧
          Filled limit new (rest.reverse ++ old) table' := by
  induction rest with
  | nil => exact fun h => .inr ⟨_, rfl, h⟩
  | cons a rest ih =>
    intro old table h
    rw [List.foldlM_cons, List.reverse_cons, List.append_assoc, List.singleton_append]
    rcases h.addRow? a with ⟨hnone, hfar⟩ | ⟨table', hsome, h'⟩
    · exact .inl ⟨by rw [hnone]; rfl, hfar.append rest.reverse⟩
    · rw [hsome]
      exact ih h'

end Filled

/-! ## The way back -/

/-- From a place that the limit allows, the way back is the best trail. -/
theorem back_eq {costAt : Nat → Nat → Option Nat} {old new : List Text}
    (h : ∀ {as bs}, as <:+ old → bs <:+ new →
      Tells limit (costAt as.length bs.length) (levenshtein as bs)) {as bs : List Text}
    (has : as <:+ old) (hbs : bs <:+ new) (hle : levenshtein as bs ≤ limit) :
    back costAt as bs = (best as bs).steps := by
  induction as, bs using best.induct with
  | case1 =>
    rw [back, best]
    rfl
  | case2 a as ih =>
    have has' := (List.suffix_cons a as).trans has
    rw [levenshtein, List.length_cons] at hle
    rw [back, best, ih has' hbs (by rw [levenshtein_nil_right]; omega)]
    rfl
  | case3 b bs ih =>
    have hbs' := (List.suffix_cons b bs).trans hbs
    rw [levenshtein, List.length_cons] at hle
    rw [back, best, ih has hbs' (by rw [levenshtein]; omega)]
    rfl
  | case4 as a bs ih =>
    have has' := (List.suffix_cons a as).trans has
    have hbs' := (List.suffix_cons a bs).trans hbs
    have hhere := ((h has hbs).eq_some_iff hle).mpr rfl
    rw [levenshtein, if_pos rfl] at hle hhere
    have hbefore := ((h has' hbs').eq_some_iff hle).mpr rfl
    rw [List.length_cons, List.length_cons] at hhere
    rw [back, best, if_pos rfl, if_pos ⟨rfl, hbefore.trans hhere.symm⟩, ih has' hbs' hle]
    rfl
  | case5 a as b bs hne ihbefore ihabove ihleft =>
    have has' := (List.suffix_cons a as).trans has
    have hbs' := (List.suffix_cons b bs).trans hbs
    have hhere := ((h has hbs).eq_some_iff hle).mpr rfl
    have hbefore := (h has' hbs').map_succ_eq_some_iff hle
    have habove := (h has' hbs).map_succ_eq_some_iff hle
    have hleast := levenshtein_of_ne hne as bs
    rw [List.length_cons, List.length_cons] at hhere
    rw [List.length_cons] at habove
    rw [back, hhere, if_neg (fun hab => hne hab.1), best_of_ne hne]
    simp only [hbefore, habove]
    split
    · rw [ihbefore has' hbs' (by omega)]
      rfl
    · split
      · rw [ihabove has' hbs (by omega)]
        rfl
      · rw [ihleft has hbs' (by omega)]
        rfl

/-! ## The answer -/

/-- A table that is filled to its last row has the answer. -/
theorem answer_eq {old new : List Text} {table : List (List (Option Nat))}
    (h : Filled limit new old.reverse table) :
    (if exceeds limit (costAt table old.length new.length) then none
      else some (ofSteps 0 (back (costAt table) old.reverse new.reverse).reverse)) =
      if levenshtein old new ≤ limit then some (shortest old new) else none := by
  have hlast := h.tells List.suffix_rfl List.suffix_rfl
  rw [List.length_reverse, List.length_reverse, levenshtein_reverse] at hlast
  by_cases hle : levenshtein old new ≤ limit
  · rw [if_neg (by rw [hlast.exceeds_iff]; omega), if_pos hle, shortest,
      back_eq h.tells List.suffix_rfl List.suffix_rfl (by rwa [levenshtein_reverse])]
  · rw [if_pos (by rw [hlast.exceeds_iff]; omega), if_neg hle]

/-- The search in a band finds what the search by trails finds. -/
theorem shortest?_eq (old new : List Text) (most : Int) :
    shortest? old new most = Script.shortest? old new most := by
  have hall := levenshtein_le_add old new
  have hnear := length_le_levenshtein old new
  rw [Script.shortest?_eq, shortest?]
  generalize hlimit : (if most < 0 then old.length + new.length
    else min most.toNat (old.length + new.length)) = limit
  have hallowed :
      (most < 0 ∨ (levenshtein old new : Int) ≤ most) ↔ levenshtein old new ≤ limit := by
    rw [← hlimit]
    split <;> omega
  simp only [hallowed]
  split
  · have hbegin : Filled limit new [] [firstRow limit 0 new] := .first (tells_firstRow limit [])
    rcases hbegin.foldlM old with ⟨hnone, hfar⟩ | ⟨table, hsome, hfilled⟩
    · have hlast := hfar new.reverse List.suffix_rfl
      rw [List.append_nil, levenshtein_reverse] at hlast
      rw [table?, hnone, if_neg (Nat.not_le.mpr hlast)]
      rfl
    · rw [List.append_nil] at hfilled
      rw [table?, hsome, Option.bind_some, answer_eq hfilled]
  · rw [if_neg (by omega)]

/-- A script that the search in a band finds under a limit is the one it finds without a limit, and
the search by trails finds that script with the limit as well as without it. -/
theorem shortest?_unlimited {old new : List Text} {most : Int} {s : Script}
    (h : Banded.shortest? old new most = some s) :
    Banded.shortest? old new (-1) = some s ∧ Script.shortest? old new most = some s ∧
      Script.shortest? old new (-1) = some s := by
  have htrails : Script.shortest? old new most = some s := by rwa [shortest?_eq] at h
  have hscript : shortest old new = s := by
    rw [Script.shortest?_eq, Option.ite_none_right_eq_some] at htrails
    exact Option.some.inj htrails.2
  have hfree : Script.shortest? old new (-1) = some s := by
    rw [Script.shortest?_eq, if_pos (.inl (by decide)), hscript]
  exact ⟨by rwa [shortest?_eq], htrails, hfree⟩

/-- All lines move up by one, which leaves the diagonal at the first line and comes back to it
behind the last one. -/
theorem shortest?_unlimited_shifted :
    let old : List Text := [['a'], ['b'], ['c'], ['d']]
    let new : List Text := [['b'], ['c'], ['d'], ['e']]
    let s : Script := [.delete 0, .insert 3 ['e']]
    Banded.shortest? old new 2 = some s ∧ Banded.shortest? old new (-1) = some s ∧
      Script.shortest? old new 2 = some s ∧ Script.shortest? old new (-1) = some s := by
  intro old new s
  have hscript : Banded.shortest? old new 2 = some s := by
    rw [shortest?_eq]
    decide
  exact ⟨hscript, shortest?_unlimited hscript⟩

end TextTable.Script.Banded
