import LedgerQuery.Proofs.Arrange
import LedgerQuery.Proofs.Evaluation
import LedgerQuery.Proofs.Layout

/-!
# Running a plan

A plan that is run with success was prepared, its condition was answered, and the records were
finished (`run_eq_ok_iff`).  What comes out is described by the plan alone: a result `Presents`
things, which are records or groups, with the columns of the select list and in the order asked for.
-/

namespace LedgerQuery.Query

open Chain
open Node (Client)

/-! ## Steps of a run -/

/-- A plan is run if its aliases, its table and its condition are in order. -/
theorem prepare_eq_ok_iff {p : Plan} {s : Scope} {t : Table} {predicate : Predicate} :
    prepare p = .ok (s, t, predicate) ↔
      Scope.ofPlan p = .ok s ∧ Table.ofName? p.table = some t ∧ p.selection = some predicate := by
  rw [prepare]
  cases Scope.ofPlan p with
  | error e => simp
  | ok s =>
    cases Table.ofName? p.table with
    | none => simp
    | some t => cases p.selection <;> simp

/-- A run evaluates the condition once, and makes its result of what was found. -/
theorem run_eq {σ : Type} (c : Client σ) (p : Plan) (state : σ) :
    run c p state =
      match prepare p with
      | .error e => (.error e, state)
      | .ok (s, t, predicate) =>
        match evaluate c t predicate state with
        | (.error e, state) => (.error e, state)
        | (.ok records, state) => (finish s t records, state) := by
  rw [run]
  rcases prepare p with e | ⟨s, t, predicate⟩
  · rfl
  · show ((evaluate c t predicate) >>= fun records ↦ _) state = _
    simp only [bind, ExceptT.bind, ExceptT.mk, StateT.bind]
    rcases evaluate c t predicate state with ⟨e | records, state⟩
    · rfl
    · simp only [ExceptT.bindCont]
      rfl

/-- A run succeeds if each of its steps does. -/
theorem run_eq_ok_iff {σ : Type} {c : Client σ} {p : Plan} {state state' : σ} {result : ResultSet} :
    run c p state = (.ok result, state') ↔
      ∃ s t predicate records, Scope.ofPlan p = .ok s ∧ Table.ofName? p.table = some t ∧
        p.selection = some predicate ∧
        evaluate c t predicate state = (.ok records, state') ∧ finish s t records = .ok result := by
  rw [run_eq]
  constructor
  · intro h
    split at h
    · cases h
    · next s t predicate hp =>
      obtain ⟨hs, ht, hpr⟩ := prepare_eq_ok_iff.1 hp
      rcases he : evaluate c t predicate state with ⟨e | records, state₁⟩
      · rw [he] at h
        cases h
      · rw [he] at h
        obtain ⟨hf, rfl⟩ := Prod.mk.inj h
        exact ⟨s, t, predicate, records, hs, ht, hpr, he, hf⟩
  · rintro ⟨s, t, predicate, records, hs, ht, hpr, he, hf⟩
    rw [prepare_eq_ok_iff.2 ⟨hs, ht, hpr⟩]
    dsimp only
    rw [he]
    exact congrArg (·, state') hf

theorem eq_ok_of_toOption {ε α : Type} {x : Except ε α} {a : α} (h : x.toOption = some a) :
    x = .ok a := by
  cases x with
  | ok b => exact congrArg Except.ok (Option.some_inj.1 h)
  | error e => cases h

/-- A run that is seen to give a result. -/
theorem exists_run_eq_ok {σ α : Type} {c : Client σ} {p : Plan} {state : σ} {f : ResultSet → α}
    {a : α} (h : (run c p state).1.toOption.map f = some a) :
    ∃ result state', run c p state = (.ok result, state') ∧ f result = a := by
  rcases hr : run c p state with ⟨e | result, state'⟩
  · rw [hr] at h
    cases h
  · rw [hr] at h
    exact ⟨result, state', rfl, Option.some_inj.1 h⟩

/-- A result is converted, sorted, cut and projected, in this order. -/
theorem finish_eq_ok {s : Scope} {t : Table} {records : List Record} {result : ResultSet}
    (h : finish s t records = .ok result) :
    ∃ rows r, convert s t (s.order t) records = .ok rows ∧
      (ResultSet.ofRows t rows s.aliases).order (s.order t).keys = .ok r ∧
      result = (cut s.plan.limit r).project := by
  rw [finish] at h
  split at h
  · cases h
  · next rows hrows =>
    split at h
    · cases h
    · next r hr =>
      cases h
      exact ⟨rows, r, hrows, hr, rfl⟩

/-! ## The order asked for -/

/-- What an operand is called among the columns: a plain name may be an alias, a call is none. -/
def Plan.denoted (p : Plan) : Operand → String
  | .column name => p.resolved name
  | .call c => c.name

/-- The columns to order by, each as often as it is named. -/
def Plan.orderKeys (p : Plan) : List (String × Direction) :=
  (p.orderBy.getD []).map fun item ↦ (p.denoted item.expr, item.direction)

section KeysOrder

variable {p : Plan} {s : Scope} {t : Table}

/-- Rows are sorted by what the names stand for, each column at its first place. -/
theorem keys_order_resolved (h : Scope.ofPlan p = .ok s) :
    (s.order t).keys = Keyed.firsts
      ((p.orderBy.getD []).map fun item ↦ (p.resolved item.expr.name, item.direction)) := by
  have hr : ∀ name, resolve s.aliases name = p.resolved name := Scope.resolve_ofPlan h
  have hp : s.plan = p := Scope.plan_of_ofPlan h
  rw [Scope.order, keys_ofItems, hp]
  simp only [hr]

theorem keys_order (h : Scope.ofPlan p = .ok s)
    (hd : ∀ item ∈ p.orderBy.getD [], p.denoted item.expr = p.resolved item.expr.name) :
    (s.order t).keys = Keyed.firsts p.orderKeys := by
  rw [keys_order_resolved h, Plan.orderKeys]
  refine congrArg Keyed.firsts (List.map_congr_left fun item hi ↦ ?_)
  rw [hd item hi]

end KeysOrder

/-! ## What a result shows -/

/-- A result that shows things, each by its cells: in the order of some keys, things that compare
equal staying in their order, as many as the limit allows, and of each of them the columns of the
select list and no other. -/
structure Presents {α : Type} (p : Plan) (t : Table) (value : α → String → Cell)
    (keys : List (String × Direction)) (xs : List α) (r : ResultSet) : Prop where
  columns : r.columns = p.columns t
  labels : r.labels = p.labels t
  index : ∀ column i, (column, i) ∈ r.index ↔ (p.columns t).idxOf? column = some i
  rows : ∃ sorted, StablySorted (compareBy value keys) xs sorted ∧
    r.rows = (limited p.limit sorted).map fun x ↦ (p.columns t).map (value x)

namespace Presents

variable {α : Type} {p : Plan} {t : Table} {value : α → String → Cell} {xs : List α}
  {r : ResultSet}

/-- What is presented, and by which keys, leaves open nothing that a result shows. -/
theorem unique {keys : List (String × Direction)} {r₁ r₂ : ResultSet}
    (h₁ : Presents p t value keys xs r₁) (h₂ : Presents p t value keys xs r₂) :
    r₁.columns = r₂.columns ∧ r₁.labels = r₂.labels ∧ r₁.rows = r₂.rows := by
  obtain ⟨sorted₁, hs₁, hr₁⟩ := h₁.rows
  obtain ⟨sorted₂, hs₂, hr₂⟩ := h₂.rows
  obtain rfl := hs₁.unique hs₂
  exact ⟨h₁.columns.trans h₂.columns.symm, h₁.labels.trans h₂.labels.symm, hr₁.trans hr₂.symm⟩

/-- A column that things are ordered by already makes no difference when it is named again. -/
theorem of_repeated {before after : List (String × Direction)} {k : String × Direction}
    (h : Presents p t value (before ++ k :: after) xs r) (hk : k.1 ∈ before.map Prod.fst) :
    Presents p t value (before ++ after) xs r :=
  { h with rows := by rw [← compareBy_repeated before after hk]; exact h.rows }

/-- Rows in a layout of the select list come out as they should. -/
theorem of_layout {s : Scope} {onCall : Layout.OnCall} {extras : List Operand} {l : Layout}
    {keys : List (String × Direction)} (hb : Layout.build t onCall p.projection extras = .ok l)
    (hk : (s.order t).keys = Keyed.firsts keys)
    (ho : (ResultSet.ofRows t
      (Rows.ofLayout l (xs.map fun x ↦ (l.slots.map Slot.column).map (value x)))
      s.aliases).order (s.order t).keys = .ok r)
    (hv : ∀ column ∈ l.slots.map Slot.column, ∀ a ∈ xs, ∀ b ∈ xs,
      (value a column).Unmixed (value b column)) :
    (∀ k ∈ keys, k.1 ∈ l.slots.map Slot.column) ∧
      Presents p t value keys xs (cut p.limit r).project := by
  have hm : ∀ k, k ∈ (Keyed.firsts keys).map Prod.fst ↔ k ∈ keys.map Prod.fst := by
    intro k
    rw [Keyed.keys_firsts, List.mem_eraseDups]
  rw [hk] at ho
  obtain ⟨hc, sorted, hs, hr⟩ := arrange_eq p.limit
    ((List.length_map _).trans (List.length_map _).symm) ho fun k _ ↦ hv k.1
  rw [compareBy_firsts] at hs
  obtain ⟨hcolumns, hlabels, -⟩ := Layout.build_eq_ok hb
  constructor
  · intro k hk
    obtain ⟨k', hk', hkk⟩ := List.mem_map.1 ((hm k.1).2 (List.mem_map_of_mem hk))
    exact hkk ▸ hc k' hk'
  · rw [hr]
    refine ⟨hcolumns, hlabels, ?_, sorted, hs, ?_⟩
    · intro column i
      rw [mem_positions_take_iff, hcolumns]
      rfl
    · dsimp only
      rw [hcolumns]
      rfl

end Presents

end LedgerQuery.Query
