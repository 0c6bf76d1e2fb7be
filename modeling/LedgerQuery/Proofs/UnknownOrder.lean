import LedgerQuery.Proofs.Grouped

/-!
# Names that rows cannot be ordered by

A name that is no alias, no column of the table and no aggregate of the select list is carried along
as if it were a column, and it is refused where the carried columns are checked.  Which check that
is depends on the query (`run_unknown_order`): where rows stand for groups it is the one for columns
outside of `GROUP BY`, and only where they stand for records is it the one for columns that do not
exist.
-/

namespace LedgerQuery.Query

open Chain
open Node (Client Ledger twoBlocks)

/-! ## Names in an order -/

/-- The plan without its order. -/
def Plan.unordered (p : Plan) : Plan := { p with orderBy := none }

/-- A name that stands for nothing in a plan over a table. -/
structure Plan.Unknown (p : Plan) (t : Table) (name : String) : Prop where
  unbound : ∀ item ∈ p.projection, item.binds name = false
  column : Text.lower name ∉ t.columns
  aggregate : ∀ item ∈ p.projection, ∀ c, item.expr = .call c → c.name ≠ Text.lower name

/-- What the rows of a plan can be ordered by. -/
inductive Plan.Orderable (p : Plan) (t : Table) : Operand → Prop
  | bound {x : Operand} {item : SelectItem} (member : item ∈ p.projection)
      (binds : item.binds x.name = true) : Orderable p t x
  | selected {x : Operand} (shown : Text.lower x.name ∈ p.columns t) : Orderable p t x
  | column {name : String} (known : Text.lower name ∈ t.columns)
      (grouped : p.Grouped → Text.lower name ∈ p.groupColumns) : Orderable p t (.column name)
  | call {c : Call} {a : Aggregate} (grouped : p.Grouped) (called : Aggregate.ofCall t c = .ok a) :
      Orderable p t (.call c)

namespace Scope

variable {p : Plan} {s : Scope} {t : Table}

theorem resolve_of_not_binds (h : ofPlan p = .ok s) {name : String}
    (hn : ∀ item ∈ p.projection, item.binds name = false) :
    Query.resolve s.aliases name = Text.lower name :=
  (resolve_ofPlan h name).trans (Plan.resolved_of_not_binds hn)

theorem mem_selected_iff (h : ofPlan p = .ok s) {column : String} :
    column ∈ s.selected ↔ ∃ item ∈ p.projection, item.expr.name? = some column := by
  rw [ofPlan_eq_ok h]
  exact List.mem_filterMap

theorem mem_selectedIn_iff (h : ofPlan p = .ok s) {column : String} :
    column ∈ s.selectedIn t ↔ column ∈ p.columns t := by
  have star : ∀ {x : Selected}, x.name? = none ↔ x = .star := by
    intro x
    cases x <;> simp [Selected.name?]
  have columns : column ∈ p.columns t ↔
      (∃ item ∈ p.projection, item.expr.name? = some column) ∨
        (∃ item ∈ p.projection, item.expr = .star) ∧ column ∈ t.columns := by
    rw [Plan.columns, List.mem_flatMap]
    constructor
    · rintro ⟨item, hi, hc⟩
      rw [SelectItem.columnsIn] at hc
      split at hc
      · next c hn =>
        rw [List.mem_singleton.1 hc]
        exact .inl ⟨item, hi, hn⟩
      · next hn => exact .inr ⟨⟨item, hi, star.1 hn⟩, hc⟩
    · rintro (⟨item, hi, hn⟩ | ⟨⟨item, hi, hx⟩, hc⟩)
      · refine ⟨item, hi, ?_⟩
        rw [SelectItem.columnsIn, hn]
        exact List.mem_singleton_self _
      · refine ⟨item, hi, ?_⟩
        rw [SelectItem.columnsIn, star.2 hx]
        exact hc
  have any : (s.plan.projection.any fun item ↦ item.expr = .star) = true ↔
      ∃ item ∈ p.projection, item.expr = .star := by
    rw [plan_of_ofPlan h, List.any_eq_true]
    simp only [decide_eq_true_eq]
  rw [columns, ← mem_selected_iff h, selectedIn, ← any]
  split
  · next hs => simp only [List.mem_append, hs, true_and]
  · next hs => simp only [hs, Bool.false_eq_true, false_and, or_false]

end Scope

/-! ## What is carried along -/

namespace Order

variable {selected : List String} {aliases : List (String × String)}

/-- What is carried along for some entries comes before what is carried along for later ones. -/
theorem extras_append (selected : List String) (aliases : List (String × String))
    (before after : List OrderItem) :
    ∃ rest, (ofItems (before ++ after) selected aliases).extras =
      (ofItems before selected aliases).extras ++ rest := by
  induction after using List.reverseRecOn with
  | nil => exact ⟨[], by simp⟩
  | append_singleton after item ih =>
    obtain ⟨rest, hr⟩ := ih
    rw [← List.append_assoc, ofItems_concat, add]
    dsimp only
    split
    · exact ⟨rest, hr⟩
    · exact ⟨rest ++ [extra (resolve aliases item.expr.name) item.expr], by
        rw [hr, List.append_assoc]⟩

/-- Only what the select list does not give is carried along. -/
theorem mem_extras {items : List OrderItem} {x : Operand}
    (h : x ∈ (ofItems items selected aliases).extras) :
    ∃ item ∈ items, resolve aliases item.expr.name ∉ selected ∧
      Keyed.has (Text.lower item.expr.name) aliases = false ∧
      x = extra (resolve aliases item.expr.name) item.expr := by
  induction items using List.reverseRecOn with
  | nil => cases h
  | append_singleton items item ih =>
    have old (h : x ∈ (ofItems items selected aliases).extras) :
        ∃ item' ∈ items ++ [item], resolve aliases item'.expr.name ∉ selected ∧
          Keyed.has (Text.lower item'.expr.name) aliases = false ∧
          x = extra (resolve aliases item'.expr.name) item'.expr := by
      obtain ⟨item', hi, h⟩ := ih h
      exact ⟨item', List.mem_append_left _ hi, h⟩
    rw [ofItems_concat, add] at h
    dsimp only at h
    split at h
    · exact old h
    · next hnew =>
      rcases List.mem_append.1 h with h | h
      · exact old h
      · simp only [Bool.or_eq_true, not_or, Bool.not_eq_true] at hnew
        refine ⟨item, List.mem_append_right _ (List.mem_singleton_self _), ?_, hnew.1.2,
          List.mem_singleton.1 h⟩
        exact fun hc ↦ Bool.false_ne_true (hnew.1.1.symm.trans (List.contains_iff_mem.2 hc))

/-- An entry that the select list does not give is carried along after those before it. -/
theorem extras_cons {before after : List OrderItem} {item : OrderItem}
    (hs : resolve aliases item.expr.name ∉ selected)
    (ha : Keyed.has (Text.lower item.expr.name) aliases = false)
    (hb : extra (resolve aliases item.expr.name) item.expr ∉
      (ofItems before selected aliases).extras) :
    ∃ rest, (ofItems (before ++ item :: after) selected aliases).extras =
      (ofItems before selected aliases).extras ++
        extra (resolve aliases item.expr.name) item.expr :: rest := by
  obtain ⟨rest, hr⟩ := extras_append selected aliases (before ++ [item]) after
  refine ⟨rest, ?_⟩
  rw [List.append_cons, hr, ofItems_concat, add]
  dsimp only
  rw [if_neg, List.append_assoc, List.singleton_append]
  simp only [Bool.or_eq_true, List.contains_iff_mem, ha, Bool.false_eq_true, or_false, not_or]
  exact ⟨hs, hb⟩

end Order

/-- What is carried along so that rows can be ordered by it. -/
inductive Plan.Carried (p : Plan) (t : Table) : Operand → Prop
  | column {name : String} (known : Text.lower name ∈ t.columns)
      (grouped : p.Grouped → Text.lower name ∈ p.groupColumns) :
      Carried p t (.column (Text.lower name))
  | call {c : Call} (grouped : p.Grouped) : Carried p t (.call c)

section Carried

variable {p : Plan} {s : Scope} {t : Table} {name : String}

theorem Plan.Carried.mem_columns {column : String} (h : p.Carried t (.column column)) :
    Text.lower column = column ∧ column ∈ t.columns ∧ (p.Grouped → column ∈ p.groupColumns) := by
  generalize hx : Operand.column column = x at h
  cases h with
  | @column name known grouped =>
    cases hx
    exact ⟨Text.lower_lower name, known, grouped⟩
  | call _ => cases hx

/-- A name that stands for nothing is not selected, if all columns selected by name exist. -/
theorem Plan.Unknown.not_mem_columns (h : p.Unknown t name)
    (hk : ∀ item ∈ p.projection, ∀ n, item.expr = .column n → Text.lower n ∈ t.columns) :
    Text.lower name ∉ p.columns t := by
  rw [Plan.columns, List.mem_flatMap]
  rintro ⟨item, hi, hc⟩
  rw [SelectItem.columnsIn] at hc
  cases hx : item.expr with
  | column n =>
    rw [hx] at hc
    exact h.column (List.mem_singleton.1 hc ▸ hk item hi n hx)
  | call c =>
    rw [hx] at hc
    exact h.aggregate item hi c hx (List.mem_singleton.1 hc).symm
  | star =>
    rw [hx] at hc
    exact h.column hc

theorem Plan.Orderable.carried {x : Operand} (h : p.Orderable t x)
    (hn : ∀ item ∈ p.projection, item.binds x.name = false)
    (hx : Text.lower x.name ∉ p.columns t) : p.Carried t (Order.extra (Text.lower x.name) x) := by
  cases h with
  | bound member binds => exact absurd ((hn _ member).symm.trans binds) Bool.false_ne_true
  | selected shown => exact absurd shown hx
  | column known grouped => exact .column known grouped
  | call grouped _ => exact .call grouped

/-- A name that stands for nothing is carried along right after what the entries before it need. -/
theorem Scope.extras_order {d : Direction} {before after : List OrderItem}
    (hs : Scope.ofPlan p = .ok s)
    (ho : p.orderBy = some (before ++ ⟨.column name, d⟩ :: after)) (hu : p.Unknown t name)
    (hc : Text.lower name ∉ p.columns t) (hb : ∀ item ∈ before, p.Orderable t item.expr) :
    ∃ extras rest, (s.order t).extras = extras ++ .column (Text.lower name) :: rest ∧
      ∀ x ∈ extras, p.Carried t x := by
  have carried : ∀ x ∈ (Order.ofItems before (s.selectedIn t) s.aliases).extras,
      p.Carried t x := by
    intro x hx
    obtain ⟨item, hi, hsel, hal, rfl⟩ := Order.mem_extras hx
    have unbound := (has_aliases_eq_false_iff hs).1 hal
    rw [resolve_of_not_binds hs unbound] at hsel ⊢
    exact (hb item hi).carried unbound fun hm ↦ hsel ((mem_selectedIn_iff hs).2 hm)
  have resolved : Query.resolve s.aliases name = Text.lower name :=
    resolve_of_not_binds hs hu.unbound
  have new : .column (Text.lower name) ∉
      (Order.ofItems before (s.selectedIn t) s.aliases).extras :=
    fun hm ↦ hu.column (carried _ hm).mem_columns.2.1
  have whole : ∃ rest,
      (Order.ofItems (before ++ ⟨.column name, d⟩ :: after) (s.selectedIn t) s.aliases).extras =
        (Order.ofItems before (s.selectedIn t) s.aliases).extras ++
          .column (Query.resolve s.aliases name) :: rest :=
    Order.extras_cons (fun hm ↦ hc ((mem_selectedIn_iff hs).1 (resolved ▸ hm)))
      ((has_aliases_eq_false_iff hs).2 hu.unbound) (resolved.symm ▸ new)
  obtain ⟨rest, hr⟩ := whole
  refine ⟨_, rest, ?_, carried⟩
  rw [Scope.order, plan_of_ofPlan hs, ho, Option.getD_some, hr, resolved]

end Carried

/-! ## Checks -/

section Checks

variable {t : Table} {groupBy : List String}

theorem checkGroupColumns_eq_ok (h : checkGroupColumns t groupBy = .ok ()) :
    ∀ c ∈ groupBy, Text.lower c ∈ t.columns := by
  induction groupBy with
  | nil => exact fun c hc ↦ absurd hc List.not_mem_nil
  | cons c cs ih =>
    rw [checkGroupColumns] at h
    split at h
    · next c' hc =>
      obtain ⟨rfl, hm⟩ := column_eq_ok_iff.1 hc
      exact List.forall_mem_cons.2 ⟨hm, ih h⟩
    · cases h

/-- The first column carried along that is not grouped by is refused. -/
theorem verifyOrder_eq_error {before rest : List Operand} {name : String}
    (hb : ∀ c, .column c ∈ before → c ∈ groupBy) (hn : name ∉ groupBy) :
    verifyOrder groupBy (before ++ .column name :: rest) = .error (.ungroupedOrder name) := by
  induction before with
  | nil => rw [List.nil_append, verifyOrder, if_neg (fun h ↦ hn (List.contains_iff_mem.1 h))]
  | cons x before ih =>
    have ih := ih fun c hc ↦ hb c (List.mem_cons_of_mem _ hc)
    cases x with
    | column c =>
      rw [List.cons_append, verifyOrder,
        if_pos (List.contains_iff_mem.2 (hb c List.mem_cons_self)), ih]
    | call c => rw [List.cons_append, verifyOrder, ih]

theorem Layout.known_of_ofItems {onCall : OnCall} {items : List SelectItem} {slots : List Slot}
    (h : ofItems t onCall items = .ok slots) :
    ∀ item ∈ items, ∀ name, item.expr = .column name → Text.lower name ∈ t.columns := by
  induction items generalizing slots with
  | nil => exact fun item hi ↦ absurd hi List.not_mem_nil
  | cons item items ih =>
    rw [ofItems] at h
    split at h
    · cases h
    · next first hfirst =>
      split at h
      · next rest hrest =>
        refine List.forall_mem_cons.2 ⟨fun name hx ↦ ?_, ih hrest⟩
        rw [ofItem, hx] at hfirst
        dsimp only at hfirst
        split at hfirst
        · next c hc =>
          obtain ⟨rfl, hm⟩ := column_eq_ok_iff.1 hc
          exact hm
        · cases hfirst
      · cases h

/-- The first operand that has no slot is the reason why there is no layout. -/
theorem Layout.carry_eq_error {onCall : OnCall} {slots : List Slot} {before rest : List Operand}
    {x : Operand} {e : Error} (hb : ∀ y ∈ before, ∃ s, ofOperand t onCall y = .ok s)
    (hx : ofOperand t onCall x = .error e) :
    carry t onCall slots (before ++ x :: rest) = .error e := by
  induction before generalizing slots with
  | nil => rw [List.nil_append, carry, hx]
  | cons y before ih =>
    obtain ⟨s, hs⟩ := hb y List.mem_cons_self
    have ih : ∀ slots, carry t onCall slots (before ++ x :: rest) = .error e :=
      fun _ ↦ ih fun y hy ↦ hb y (List.mem_cons_of_mem _ hy)
    rw [List.cons_append, carry, hs]
    dsimp only
    split <;> exact ih _

end Checks

/-! ## Runs -/

theorem Scope.ofPlan_of_unordered {p : Plan} {s : Scope} (h : ofPlan p.unordered = .ok s) :
    ofPlan p = .ok { s with plan := p } := by
  have hb : bindAliases [] p.unordered.projection = bindAliases [] p.projection := rfl
  rw [ofPlan] at h ⊢
  split at h
  · next aliases ha =>
    cases h
    rw [← hb, ha]
    rfl
  · cases h

theorem Plan.grouped_of_isGrouped {p : Plan} {s : Scope} (hs : Scope.ofPlan p = .ok s)
    (h : s.isGrouped = true) : p.Grouped := by
  rw [Scope.ofPlan_eq_ok hs, Scope.isGrouped, Bool.or_eq_true] at h
  refine h.imp_right fun hany ↦ ?_
  obtain ⟨item, hi, hc⟩ := List.any_eq_true.1 hany
  split at hc
  · next c hx => exact ⟨item, hi, c, hx⟩
  · cases hc

/-- Where a plan without its order gives a result, the plan itself is refused by no check but those
of the records it gets. -/
theorem run_eq_finish {σ : Type} {c : Client σ} {p : Plan} {state state' : σ} {result : ResultSet}
    (h : run c p.unordered state = (.ok result, state')) :
    ∃ s t records rows, Scope.ofPlan p = .ok s ∧ Table.ofName? p.table = some t ∧
      convert { s with plan := p.unordered } t .empty records = .ok rows ∧
      run c p state = (finish s t records, state') := by
  obtain ⟨s, t, predicate, records, hs, ht, hpr, he, hf⟩ := run_eq_ok_iff.1 h
  obtain ⟨rows, -, hrows, -, -⟩ := finish_eq_ok hf
  have hp : s.plan = p.unordered := Scope.plan_of_ofPlan hs
  have hs' := Scope.ofPlan_of_unordered hs
  refine ⟨{ s with plan := p }, t, records, rows, hs', ht, ?_, ?_⟩
  · rw [Scope.order, hp] at hrows
    rw [← hp]
    exact hrows
  · rw [run_eq, prepare_eq_ok_iff.2 ⟨hs', ht, hpr⟩]
    dsimp only
    rw [he]

section Refused

variable {p : Plan} {s : Scope} {t : Table} {name : String} {records : List Record} {rows : Rows}

theorem Layout.ofItems_of_build {onCall : OnCall} {select : List SelectItem} {extras : List Operand}
    {l : Layout} (h : build t onCall select extras = .ok l) :
    ∃ slots, ofItems t onCall select = .ok slots := by
  rw [build] at h
  split at h
  · cases h
  · next slots hs => exact ⟨slots, hs⟩

theorem verifyColumns_of_groupRecords {o : Order} (h : groupRecords s t o records = .ok rows) :
    verifyColumns t (s.groupBy.getD []) s.plan.projection = .ok () := by
  rw [groupRecords] at h
  split at h
  · cases h
  · next hv => exact hv

theorem ofItems_of_ofGroups {select : List SelectItem} {groupBy : List String}
    {extras : List Operand} {f : Option GroupFilter}
    (h : Rows.ofGroups t select groupBy extras f records = .ok rows) :
    ∃ slots, Layout.ofItems t (Aggregate.ofCall t) select = .ok slots := by
  rw [Rows.ofGroups] at h
  split at h
  · cases h
  · next l hl => exact Layout.ofItems_of_build hl

theorem ofItems_of_groupRecords {o : Order} (h : groupRecords s t o records = .ok rows) :
    ∃ slots, Layout.ofItems t (Aggregate.ofCall t) s.plan.projection = .ok slots := by
  rw [groupRecords, verifyColumns_of_groupRecords h] at h
  dsimp only at h
  split at h
  · cases h
  · split at h
    · exact ofItems_of_ofGroups h
    · split at h
      · cases h
      · exact ofItems_of_ofGroups h

theorem ofItems_of_ofRecords {select : List SelectItem} {extras : List Operand}
    (h : Rows.ofRecords t select extras records = .ok rows) :
    ∃ slots, Layout.ofItems t Layout.noCalls select = .ok slots := by
  rw [Rows.ofRecords] at h
  split at h
  · cases h
  · next l hl => exact Layout.ofItems_of_build hl

/-- Where rows stand for groups, the name is refused for not being grouped by, before it is looked
up among the columns. -/
theorem groupRecords_eq_error {o : Order} {extras rest : List Operand}
    (hv : verifyColumns t (s.groupBy.getD []) s.plan.projection = .ok ())
    (ho : o.extras = extras ++ .column (Text.lower name) :: rest)
    (hb : ∀ c, .column c ∈ extras → c ∈ s.groupBy.getD []) (hn : Text.lower name ∉ t.columns) :
    groupRecords s t o records = .error (.ungroupedOrder (Text.lower name)) := by
  have ungrouped : Text.lower name ∉ s.groupBy.getD [] := by
    intro hm
    rw [verifyColumns] at hv
    split at hv
    · next hc => exact hn (Text.lower_lower name ▸ checkGroupColumns_eq_ok hc _ hm)
    · cases hv
  rw [groupRecords, hv]
  dsimp only
  rw [ho, verifyOrder_eq_error hb ungrouped]

theorem ofRecords_eq_error {select : List SelectItem} {slots : List Slot}
    {extras rest : List Operand} (hi : Layout.ofItems t Layout.noCalls select = .ok slots)
    (hb : ∀ x ∈ extras, ∃ s, Layout.ofOperand t Layout.noCalls x = .ok s)
    (hn : Text.lower name ∉ t.columns) :
    Rows.ofRecords t select (extras ++ .column (Text.lower name) :: rest) records =
      .error (.unknownColumn (Text.lower name) t) := by
  have unknown : Layout.ofOperand t Layout.noCalls (.column (Text.lower name)) =
      .error (.unknownColumn (Text.lower name) t) := by
    have none : t.column? (Text.lower name) = none := by
      rw [Option.eq_none_iff_forall_ne_some]
      intro c hc
      obtain ⟨rfl, hm⟩ := Table.column?_eq_some_iff.1 hc
      exact hn (Text.lower_lower name ▸ hm)
    rw [Layout.ofOperand, column, none]
  rw [Rows.ofRecords, Layout.build, hi]
  dsimp only
  rw [Layout.carry_eq_error hb unknown]

/-- The rows of a plan whose order has a name that stands for nothing are refused, if those of the
plan without its order are not. -/
theorem convert_eq_error {d : Direction} {before after : List OrderItem}
    (hs : Scope.ofPlan p = .ok s)
    (ho : p.orderBy = some (before ++ ⟨.column name, d⟩ :: after)) (hu : p.Unknown t name)
    (hb : ∀ item ∈ before, p.Orderable t item.expr)
    (hrows : convert { s with plan := p.unordered } t .empty records = .ok rows) :
    (p.Grouped →
      convert s t (s.order t) records = .error (.ungroupedOrder (Text.lower name))) ∧
    (¬p.Grouped →
      convert s t (s.order t) records = .error (.unknownColumn (Text.lower name) t)) := by
  have extras {onCall slots} (hi : Layout.ofItems t onCall p.projection = .ok slots) :=
    Scope.extras_order hs ho hu (hu.not_mem_columns (Layout.known_of_ofItems hi)) hb
  have hp : s.plan = p := Scope.plan_of_ofPlan hs
  have isGrouped : Scope.isGrouped { s with plan := p.unordered } = s.isGrouped := by
    rw [← hp]
    rfl
  have groupBy : Scope.groupBy { s with plan := p.unordered } = s.groupBy := by
    rw [← hp]
    rfl
  have columns : s.groupBy.getD [] = p.groupColumns := Scope.getD_groupBy hs
  rw [convert, isGrouped] at hrows
  rw [convert]
  constructor
  · intro hg
    rw [if_pos (hg.isGrouped hs)] at hrows ⊢
    obtain ⟨slots, hi⟩ := ofItems_of_groupRecords hrows
    obtain ⟨carried, rest, he, hcarried⟩ := extras hi
    have hv : verifyColumns t (s.groupBy.getD []) s.plan.projection = .ok () := by
      rw [hp, ← groupBy]
      exact verifyColumns_of_groupRecords hrows
    exact groupRecords_eq_error hv he
      (fun c hc ↦ columns ▸ (hcarried _ hc).mem_columns.2.2 hg) hu.column
  · intro hg
    rw [if_neg fun h ↦ hg (Plan.grouped_of_isGrouped hs h)] at hrows ⊢
    rw [hp]
    split at hrows
    · cases hrows
    · next hh =>
      obtain ⟨slots, hi⟩ := ofItems_of_ofRecords hrows
      obtain ⟨carried, rest, he, hcarried⟩ := extras hi
      have hh : ¬p.having.isSome = true := hh
      rw [if_neg hh, he]
      refine ofRecords_eq_error hi (fun x hx ↦ ?_) hu.column
      cases hcarried x hx with
      | column known _ =>
        exact ⟨_, by rw [Layout.ofOperand, column_eq_ok_iff.2 ⟨Text.lower_lower _, known⟩]⟩
      | call grouped => exact absurd grouped hg

end Refused

/-- A name that stands for nothing, after entries that rows can be ordered by, makes a query fail
that gives a result without its order.  Where rows stand for records it is reported as an unknown
column; where they stand for groups it is reported as a column that is not grouped by. -/
theorem run_unknown_order {σ : Type} {c : Client σ} {p : Plan} {state state' : σ}
    {result : ResultSet} {t : Table} {name : String} {d : Direction} {before after : List OrderItem}
    (ht : Table.ofName? p.table = some t)
    (ho : p.orderBy = some (before ++ ⟨.column name, d⟩ :: after)) (hu : p.Unknown t name)
    (hb : ∀ item ∈ before, p.Orderable t item.expr)
    (hr : run c p.unordered state = (.ok result, state')) :
    (p.Grouped → run c p state = (.error (.ungroupedOrder (Text.lower name)), state')) ∧
      (¬p.Grouped → run c p state = (.error (.unknownColumn (Text.lower name) t), state')) := by
  obtain ⟨s, t', records, rows, hs, ht', hrows, hrun⟩ := run_eq_finish hr
  obtain rfl := Option.some_inj.1 (ht.symm.trans ht')
  obtain ⟨grouped, ungrouped⟩ := convert_eq_error hs ho hu hb hrows
  rw [hrun, finish]
  exact ⟨fun hg ↦ by rw [grouped hg], fun hg ↦ by rw [ungrouped hg]⟩

/-- The transactions of a block by what they may use, ordered by a name that stands for nothing. -/
def misordered (groupBy : Option (List String)) : Plan where
  projection := [⟨.column "Gas", some "Bound"⟩]
  table := "Transactions"
  selection := some (.equals "blocknumber" "2")
  groupBy := groupBy
  having := none
  orderBy := some [⟨.column "BOUND", .asc⟩, ⟨.column "Fee", .desc⟩]
  limit := none

theorem unknown_misordered (groupBy : Option (List String)) :
    (misordered groupBy).Unknown .transactions "Fee" where
  unbound := fun item hi ↦ by rw [List.mem_singleton.1 hi]; rfl
  column := by decide
  aggregate := by simp [misordered]

theorem run_unknown_order_misordered :
    (∃ l, run Ledger.client (misordered (some ["gas"])) (Ledger.ofBlocks twoBlocks) =
      (.error (.ungroupedOrder "fee"), l)) ∧
    (∃ l, run Ledger.client (misordered none) (Ledger.ofBlocks twoBlocks) =
      (.error (.unknownColumn "fee" .transactions), l)) := by
  have fee : Text.lower "Fee" = "fee" := by decide +kernel
  have orderable (groupBy) :
      ∀ item ∈ [(⟨.column "BOUND", .asc⟩ : OrderItem)],
        (misordered groupBy).Orderable .transactions item.expr := by
    intro item hi
    rw [List.mem_singleton.1 hi]
    exact .bound List.mem_cons_self (by decide +kernel)
  have ok (groupBy) (h : groupBy = some ["gas"] ∨ groupBy = none) :
      (run Ledger.client (misordered groupBy).unordered
        (Ledger.ofBlocks twoBlocks)).1.toOption.map (fun r ↦ r.columns) = some ["gas"] := by
    rcases h with rfl | rfl <;> decide +kernel
  constructor
  · obtain ⟨_, l, hr, -⟩ := exists_run_eq_ok (ok _ (.inl rfl))
    exact ⟨l, fee ▸ (run_unknown_order rfl rfl (unknown_misordered _) (orderable _) hr).1
      (.inl rfl)⟩
  · obtain ⟨_, l, hr, -⟩ := exists_run_eq_ok (ok _ (.inr rfl))
    refine ⟨l, fee ▸ (run_unknown_order rfl rfl (unknown_misordered _) (orderable _) hr).2 ?_⟩
    simp [Plan.Grouped, misordered]

end LedgerQuery.Query
