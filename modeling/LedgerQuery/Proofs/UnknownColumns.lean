import LedgerQuery.Proofs.Materialized

/-!
# Columns that do not exist

Every column that a run looks up is either one that it put in place itself, and then it is there
(`Materialized`), or one that the plan names, and then the name is looked up before anything is
computed from it.  So the only unknown columns that are ever reported are names written in the plan
(`run_columns_found`).  What may be reported once the records are there is said by `Fault`, and that
nothing else is by `Reports`, with one lemma for each function of the run.  The steps that make rows
report errors of any kind that has those of aggregates in it, and those of the names sought
(`Throws`).
-/

namespace LedgerQuery.Query

open Chain
open Node (Client Ledger twoBlocks)

/-! ## Names written in a plan -/

def Argument.names : Argument → List String
  | .column name => [name]
  | .star => []

def Selected.names : Selected → List String
  | .column name => [name]
  | .call c => c.argument.names
  | .star => []

def Operand.names : Operand → List String
  | .column name => [name]
  | .call c => c.argument.names

/-- The names that a plan has for columns: in its select list, in what it groups by and orders by,
in its condition on groups, and in the arguments of calls in these. -/
def Plan.names (p : Plan) : List String :=
  p.projection.flatMap (·.expr.names) ++ (p.groupBy.getD [] ++ p.operands.flatMap Operand.names)

/-- Names that are among others, up to case. -/
def Within (names others : List String) : Prop := names.map Text.lower ⊆ others.map Text.lower

namespace Within

variable {names names' others : List String}

theorem of_subset (h : names ⊆ others) : Within names others := List.map_subset _ h

theorem flatMap {α : Type} {f : α → List String} {as : List α}
    (h : ∀ a ∈ as, Within (f a) others) : Within (as.flatMap f) others := by
  intro column hc
  obtain ⟨name, hn, rfl⟩ := List.mem_map.1 hc
  obtain ⟨a, ha, hn⟩ := List.mem_flatMap.1 hn
  exact h a ha (List.mem_map_of_mem hn)

theorem left (names others : List String) : Within names (names ++ others) :=
  of_subset (List.subset_append_left _ _)

theorem right (names others : List String) : Within others (names ++ others) :=
  of_subset (List.subset_append_right _ _)

theorem trans (h : Within names names') (h' : Within names' others) : Within names others :=
  List.Subset.trans h h'

theorem lower (name : String) : Within [Text.lower name] [name] := by
  rw [Within, List.map_singleton, Text.lower_lower]
  exact List.Subset.refl _

end Within

/-! ## What a step may report -/

/-- The column that an error reports as unknown. -/
def Error.unknown? : Error → Option String
  | .unknownColumn column _ => some column
  | _ => none

/-- An outcome that reports no unknown columns but those of a table that have one of some names, up
to case. -/
def Blames {α : Type} (t : Table) (names : List String) (x : Except Error α) : Prop :=
  ∀ column t', x = .error (.unknownColumn column t') →
    t' = t ∧ Text.lower column ∉ t.columns ∧ Text.lower column ∈ names.map Text.lower

namespace Blames

variable {α β : Type} {t : Table} {names : List String} {x : Except Error α}

theorem ok (a : α) : Blames t names (.ok a) := by
  intro column t' h
  cases h

/-- An error that is not about an unknown column blames no name. -/
theorem silent {e : Error} (h : e.unknown? = none) :
    Blames t names (.error e : Except Error α) := by
  intro column t' he
  cases he
  cases h

/-- What is reported stays the same when it is passed on. -/
theorem error {e : Error} (h : Blames t names x) (hx : x = .error e) :
    Blames t names (.error e : Except Error β) := by
  intro column t' he
  cases he
  exact h column t' hx

end Blames

/-- What may be reported of the records of a table once they are there: an unknown column that has
one of some names, up to case, or that something is asked for that the rows cannot give. -/
inductive Fault (t : Table) (names : List String) : Error → Prop
  | unknownColumn {column : String} (unknown : Text.lower column ∉ t.columns)
      (named : Text.lower column ∈ names.map Text.lower) : Fault t names (.unknownColumn column t)
  | ungroupedColumn (name : String) : Fault t names (.ungroupedColumn name)
  | ungroupedOrder (name : String) : Fault t names (.ungroupedOrder name)
  | unsupportedFunction (call : String) : Fault t names (.unsupportedFunction call)
  | aggregateOutsideGroup (call : String) : Fault t names (.aggregateOutsideGroup call)
  | havingOutsideGroup : Fault t names .havingOutsideGroup
  | sumOverflow (column : String) : Fault t names (.sumOverflow column)
  | notNumeric (column : String) : Fault t names (.notNumeric column)

/-- A fault under some names is one under more names. -/
theorem Fault.mono {t : Table} {names others : List String} {e : Error} (h : Fault t names e)
    (hn : Within names others) : Fault t others e := by
  cases h with
  | unknownColumn unknown named => exact .unknownColumn unknown (hn named)
  | _ => constructor

/-- An outcome that reports nothing else. -/
def Reports {α : Type} (t : Table) (names : List String) (x : Except Error α) : Prop :=
  ∀ e, x = .error e → Fault t names e

namespace Reports

variable {α β : Type} {t : Table} {names others : List String} {x : Except Error α}

theorem ok (a : α) : Reports t names (.ok a) := Throws.ok a

theorem fault {e : Error} (h : Fault t names e) : Reports t names (.error e : Except Error α) :=
  Throws.fault h

/-- What is reported of some names is reported of more names. -/
theorem mono (h : Reports t names x) (hn : Within names others) : Reports t others x :=
  fun e he ↦ (h e he).mono hn

/-- An error that is passed on still is about the names that it was about. -/
theorem error {e : Error} (h : Reports t names x) (hx : x = .error e) :
    Reports t names (.error e : Except Error β) :=
  Throws.error h hx

/-- Unknown columns are reported under some of the names only. -/
theorem blames (h : Reports t names x) : Blames t names x := by
  intro column t' hx
  cases h _ hx with
  | unknownColumn unknown named => exact ⟨rfl, unknown, named⟩

end Reports

section Steps

variable {t : Table} {names : List String} {kind : Error → Prop}

/-- Looking up a column reports its name, if anything. -/
theorem reports_column (name : String) : Reports t [name] (column t name) := by
  rw [column]
  split
  · exact .ok _
  · next none =>
    refine .fault (.unknownColumn (fun known ↦ ?_) (List.mem_singleton_self _))
    cases none.symm.trans (Table.column?_eq_some_iff.2 ⟨rfl, known⟩)

/-- Names whose columns are there, or are reported by an error of some kind. -/
def Sought (kind : Error → Prop) (t : Table) (names : List String) : Prop :=
  ∀ name ∈ names, Throws kind (column t name)

theorem Sought.of_subset {names' : List String} (h : Sought kind t names) (hn : names' ⊆ names) :
    Sought kind t names' :=
  fun name hname ↦ h name (hn hname)

/-- Names that are among others are reported under these, if their columns are not there. -/
theorem sought_of_within {names' : List String} (h : Within names' names) :
    Sought (Fault t names) t names' := by
  intro name hn
  refine (reports_column name).mono (Within.trans (.of_subset ?_) h)
  exact List.cons_subset.2 ⟨hn, List.nil_subset _⟩

/-! ## Aggregates -/

theorem Fault.ofAggregates (t : Table) (names : List String) : OfAggregates (Fault t names) :=
  ⟨.unsupportedFunction, .sumOverflow, .notNumeric⟩

/-- A call is refused for its function, or as its argument is when it is looked up. -/
theorem OfAggregates.ofCall (hk : OfAggregates kind) {c : Call}
    (h : Sought kind t c.argument.names) :
    Throws kind (Aggregate.ofCall t c) := by
  rw [Aggregate.ofCall]
  split
  · exact .fault (hk.unsupportedFunction _)
  · exact .ok _
  · exact .fault (hk.unsupportedFunction _)
  · next name _ hx =>
    rw [hx] at h
    split
    · exact .ok _
    · next refused => exact (h name (List.mem_singleton_self _)).error refused

/-! ## Layouts -/

namespace Layout

variable {onCall : OnCall}

theorem throws_noCalls (h : ∀ call, kind (.aggregateOutsideGroup call)) (c : Call) :
    Throws kind (noCalls c) := by
  rw [noCalls]
  exact .fault (h _)

section

variable (hc : ∀ c, Sought kind t c.argument.names → Throws kind (onCall c))
include hc

/-- An entry of a select list is refused as its names are when they are looked up, or as its call
is. -/
theorem throws_ofItem {item : SelectItem} (h : Sought kind t item.expr.names) :
    Throws kind (ofItem t onCall item) := by
  rw [ofItem]
  split
  · next name hx =>
    rw [hx] at h
    split
    · exact .ok _
    · next refused => exact (h name (List.mem_singleton_self _)).error refused
  · exact .ok _
  · next c hx =>
    rw [hx] at h
    split
    · exact .ok _
    · next refused => exact (hc c h).error refused

/-- A select list is refused as its names are, or as its calls are. -/
theorem throws_ofItems {items : List SelectItem}
    (h : Sought kind t (items.flatMap (·.expr.names))) :
    Throws kind (ofItems t onCall items) := by
  induction items with
  | nil => exact .ok _
  | cons item items ih =>
    rw [List.flatMap_cons] at h
    rw [ofItems]
    split
    · next refused =>
      exact (throws_ofItem hc (h.of_subset (List.subset_append_left _ _))).error refused
    · split
      · exact .ok _
      · next refused => exact (ih (h.of_subset (List.subset_append_right _ _))).error refused

theorem throws_ofOperand {x : Operand} (h : Sought kind t x.names) :
    Throws kind (ofOperand t onCall x) := by
  cases x with
  | column name =>
    rw [ofOperand]
    split
    · exact .ok _
    · next refused => exact (h name (List.mem_singleton_self _)).error refused
  | call c =>
    rw [ofOperand]
    split
    · exact .ok _
    · next refused => exact (hc c h).error refused

/-- Operands that are carried along are refused as their names are, or as their calls are. -/
theorem throws_carry {slots : List Slot} {xs : List Operand}
    (h : Sought kind t (xs.flatMap Operand.names)) : Throws kind (carry t onCall slots xs) := by
  induction xs generalizing slots with
  | nil => exact .ok _
  | cons x xs ih =>
    rw [List.flatMap_cons] at h
    have rest : Sought kind t (xs.flatMap Operand.names) :=
      h.of_subset (List.subset_append_right _ _)
    rw [carry]
    split
    · next refused =>
      exact (throws_ofOperand hc (h.of_subset (List.subset_append_left _ _))).error refused
    · split <;> exact ih rest

/-- A layout is refused as the names in it are, or as its calls are. -/
theorem throws_build {select : List SelectItem} {extras : List Operand}
    (hs : Sought kind t (select.flatMap (·.expr.names)))
    (hx : Sought kind t (extras.flatMap Operand.names)) :
    Throws kind (build t onCall select extras) := by
  rw [build]
  split
  · next refused => exact (throws_ofItems hc hs).error refused
  · split
    · next refused => exact (throws_carry hc hx).error refused
    · exact .ok _

end

end Layout

/-! ## Rows -/

/-- Rows of records report names in the select list and in what is carried along. -/
theorem Rows.reports_ofRecords {select : List SelectItem} {extras : List Operand}
    (hs : Within (select.flatMap (·.expr.names)) names)
    (hx : Within (extras.flatMap Operand.names) names) (records : List Record) :
    Reports t names (ofRecords t select extras records) := by
  have layout : Throws (Fault t names) (Layout.build t Layout.noCalls select extras) :=
    Layout.throws_build (fun c _ ↦ Layout.throws_noCalls .aggregateOutsideGroup c)
      (sought_of_within hs) (sought_of_within hx)
  rw [ofRecords]
  split
  · next h => exact Reports.error layout h
  · exact .ok _

/-- A condition on groups reports nothing, as its column is in the layout. -/
theorem Rows.throws_ofGroups (hk : OfAggregates kind) {select : List SelectItem}
    {groupBy : List String} {extras : List Operand} {having : Option GroupFilter}
    (records : List Record) (hs : Sought kind t (select.flatMap (·.expr.names)))
    (hx : Sought kind t (extras.flatMap Operand.names))
    (hc : ∀ l, Layout.build t (Aggregate.ofCall t) select extras = .ok l →
      ∀ f ∈ having, f.column ∈ l.slots.map Slot.column) :
    Throws kind (ofGroups t select groupBy extras having records) := by
  rw [ofGroups]
  split
  · next h => exact (Layout.throws_build (fun _ ↦ hk.ofCall) hs hx).error h
  · next l hl =>
    have condition : Throws kind (having.mapM (filterPosition t l.slots)) := by
      cases having with
      | none => exact .ok _
      | some f =>
        obtain ⟨i, -, found⟩ := filterPosition_of_mem (t := t) (hc l hl f rfl)
        exact Throws.bind (found ▸ .ok _) fun _ ↦ .ok _
    split
    · next h => exact condition.error h
    · split
      · next h =>
        have rows : Throws kind ((groups groupBy records).mapM (groupRow l.slots)) :=
          .mapM (throws_groupRow hk l.slots)
        exact rows.error h
      · exact .ok _

/-! ## Checks -/

/-- The columns that are grouped by report themselves. -/
theorem reports_checkGroupColumns (groupBy : List String) :
    Reports t groupBy (checkGroupColumns t groupBy) := by
  induction groupBy with
  | nil => exact .ok _
  | cons c cs ih =>
    rw [checkGroupColumns]
    split
    · exact ih.mono (.of_subset (List.subset_cons_self c cs))
    · next h =>
      refine ((reports_column c).error h).mono (.of_subset ?_)
      exact List.cons_subset_cons c (List.nil_subset cs)

/-- The check of what is selected reports what it names. -/
theorem reports_checkSelected (groupBy : List String) (x : Selected) :
    Reports t x.names (checkSelected t groupBy x) := by
  cases x with
  | column name =>
    rw [checkSelected]
    split
    · next h => exact (reports_column name).error h
    · split
      · exact .ok _
      · exact .fault (.ungroupedColumn _)
  | star =>
    rw [checkSelected]
    split
    · exact .fault (.ungroupedColumn _)
    · exact .ok _
  | call c => exact .ok _

theorem reports_checkSelect (groupBy : List String) (items : List SelectItem) :
    Reports t (items.flatMap (·.expr.names)) (checkSelect t groupBy items) := by
  induction items with
  | nil => exact .ok _
  | cons item items ih =>
    rw [checkSelect, List.flatMap_cons]
    split
    · exact ih.mono (.right _ _)
    · next h =>
      exact ((reports_checkSelected groupBy item.expr).error h).mono (.left _ _)

/-- The checks of a select list report names in it and what is grouped by. -/
theorem reports_verifyColumns {groupBy : List String} {select : List SelectItem}
    (hg : Within groupBy names) (hs : Within (select.flatMap (·.expr.names)) names) :
    Reports t names (verifyColumns t groupBy select) := by
  rw [verifyColumns]
  split
  · exact (reports_checkSelect groupBy select).mono hs
  · next h => exact ((reports_checkGroupColumns groupBy).error h).mono hg

/-- The check of an order finds operands that are not grouped by, and no unknown column. -/
theorem reports_verifyOrder (groupBy : List String) (xs : List Operand) :
    Reports t names (verifyOrder groupBy xs) := by
  induction xs with
  | nil => exact .ok _
  | cons x xs ih =>
    cases x with
    | column name =>
      rw [verifyOrder]
      split
      · exact ih
      · exact .fault (.ungroupedOrder _)
    | call c => exact ih

end Steps

/-! ## Plans -/

section Plans

variable {p : Plan} {s : Scope} {t : Table}

theorem Plan.within_select (p : Plan) : Within (p.projection.flatMap (·.expr.names)) p.names :=
  .left _ _

theorem Plan.within_groupColumns (p : Plan) : Within p.groupColumns p.names := by
  have lowered : p.groupColumns.map Text.lower = (p.groupBy.getD []).map Text.lower := by
    rw [groupColumns, List.map_map]
    exact List.map_congr_left fun c _ ↦ Text.lower_lower c
  have written : Within p.groupColumns (p.groupBy.getD []) := by
    rw [Within, lowered]
    exact List.Subset.refl _
  exact written.trans ((Within.left _ _).trans (.right _ _))

/-- What a plan is ordered by and keeps groups by is named in it. -/
theorem Plan.within_operand {x : Operand} (h : x ∈ p.operands) : Within x.names p.names := by
  refine .of_subset fun name hn ↦ ?_
  exact List.mem_append_right _ (List.mem_append_right _ (List.mem_flatMap.2 ⟨x, h, hn⟩))

/-- What is carried along for the order has names that are written in it. -/
theorem Scope.within_extras (hs : ofPlan p = .ok s) :
    ∀ x ∈ (s.order t).extras, Within x.names p.names := by
  intro x hx
  rw [order, plan_of_ofPlan hs] at hx
  obtain ⟨item, hi, -, unbound, rfl⟩ := Order.mem_extras hx
  have written := Plan.within_operand (Plan.mem_operands_of_orderBy hi)
  have unbound := (has_aliases_eq_false_iff hs).1 unbound
  rw [resolve_of_not_binds hs unbound]
  cases hx : item.expr with
  | call c =>
    rw [hx] at written
    exact written
  | column name =>
    rw [hx] at written
    exact (Within.lower name).trans written

/-- A condition on groups reports the name of its target alone. -/
theorem reports_havingFilter (hs : Scope.ofPlan p = .ok s) (h : Having) :
    Reports t h.target.names (havingFilter s t h) := by
  have targets : Targets p t h.target (havingExtra s t h.target (s.resolve h.target.name)) :=
    targets_havingExtra hs h.target
  rw [havingFilter]
  split
  · exact .ok _
  · next e he =>
    rw [he] at targets
    generalize h.target = target at targets ⊢
    cases targets with
    | unknown refused => exact ((reports_column _).error refused).mono (.lower _)
    | ungrouped => exact .fault (.ungroupedColumn _)

/-- The checks of a plan with groups report names in the plan alone. -/
theorem reports_groupArguments (hs : Scope.ofPlan p = .ok s) (order : Order) :
    Reports t p.names (groupArguments s t order) := by
  rw [groupArguments, Scope.getD_groupBy hs, Scope.plan_of_ofPlan hs]
  split
  · next h => exact (reports_verifyColumns p.within_groupColumns p.within_select).error h
  · split
    · next h =>
      have ordered : Reports t p.names (verifyOrder p.groupColumns order.extras) :=
        reports_verifyOrder _ _
      exact ordered.error h
    · split
      · exact .ok _
      · next having hhaving =>
        split
        · next h =>
          have written := Plan.within_operand (Plan.mem_operands_of_having hhaving)
          exact ((reports_havingFilter hs having).error h).mono written
        · exact .ok _

/-- What is carried along for the condition on groups has the names of its target. -/
theorem within_havingFilter (hs : Scope.ofPlan p = .ok s) {h : Having} {f : GroupFilter}
    {x : Operand} (hf : havingFilter s t h = .ok (f, some x)) :
    Within x.names h.target.names := by
  have targets := targets_of_havingFilter hs hf
  generalize h.target = target at targets ⊢
  cases targets with
  | call _ => exact .of_subset (List.Subset.refl _)
  | column _ => exact .lower _

/-- What is carried along for a plan with groups is named in the plan. -/
theorem within_groupArguments (hs : Scope.ofPlan p = .ok s) {extras : List Operand}
    {having : Option GroupFilter} (h : groupArguments s t (s.order t) = .ok (extras, having)) :
    Within (extras.flatMap Operand.names) p.names := by
  refine .flatMap fun x hx ↦ ?_
  obtain ⟨-, -, ⟨rfl, -⟩ | ⟨clause, hclause, f, extra, hf, rfl, -⟩⟩ := groupArguments_eq_ok h
  · exact Scope.within_extras hs x hx
  · obtain hx | rfl := mem_addExtra hx
    · exact Scope.within_extras hs x hx
    · rw [Scope.plan_of_ofPlan hs] at hclause
      exact (within_havingFilter hs hf).trans
        (Plan.within_operand (Plan.mem_operands_of_having hclause))

/-- Making rows of records reports names in the plan alone. -/
theorem reports_convert (hs : Scope.ofPlan p = .ok s) (records : List Record) :
    Reports t p.names (convert s t (s.order t) records) := by
  have select : Within (s.plan.projection.flatMap (·.expr.names)) p.names := by
    rw [Scope.plan_of_ofPlan hs]
    exact p.within_select
  rw [convert]
  split
  · rw [groupRecords_eq]
    split
    · next h => exact (reports_groupArguments hs _).error h
    · next extras having h =>
      exact Rows.throws_ofGroups (Fault.ofAggregates t p.names) records (sought_of_within select)
        (sought_of_within (within_groupArguments hs h)) fun l hl ↦ mem_of_condition hs h hl
  · split
    · exact .fault .havingOutsideGroup
    · exact Rows.reports_ofRecords select (.flatMap (Scope.within_extras hs)) records

/-- The last steps of a plan report names in the plan alone. -/
theorem reports_finish (hs : Scope.ofPlan p = .ok s) (records : List Record) :
    Reports t p.names (finish s t records) := by
  rw [finish]
  split
  · next h => exact (reports_convert hs records).error h
  · next rows hrows =>
    obtain ⟨r, hr⟩ := (orderRead_of_convert hs hrows).ordered
    rw [hr]
    exact .ok _

/-! ## Runs -/

theorem blames_finish (hs : Scope.ofPlan p = .ok s) (records : List Record) :
    Blames t p.names (finish s t records) :=
  (reports_finish hs records).blames

/-- A lookup is never refused for an unknown column. -/
theorem blames_lookup (column literal : String) (names : List String) :
    Blames t names (lookup t column literal) := by
  obtain ⟨l, -, h⟩ | ⟨-, -, h⟩ | ⟨-, -, h⟩ := lookup_cases t column literal
  · exact h ▸ .ok l
  · exact h ▸ .silent rfl
  · exact h ▸ .silent rfl

/-- Conditions on records report no unknown columns. -/
theorem blames_evaluate {σ : Type} (c : Client σ) (predicate : Predicate) (names : List String)
    (state : σ) : Blames t names (evaluate c t predicate state).1 := by
  induction predicate using evaluate.induct generalizing state with
  | case1 column literal =>
    rw [evaluate_equals]
    cases h : lookup t column literal with
    | error e => exact (blames_lookup column literal names).error h
    | ok l =>
      dsimp only
      rw [fetch]
      rcases c l state with ⟨f | a, state'⟩
      · exact .silent rfl
      · exact .ok _
  | case2 op p q ihp ihq =>
    rw [evaluate_pair]
    rcases hp : evaluate c t p state with ⟨e | first, state₁⟩
    · have first := ihp state
      rw [hp] at first
      exact first.error rfl
    · dsimp only
      rcases hq : evaluate c t q state₁ with ⟨e | second, state₂⟩
      · have second := ihq state₁
        rw [hq] at second
        exact second.error rfl
      · exact .ok _
  | case3 op ps hps =>
    rw [evaluate_arity hps]
    exact .silent rfl

theorem blames_bindAliases (aliases : List (String × String)) (items : List SelectItem)
    (names : List String) : Blames t names (Scope.bindAliases aliases items) := by
  induction items generalizing aliases with
  | nil => exact .ok _
  | cons item items ih =>
    rw [Scope.bindAliases]
    split
    · dsimp only
      split
      · exact .silent rfl
      · exact ih _
    · exact ih _

/-- Nothing is reported as an unknown column before records are fetched. -/
theorem blames_prepare (p : Plan) (names : List String) : Blames t names (prepare p) := by
  have scope : Blames t names (Scope.ofPlan p) := by
    rw [Scope.ofPlan]
    split
    · exact .ok _
    · next h => exact (blames_bindAliases [] p.projection names).error h
  rw [prepare]
  split
  · next h => exact scope.error h
  · split
    · exact .silent rfl
    · split
      · exact .silent rfl
      · exact .ok _

end Plans

/-- In every run all columns that rows are made from, ordered by and kept by are there once they are
looked up.  An unknown column is only ever reported under a name that is written in the plan and
that is no column of the table. -/
theorem run_columns_found {σ : Type} (c : Client σ) (p : Plan) (state : σ) :
    (∀ s t predicate records state', prepare p = .ok (s, t, predicate) →
      evaluate c t predicate state = (.ok records, state') → Materialized s t records) ∧
    (∀ column t state', run c p state = (.error (.unknownColumn column t), state') →
      Table.ofName? p.table = some t ∧ Text.lower column ∉ t.columns ∧
        ∃ name ∈ p.names, Text.lower name = Text.lower column) := by
  constructor
  · intro s t predicate records state' hp he
    exact materialized_of_evaluate (prepare_eq_ok_iff.1 hp).1 he
  · intro column t state' hr
    rw [run_eq] at hr
    split at hr
    · next e he =>
      cases hr
      obtain ⟨-, -, named⟩ := blames_prepare (t := t) p [] column t he
      cases named
    · next s t' predicate hp =>
      obtain ⟨hs, ht, -⟩ := prepare_eq_ok_iff.1 hp
      rcases he : evaluate c t' predicate state with ⟨e | records, state₁⟩
      · rw [he] at hr
        cases hr
        have silent : Blames t' [] (evaluate c t' predicate state).1 :=
          blames_evaluate c predicate [] state
        -- No name is among none.
        obtain ⟨-, -, named⟩ := silent column t (congrArg Prod.fst he)
        cases named
      · rw [he] at hr
        obtain ⟨hf, rfl⟩ := Prod.mk.inj hr
        obtain ⟨rfl, unknown, named⟩ := blames_finish hs records column t hf
        exact ⟨ht, unknown, List.mem_map.1 named⟩

/-- Rows that carry along what they are ordered by and what they are kept by, and a name that is
refused. -/
theorem run_columns_found_twoBlocks :
    (∃ s t records rows, Scope.ofPlan latestCount = .ok s ∧ Materialized s t records ∧
      convert s t (s.order t) records = .ok rows ∧
      rows.columns = ["blocknumber", "count(*)", "sum(nonce)", "max(blocknumber)"] ∧
      OrderRead (ResultSet.ofRows t rows s.aliases) (s.order t).keys) ∧
    (∃ l, run Ledger.client (misordered none) (Ledger.ofBlocks twoBlocks) =
        (.error (.unknownColumn "fee" .transactions), l) ∧
      Text.lower "fee" ∉ Table.transactions.columns ∧
      ∃ name ∈ ["Gas", "BOUND", "Fee"], Text.lower name = Text.lower "fee") := by
  constructor
  · have shown : ((prepare latestCount).toOption.bind fun q ↦
        (evaluate Ledger.client q.2.1 q.2.2 (Ledger.ofBlocks twoBlocks)).1.toOption.bind
          fun records ↦
          (convert q.1 q.2.1 (q.1.order q.2.1) records).toOption.map Rows.columns) =
        some ["blocknumber", "count(*)", "sum(nonce)", "max(blocknumber)"] := by decide +kernel
    obtain ⟨⟨s, t, predicate⟩, hp, shown⟩ := Option.bind_eq_some_iff.1 shown
    obtain ⟨records, he, shown⟩ := Option.bind_eq_some_iff.1 shown
    obtain ⟨rows, hrows, columns⟩ := Option.map_eq_some_iff.1 shown
    have hp : prepare latestCount = .ok (s, t, predicate) := eq_ok_of_toOption hp
    have materialized :=
      (run_columns_found Ledger.client latestCount _).1 s t predicate records _ hp
      (Prod.ext (eq_ok_of_toOption he) rfl)
    have hrows := eq_ok_of_toOption hrows
    exact ⟨s, t, records, rows, (prepare_eq_ok_iff.1 hp).1, materialized, hrows, columns,
      materialized.ordered rows hrows⟩
  · have failed : (run Ledger.client (misordered none) (Ledger.ofBlocks twoBlocks)).1 =
        .error (.unknownColumn "fee" .transactions) := by decide +kernel
    have hr : run Ledger.client (misordered none) (Ledger.ofBlocks twoBlocks) =
        (.error (.unknownColumn "fee" .transactions),
          (run Ledger.client (misordered none) (Ledger.ofBlocks twoBlocks)).2) :=
      Prod.ext failed rfl
    obtain ⟨-, unknown, named⟩ :=
      (run_columns_found Ledger.client (misordered none) _).2 "fee" .transactions _ hr
    exact ⟨_, hr, unknown, named⟩

end LedgerQuery.Query
