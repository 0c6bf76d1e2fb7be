import LedgerQuery.Proofs.UnknownColumns
import LedgerQuery.Proofs.UnknownOrder

/-!
# Which plans are refused for what they group by

A plan reads plain columns in its select list, in what its rows are ordered by and in its condition
on groups (`Plan.reads`).  The checks before its groups are made refuse it for the first of these
that is not grouped by, and for no other reason (`checks_groupArguments`), although aliases and
selected columns are not looked at a second time: what they stand for is read in the select list
already (`Plan.exists_read_of_mem_columns`).  So all that a plan reads which is not refused is the
same in all records of a group (`groupRecords_mismatch`).
-/

namespace LedgerQuery.Query

open Chain

/-! ## Reads -/

/-- An error that says that a column is not grouped by. -/
inductive Error.Mismatch : Error → Prop
  | projection (name : String) : Mismatch (.ungroupedColumn name)
  | order (name : String) : Mismatch (.ungroupedOrder name)

/-- A plain column that is read outside of aggregates, and the error that refuses it. -/
structure PlainRead where
  column : String
  refusal : Error
deriving DecidableEq, Repr

/-- What an entry of the select list reads; `*` reads all columns in their order. -/
def Selected.reads (t : Table) : Selected → List PlainRead
  | .column name => [⟨Text.lower name, .ungroupedColumn name⟩]
  | .star => t.columns.map fun c ↦ ⟨c, .ungroupedColumn c⟩
  | .call _ => []

/-- What an operand reads: the column that its name stands for, if this is one of the table and not
an aggregate. -/
def Plan.readsOf (p : Plan) (t : Table) (refuse : String → Error) : Operand → List PlainRead
  | .column name =>
    if p.resolved name ∈ t.columns then [⟨p.resolved name, refuse (p.resolved name)⟩] else []
  | .call _ => []

def Plan.selectReads (p : Plan) (t : Table) : List PlainRead :=
  p.projection.flatMap (·.expr.reads t)

def Plan.orderReads (p : Plan) (t : Table) (items : List OrderItem) : List PlainRead :=
  items.flatMap fun item ↦ p.readsOf t .ungroupedOrder item.expr

/-- What a plan reads: what it selects, what its rows are ordered by, and what its groups are kept
by. -/
def Plan.reads (p : Plan) (t : Table) : List PlainRead :=
  p.selectReads t ++ (p.orderReads t (p.orderBy.getD []) ++
    p.having.toList.flatMap fun h ↦ p.readsOf t .ungroupedColumn h.target)

/-- The first of some reads that is not of a column grouped by. -/
def firstUngrouped (groupBy : List String) (reads : List PlainRead) : Option PlainRead :=
  reads.find? fun r ↦ r.column ∉ groupBy

/-- What a check of some reads, one after the other, comes to. -/
def checkReads (groupBy : List String) (reads : List PlainRead) : Except Error Unit :=
  match firstUngrouped groupBy reads with
  | some r => .error r.refusal
  | none => .ok ()

/-- A plan whose plain names all stand for something. -/
structure Plan.Named (p : Plan) (t : Table) : Prop where
  selected : ∀ item ∈ p.projection, ∀ name, item.expr = .column name → Text.lower name ∈ t.columns
  grouped : ∀ column ∈ p.groupColumns, column ∈ t.columns
  operands : ∀ name, .column name ∈ p.operands →
    (∃ item ∈ p.projection, item.binds name = true) ∨ Text.lower name ∈ t.columns

section CheckReads

variable {groupBy : List String} {reads reads' : List PlainRead} {e : Error}

theorem checkReads_append (groupBy : List String) (reads reads' : List PlainRead) :
    checkReads groupBy (reads ++ reads') =
      match checkReads groupBy reads with
      | .ok () => checkReads groupBy reads'
      | .error e => .error e := by
  simp only [checkReads, firstUngrouped, List.find?_append]
  cases reads.find? fun r ↦ r.column ∉ groupBy <;> rfl

theorem checkReads_singleton (groupBy : List String) (r : PlainRead) :
    checkReads groupBy [r] = if r.column ∈ groupBy then .ok () else .error r.refusal := by
  rw [checkReads, firstUngrouped, List.find?_singleton]
  by_cases h : r.column ∈ groupBy <;> simp [h]

theorem checkReads_eq_ok_iff :
    checkReads groupBy reads = .ok () ↔ ∀ r ∈ reads, r.column ∈ groupBy := by
  have passed : firstUngrouped groupBy reads = none ↔ ∀ r ∈ reads, r.column ∈ groupBy := by
    simp [firstUngrouped]
  rw [← passed, checkReads]
  cases firstUngrouped groupBy reads <;> simp

theorem checkReads_eq_error_iff :
    checkReads groupBy reads = .error e ↔
      ∃ r, firstUngrouped groupBy reads = some r ∧ r.refusal = e := by
  rw [checkReads]
  cases firstUngrouped groupBy reads <;> simp

/-- Reads are refused if and only if one of them is of a column that is not grouped by. -/
theorem exists_checkReads_eq_error_iff :
    (∃ e, checkReads groupBy reads = .error e) ↔ ∃ r ∈ reads, r.column ∉ groupBy := by
  have passed : checkReads groupBy reads = .ok () ↔ _ := checkReads_eq_ok_iff
  cases h : checkReads groupBy reads with
  | ok _ => simpa [h] using passed
  | error e => simpa [h] using passed

end CheckReads

namespace Plan

variable {p : Plan} {t : Table}

theorem mismatch_of_mem_readsOf {refuse : String → Error} (hr : ∀ c, (refuse c).Mismatch)
    {x : Operand} {r : PlainRead} (h : r ∈ p.readsOf t refuse x) : r.refusal.Mismatch := by
  cases x with
  | column name =>
    rw [readsOf] at h
    split at h
    · rw [List.mem_singleton.1 h]
      exact hr _
    · cases h
  | call c => cases h

/-- Every column that is read is refused as such. -/
theorem mismatch_of_mem_reads {r : PlainRead} (h : r ∈ p.reads t) : r.refusal.Mismatch := by
  rcases List.mem_append.1 h with h | h
  · obtain ⟨item, -, h⟩ := List.mem_flatMap.1 h
    cases hx : item.expr with
    | column name =>
      rw [hx] at h
      rw [List.mem_singleton.1 h]
      exact .projection name
    | star =>
      rw [hx] at h
      obtain ⟨c, -, rfl⟩ := List.mem_map.1 h
      exact .projection c
    | call c =>
      rw [hx] at h
      cases h
  · rcases List.mem_append.1 h with h | h
    · obtain ⟨item, -, h⟩ := List.mem_flatMap.1 h
      exact mismatch_of_mem_readsOf .order h
    · obtain ⟨clause, -, h⟩ := List.mem_flatMap.1 h
      exact mismatch_of_mem_readsOf .projection h

theorem mismatch_of_checkReads {groupBy : List String} {e : Error}
    (h : checkReads groupBy (p.reads t) = .error e) : e.Mismatch := by
  obtain ⟨r, found, rfl⟩ := checkReads_eq_error_iff.1 h
  exact mismatch_of_mem_reads (List.mem_of_find?_eq_some found)

/-- A column of the table that is selected, by its name or by `*`, is read by the select list. -/
theorem exists_read_of_mem_columns {column : String} (hc : column ∈ p.columns t)
    (ht : column ∈ t.columns) : ∃ r ∈ p.selectReads t, r.column = column := by
  obtain ⟨item, hi, hc⟩ := List.mem_flatMap.1 hc
  have reads : ∃ r ∈ item.expr.reads t, r.column = column := by
    rw [SelectItem.columnsIn] at hc
    cases hx : item.expr with
    | column name =>
      rw [hx] at hc
      exact ⟨_, List.mem_singleton_self _, (List.mem_singleton.1 hc).symm⟩
    | star => exact ⟨_, List.mem_map_of_mem ht, rfl⟩
    | call c =>
      -- No column is called like a call.
      rw [hx] at hc
      have paren : '(' ∈ c.name.toList := by simp [Call.name]
      exact absurd (List.mem_singleton.1 hc ▸ paren) (column_ne ht).1
  obtain ⟨r, hr, named⟩ := reads
  exact ⟨r, List.mem_flatMap.2 ⟨item, hi, hr⟩, named⟩

end Plan

/-! ## Checks -/

section Checks

variable {p : Plan} {s : Scope} {t : Table} {groupBy : List String}

theorem checkGroupColumns_eq_ok_of_forall (h : ∀ c ∈ groupBy, Text.lower c ∈ t.columns) :
    checkGroupColumns t groupBy = .ok () := by
  induction groupBy with
  | nil => rfl
  | cons c cs ih =>
    obtain ⟨first, rest⟩ := List.forall_mem_cons.1 h
    rw [checkGroupColumns, column_eq_ok_iff.2 ⟨rfl, first⟩]
    exact ih rest

theorem checkSelected_eq {x : Selected}
    (h : ∀ name, x = .column name → Text.lower name ∈ t.columns) :
    checkSelected t groupBy x = checkReads groupBy (x.reads t) := by
  cases x with
  | column name =>
    rw [checkSelected, column_eq_ok_iff.2 ⟨rfl, h name rfl⟩, Selected.reads, checkReads_singleton]
    simp only [List.contains_iff_mem]
  | star =>
    rw [checkSelected, Selected.reads, checkReads, firstUngrouped, List.find?_map]
    have ungrouped : (fun c ↦ !groupBy.contains c) =
        (fun r : PlainRead ↦ decide (r.column ∉ groupBy)) ∘ fun c ↦ ⟨c, .ungroupedColumn c⟩ := by
      funext c
      by_cases hc : c ∈ groupBy <;> simp [hc]
    rw [ungrouped]
    cases t.columns.find? _ <;> rfl
  | call c => rfl

theorem checkSelect_eq {items : List SelectItem}
    (h : ∀ item ∈ items, ∀ name, item.expr = .column name → Text.lower name ∈ t.columns) :
    checkSelect t groupBy items = checkReads groupBy (items.flatMap (·.expr.reads t)) := by
  induction items with
  | nil => rfl
  | cons item items ih =>
    obtain ⟨first, rest⟩ := List.forall_mem_cons.1 h
    rw [checkSelect, checkSelected_eq first, List.flatMap_cons, checkReads_append]
    cases checkReads groupBy (item.expr.reads t) with
    | error e => rfl
    | ok _ => exact ih rest

theorem checkReads_readsOf {refuse : String → Error} {name : String}
    (h : p.resolved name ∈ t.columns → p.resolved name ∈ groupBy) :
    checkReads groupBy (p.readsOf t refuse (.column name)) = .ok () := by
  rw [checkReads_eq_ok_iff, Plan.readsOf]
  intro r hr
  split at hr
  · next known =>
    rw [List.mem_singleton.1 hr]
    exact h known
  · cases hr

/-- A name that the select list gives is read there already. -/
theorem checkReads_readsOf_of_mem (hsel : ∀ r ∈ p.selectReads t, r.column ∈ groupBy)
    {refuse : String → Error} {name : String} (h : p.resolved name ∈ p.columns t) :
    checkReads groupBy (p.readsOf t refuse (.column name)) = .ok () := by
  refine checkReads_readsOf fun known ↦ ?_
  obtain ⟨r, hr, same⟩ := Plan.exists_read_of_mem_columns h known
  exact same ▸ hsel r hr

/-- A name that no entry of the select list gives is that of a column, which is read here. -/
theorem readsOf_of_unselected (hn : p.Named t) (refuse : String → Error) {name : String}
    (hx : .column name ∈ p.operands)
    (h : ∀ item ∈ p.projection, item.expr.name? ≠ some (p.resolved name)) :
    column t (p.resolved name) = .ok (p.resolved name) ∧
      p.readsOf t refuse (.column name) = [⟨p.resolved name, refuse (p.resolved name)⟩] := by
  obtain ⟨item, hi, hc⟩ | ⟨unbound, resolved⟩ := p.resolved_cases name
  · exact absurd hc (h item hi)
  · have known : p.resolved name ∈ t.columns := by
      rw [resolved]
      refine (hn.operands name hx).resolve_left ?_
      rintro ⟨item, hi, bound⟩
      exact Bool.false_ne_true ((unbound item hi).symm.trans bound)
    have lower : Text.lower (p.resolved name) = p.resolved name := by
      rw [resolved, Text.lower_lower]
    exact ⟨column_eq_ok_iff.2 ⟨lower, known⟩, by rw [Plan.readsOf, if_pos known]⟩

/-- A column that is ordered by is given by the select list, or its name is carried along already,
or it is one that is new. -/
theorem present_cases (hs : Scope.ofPlan p = .ok s) {name : String} {extras : List Operand}
    (h : ((s.selectedIn t).contains (p.resolved name) || Keyed.has (Text.lower name) s.aliases ||
      extras.contains (.column (p.resolved name))) = true) :
    p.resolved name ∈ p.columns t ∨ .column (p.resolved name) ∈ extras := by
  rw [Bool.or_eq_true, Bool.or_eq_true] at h
  obtain (selected | bound) | carried := h
  · exact .inl ((Scope.mem_selectedIn_iff hs).1 (List.contains_iff_mem.1 selected))
  · have binds : ∃ item ∈ p.projection, item.binds name = true := by
      by_contra none
      have unbound : ∀ item ∈ p.projection, item.binds name = false :=
        fun item hi ↦ Bool.eq_false_iff.2 fun binds ↦ none ⟨item, hi, binds⟩
      rw [(Scope.has_aliases_eq_false_iff hs).2 unbound] at bound
      cases bound
    obtain ⟨item, hi, binds⟩ := binds
    exact .inl (Plan.mem_columns_of_name? hi (Scope.resolved_of_binds hs hi binds))
  · exact .inr (List.contains_iff_mem.1 carried)

/-- What is carried along for the order is refused as what the order reads is.  The induction is on
the entries from the first to the last, as they are added. -/
theorem verifyOrder_extras (hs : Scope.ofPlan p = .ok s) (hn : p.Named t)
    (hsel : ∀ r ∈ p.selectReads t, r.column ∈ groupBy) {items : List OrderItem}
    (hi : ∀ item ∈ items, item.expr ∈ p.operands) :
    verifyOrder groupBy (Order.ofItems items (s.selectedIn t) s.aliases).extras =
      checkReads groupBy (p.orderReads t items) := by
  induction items using List.reverseRecOn with
  | nil => rfl
  | append_singleton items item ih =>
    obtain ⟨before, last⟩ := List.forall_mem_append.1 hi
    have ih := ih before
    have operand : item.expr ∈ p.operands := last item (List.mem_singleton_self item)
    have reads : p.orderReads t (items ++ [item]) =
        p.orderReads t items ++ p.readsOf t .ungroupedOrder item.expr := by
      rw [Plan.orderReads, List.flatMap_append, List.flatMap_singleton]
      rfl
    have resolve : Query.resolve s.aliases item.expr.name = p.resolved item.expr.name :=
      Scope.resolve_ofPlan hs item.expr.name
    rw [reads, checkReads_append, ← ih, Order.ofItems_concat, Order.add]
    dsimp only
    rw [resolve]
    generalize (Order.ofItems items (s.selectedIn t) s.aliases).extras = extras
    cases hx : item.expr with
    | call c =>
      have passed : verifyOrder groupBy [Order.extra (p.resolved c.name) (.call c)] = .ok () := rfl
      have none : checkReads groupBy (p.readsOf t .ungroupedOrder (.call c)) = .ok () := rfl
      rw [none]
      split
      · cases verifyOrder groupBy extras <;> rfl
      · exact (verifyOrder_append _ _ _).trans (by rw [← passed]; rfl)
    | column name =>
      rw [hx] at operand
      split
      · next present =>
        cases checked : verifyOrder groupBy extras with
        | error e => rfl
        | ok _ =>
          obtain selected | carried := present_cases hs present
          · exact (checkReads_readsOf_of_mem hsel selected).symm
          · exact (checkReads_readsOf fun _ ↦ verifyOrder_eq_ok checked carried).symm
      · next new =>
        have unselected : ∀ item ∈ p.projection, item.expr.name? ≠ some (p.resolved name) := by
          intro item hi hc
          have contained := List.contains_iff_mem.2
            ((Scope.mem_selectedIn_iff hs).2 (Plan.mem_columns_of_name? (t := t) hi hc))
          exact new (by simp only [Operand.name, contained, Bool.true_or])
        obtain ⟨-, reads⟩ := readsOf_of_unselected hn .ungroupedOrder operand unselected
        rw [verifyOrder_append, reads, checkReads_singleton]
        cases verifyOrder groupBy extras with
        | error e => rfl
        | ok _ => simp only [Operand.name, Order.extra, verifyOrder, List.contains_iff_mem]

/-- The condition on groups is refused as what it reads is. -/
theorem havingExtra_eq (hs : Scope.ofPlan p = .ok s) (hn : p.Named t)
    (hsel : ∀ r ∈ p.selectReads t, r.column ∈ p.groupColumns) {x : Operand} (hx : x ∈ p.operands) :
    (havingExtra s t x (s.resolve x.name)).map (fun _ ↦ ()) =
      checkReads p.groupColumns (p.readsOf t .ungroupedColumn x) := by
  rw [Scope.resolve_ofPlan hs, havingExtra.eq_def, Scope.getD_groupBy hs]
  have selected_iff : s.selected.contains (p.resolved x.name) = true ↔
      ∃ item ∈ p.projection, item.expr.name? = some (p.resolved x.name) :=
    List.contains_iff_mem.trans (Scope.mem_selected_iff hs)
  cases x with
  | call c => split <;> rfl
  | column name =>
    split
    · next selected =>
      obtain ⟨item, hi, hc⟩ := selected_iff.1 selected
      exact (checkReads_readsOf_of_mem hsel (Plan.mem_columns_of_name? hi hc)).symm
    · next unselected =>
      obtain ⟨found, reads⟩ := readsOf_of_unselected hn .ungroupedColumn hx
        fun item hi hc ↦ unselected (selected_iff.2 ⟨item, hi, hc⟩)
      simp only [Operand.name, found, reads, checkReads_singleton, List.contains_iff_mem]
      split <;> rfl

/-- The checks before groups are made refuse a plan for what it reads and does not group by, and for
nothing else. -/
theorem checks_groupArguments (hs : Scope.ofPlan p = .ok s) (hn : p.Named t) :
    (groupArguments s t (s.order t)).map (fun _ ↦ ()) = checkReads p.groupColumns (p.reads t) := by
  have columns : verifyColumns t p.groupColumns p.projection =
      checkReads p.groupColumns (p.selectReads t) := by
    have known : ∀ c ∈ p.groupColumns, Text.lower c ∈ t.columns :=
      fun c hc ↦ (Plan.lower_groupColumns hc).symm ▸ hn.grouped c hc
    rw [verifyColumns, checkGroupColumns_eq_ok_of_forall known]
    exact checkSelect_eq hn.selected
  rw [groupArguments, Scope.getD_groupBy hs, Scope.plan_of_ofPlan hs, columns, Plan.reads,
    checkReads_append]
  cases selected : checkReads p.groupColumns (p.selectReads t) with
  | error e => rfl
  | ok _ =>
    have hsel := checkReads_eq_ok_iff.1 selected
    have ordered : verifyOrder p.groupColumns (s.order t).extras =
        checkReads p.groupColumns (p.orderReads t (p.orderBy.getD [])) := by
      rw [Scope.order, Scope.plan_of_ofPlan hs]
      exact verifyOrder_extras hs hn hsel fun item ↦ Plan.mem_operands_of_orderBy
    dsimp only
    rw [ordered, checkReads_append]
    cases checkReads p.groupColumns (p.orderReads t (p.orderBy.getD [])) with
    | error e => rfl
    | ok _ =>
      dsimp only
      cases hh : p.having with
      | none => rfl
      | some h =>
        have kept := havingExtra_eq hs hn hsel (Plan.mem_operands_of_having hh)
        rw [Option.toList_some, List.flatMap_singleton, ← kept]
        dsimp only
        rw [havingFilter]
        cases havingExtra s t h.target (s.resolve h.target.name) <;> rfl

end Checks

/-! ## Groups -/

/-- A column in which all records of a group agree. -/
def Uniform (groupBy : List String) (records : List Record) (column : String) : Prop :=
  ∀ g ∈ partition groupBy records, ∀ r ∈ g, ∀ r' ∈ g, r.cell column = r'.cell column

theorem uniform_of_mem {groupBy : List String} {column : String} (h : column ∈ groupBy)
    (records : List Record) : Uniform groupBy records column :=
  fun _ hg _ hr _ hr' ↦ cell_eq_of_mem_partition hg h hr hr'

section Refused

variable {p : Plan} {s : Scope} {t : Table}

theorem ofAggregates_not_mismatch : OfAggregates fun e ↦ ¬e.Mismatch := by
  constructor <;> rintro _ ⟨⟩

theorem sought_not_mismatch (t : Table) (names : List String) :
    Sought (fun e ↦ ¬e.Mismatch) t names := by
  intro name _
  rw [column]
  split
  · exact .ok _
  · exact .fault fun mismatch ↦ by cases mismatch

/-- A plan with groups is refused for a column that is not grouped by in its checks only, and these
refuse it for what it reads. -/
theorem groupRecords_eq_error_iff (hs : Scope.ofPlan p = .ok s) (hn : p.Named t) {e : Error}
    (he : e.Mismatch) (records : List Record) :
    groupRecords s t (s.order t) records = .error e ↔
      checkReads p.groupColumns (p.reads t) = .error e := by
  rw [groupRecords_eq, ← checks_groupArguments hs hn]
  cases h : groupArguments s t (s.order t) with
  | error _ => simp [Except.map]
  | ok arguments =>
    obtain ⟨extras, having⟩ := arguments
    have throws : Throws (fun e ↦ ¬e.Mismatch)
        (Rows.ofGroups t s.plan.projection (s.groupBy.getD []) extras having records) :=
      Rows.throws_ofGroups ofAggregates_not_mismatch records (sought_not_mismatch t _)
        (sought_not_mismatch t _) fun l hl ↦ mem_of_condition hs h hl
    exact iff_of_false (fun refused ↦ throws e refused he) nofun

/-- The plain columns that rows of groups are made of are the same in all records of a group. -/
theorem uniform_of_groupRecords (hs : Scope.ofPlan p = .ok s) {records : List Record} {rows : Rows}
    (h : groupRecords s t (s.order t) records = .ok rows) :
    ∃ extras l, Layout.build t (Aggregate.ofCall t) p.projection extras = .ok l ∧
      rows.columns = l.slots.map Slot.column ∧
      ∀ slot ∈ l.slots, slot.content = .field → Uniform p.groupColumns records slot.column := by
  rw [groupRecords_eq] at h
  split at h
  · cases h
  · next extras having arguments =>
    have plain := plainColumns_of_groupArguments hs arguments
    obtain ⟨l, hl, -, -, rfl⟩ := ofGroups_eq_map h
    obtain ⟨-, -, filled⟩ := Layout.build_eq_ok hl
    rw [Scope.getD_groupBy hs, Scope.plan_of_ofPlan hs] at plain
    rw [Scope.plan_of_ofPlan hs] at hl filled
    refine ⟨extras, l, hl, rfl, fun slot hslot field ↦ ?_⟩
    cases filled slot hslot with
    | field _ asked => exact uniform_of_mem (plain asked) records
    | aggregate _ => cases field

/-- A plan is refused for a column that is not grouped by if and only if it reads one: in its select
list, in what its rows are ordered by, or in its condition on groups, and for the first of these.
What is read otherwise, and all plain columns that rows are made of, are the same in all records of
a group. -/
theorem groupRecords_mismatch (hs : Scope.ofPlan p = .ok s) (hn : p.Named t)
    (records : List Record) :
    (∀ e : Error, e.Mismatch → (groupRecords s t (s.order t) records = .error e ↔
      ∃ r, firstUngrouped p.groupColumns (p.reads t) = some r ∧ r.refusal = e)) ∧
    ((∃ e : Error, e.Mismatch ∧ groupRecords s t (s.order t) records = .error e) ↔
      ∃ r ∈ p.reads t, r.column ∉ p.groupColumns) ∧
    ((∀ e : Error, e.Mismatch → groupRecords s t (s.order t) records ≠ .error e) →
      ∀ r ∈ p.reads t, Uniform p.groupColumns records r.column) ∧
    (∀ rows, groupRecords s t (s.order t) records = .ok rows →
      ∃ extras l, Layout.build t (Aggregate.ofCall t) p.projection extras = .ok l ∧
        rows.columns = l.slots.map Slot.column ∧
        ∀ slot ∈ l.slots, slot.content = .field → Uniform p.groupColumns records slot.column) := by
  have refused (e : Error) (he : e.Mismatch) := groupRecords_eq_error_iff hs hn he records
  have read : (∃ e : Error, e.Mismatch ∧ groupRecords s t (s.order t) records = .error e) ↔
      ∃ r ∈ p.reads t, r.column ∉ p.groupColumns := by
    rw [← exists_checkReads_eq_error_iff]
    refine exists_congr fun e ↦ ?_
    rw [and_congr_right (refused e), and_iff_right_iff_imp]
    exact Plan.mismatch_of_checkReads
  refine ⟨fun e he ↦ (refused e he).trans checkReads_eq_error_iff, read, fun accepted r hr ↦ ?_,
    fun rows ↦ uniform_of_groupRecords hs⟩
  refine uniform_of_mem ?_ records
  by_contra ungrouped
  obtain ⟨e, he, h⟩ := read.2 ⟨r, hr, ungrouped⟩
  exact accepted e he h

end Refused

/-- How many transactions may use how much, ordered by this and by another column. -/
def usage (name : String) : Plan where
  projection := [⟨.column "Gas", some "Bound"⟩, ⟨.call ⟨"count", .star⟩, none⟩]
  table := "transactions"
  selection := some (.equals "blocknumber" "1")
  groupBy := some ["GAS"]
  having := some ⟨.column "bound", .gt, "0"⟩
  orderBy := some [⟨.column "BOUND", .desc⟩, ⟨.column name, .asc⟩]
  limit := none

theorem named_usage {name : String} (h : Text.lower name ∈ Table.transactions.columns) :
    (usage name).Named .transactions where
  selected := by
    intro item hi name hx
    simp only [usage, List.mem_cons, List.not_mem_nil, or_false] at hi
    rcases hi with rfl | rfl
    · cases hx
      decide +kernel
    · cases hx
  grouped := by
    intro column hc
    obtain ⟨written, hw, rfl⟩ := List.mem_map.1 hc
    rw [List.mem_singleton.1 hw]
    decide +kernel
  operands := by
    intro plain hp
    simp only [Plan.operands, usage, Option.getD_some, Option.toList_some, List.map_cons,
      List.map_nil, List.cons_append, List.nil_append, List.mem_cons, List.not_mem_nil, or_false,
      Operand.column.injEq] at hp
    rcases hp with rfl | rfl | rfl
    · exact .inl ⟨_, List.mem_cons_self, by decide +kernel⟩
    · exact .inr h
    · exact .inl ⟨_, List.mem_cons_self, by decide +kernel⟩

/-- Three transfers, two of which may use the same gas and are worth different amounts. -/
def transfersByGas : List Record :=
  let transfer (hash : String) (gas : Quantity 64) (value : Quantity 128) : Record :=
    .transaction { (default : Transaction) with hash := hash, gas := gas, value := value }
  [transfer "0xa" ⟨21000, by decide⟩ ⟨5, by decide⟩,
    transfer "0xb" ⟨30000, by decide⟩ ⟨7, by decide⟩,
    transfer "0xc" ⟨21000, by decide⟩ ⟨9, by decide⟩]

/-- Ordering by what transfers are worth is refused, and ordering by the gas twice is not: it is the
same in both groups of transfers, while what they are worth differs in one of them. -/
theorem groupRecords_mismatch_usage :
    (∃ s, Scope.ofPlan (usage "Value") = .ok s ∧
      groupRecords s .transactions (s.order .transactions) transfersByGas =
        .error (.ungroupedOrder "value")) ∧
    ∃ s, Scope.ofPlan (usage "gas") = .ok s ∧
      (¬∃ e : Error, e.Mismatch ∧
        groupRecords s .transactions (s.order .transactions) transfersByGas = .error e) ∧
      Uniform (usage "gas").groupColumns transfersByGas "gas" ∧
      ¬Uniform (usage "gas").groupColumns transfersByGas "value" ∧
      ∃ rows, groupRecords s .transactions (s.order .transactions) transfersByGas = .ok rows ∧
        rows.rows = [[.integer 21000, .integer 2], [.integer 30000, .integer 1]] ∧
        ∃ extras l, Layout.build .transactions (Aggregate.ofCall .transactions)
            (usage "gas").projection extras = .ok l ∧ rows.columns = l.slots.map Slot.column ∧
          ∀ slot ∈ l.slots, slot.content = .field →
            Uniform (usage "gas").groupColumns transfersByGas slot.column := by
  have value : (usage "Value").Named .transactions := named_usage (by decide +kernel)
  have gas : (usage "gas").Named .transactions := named_usage (by decide +kernel)
  constructor
  · have scope : (Scope.ofPlan (usage "Value")).toOption.isSome := by decide +kernel
    obtain ⟨s, hs⟩ := Option.isSome_iff_exists.1 scope
    have hs := eq_ok_of_toOption hs
    have first : firstUngrouped (usage "Value").groupColumns ((usage "Value").reads .transactions) =
        some ⟨"value", .ungroupedOrder "value"⟩ := by decide +kernel
    obtain ⟨refused, -⟩ := groupRecords_mismatch hs value transfersByGas
    exact ⟨s, hs, (refused _ (.order _)).2 ⟨_, first, rfl⟩⟩
  · have shown : ((Scope.ofPlan (usage "gas")).toOption.bind fun s ↦
        (groupRecords s .transactions (s.order .transactions)
          transfersByGas).toOption.map Rows.rows) =
          some [[.integer 21000, .integer 2], [.integer 30000, .integer 1]] := by decide +kernel
    obtain ⟨s, hs, shown⟩ := Option.bind_eq_some_iff.1 shown
    have hs := eq_ok_of_toOption hs
    obtain ⟨rows, hrows, cells⟩ := Option.map_eq_some_iff.1 shown
    have hrows := eq_ok_of_toOption hrows
    have all : ∀ r ∈ (usage "gas").reads .transactions, r.column ∈ (usage "gas").groupColumns := by
      decide +kernel
    have first : ⟨"gas", .ungroupedColumn "Gas"⟩ ∈ (usage "gas").reads .transactions := by
      decide +kernel
    have other : ¬Uniform (usage "gas").groupColumns transfersByGas "value" := by
      intro uniform
      have together : [transfersByGas[0], transfersByGas[2]] ∈
          partition (usage "gas").groupColumns transfersByGas := by decide +kernel
      have same := uniform _ together _ List.mem_cons_self _
        (List.mem_cons_of_mem _ List.mem_cons_self)
      revert same
      decide +kernel
    obtain ⟨-, refused, uniform, filled⟩ := groupRecords_mismatch hs gas transfersByGas
    have accepted := mt refused.1 fun ⟨r, hr, ungrouped⟩ ↦ ungrouped (all r hr)
    exact ⟨_, hs, accepted, uniform (fun e he h ↦ accepted ⟨e, he, h⟩) _ first, other, rows, hrows,
      cells, filled rows hrows⟩

end LedgerQuery.Query
