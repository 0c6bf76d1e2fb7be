import LedgerQuery.Proofs.UnknownOrder

/-!
# Columns that rows have

What rows are ordered by and groups are kept by is looked up among the columns of a layout, long
after the layout was built from the select list and from what is carried along.  Every such column
is there (`Scope.mem_of_key`, `mem_of_condition`), and so are the cells that rows are made from:
records are only asked for columns of their own table (`groupsRead_of_build`).
-/

namespace LedgerQuery.Query

open Chain
open Node (Client)

/-! ## Layouts -/

namespace Layout

variable {t : Table} {onCall : OnCall} {x : Operand} {l : Layout}

/-- An operand is carried along under its name in lower case. -/
theorem column_of_ofOperand {s : Slot} (h : ofOperand t onCall x = .ok s) :
    s.column = Text.lower x.name := by
  cases x with
  | column name =>
    rw [ofOperand] at h
    split at h
    · next c hc =>
      cases h
      exact (column_eq_ok_iff.1 hc).1.symm
    · cases h
  | call c =>
    rw [ofOperand] at h
    split at h
    · cases h
      exact c.lower_name.symm
    · cases h

/-- An operand that was carried along is among the columns under its name in lower case. -/
theorem mem_of_carry {slots all : List Slot} {xs : List Operand}
    (h : carry t onCall slots xs = .ok all) :
    ∀ x ∈ xs, Text.lower x.name ∈ all.map Slot.column := by
  induction xs generalizing slots with
  | nil => exact fun x hx ↦ absurd hx List.not_mem_nil
  | cons x xs ih =>
    rw [carry] at h
    split at h
    · cases h
    · next s hs =>
      have column := column_of_ofOperand hs
      split at h
      · next present =>
        refine List.forall_mem_cons.2 ⟨?_, ih h⟩
        obtain ⟨rest, rfl, -⟩ := carry_eq_ok h
        rw [position?_eq, List.isSome_idxOf?, column] at present
        rw [List.map_append]
        exact List.mem_append_left _ present
      · refine List.forall_mem_cons.2 ⟨?_, ih h⟩
        obtain ⟨rest, rfl, -⟩ := carry_eq_ok h
        rw [← column, List.map_append, List.map_append]
        exact List.mem_append_left _ (List.mem_append_right _ (List.mem_singleton_self _))

/-- A layout has the columns of the select list and of all that is carried along. -/
theorem mem_of_build {select : List SelectItem} {extras : List Operand}
    (h : build t onCall select extras = .ok l) :
    (∀ c ∈ select.flatMap (·.columnsIn t), c ∈ l.slots.map Slot.column) ∧
      ∀ x ∈ extras, Text.lower x.name ∈ l.slots.map Slot.column := by
  refine ⟨fun c hc ↦ ?_, ?_⟩
  · rw [← (build_eq_ok h).1] at hc
    exact List.mem_of_mem_take hc
  · rw [build] at h
    split at h
    · cases h
    · split at h
      · cases h
      · next all hall =>
        cases h
        exact mem_of_carry hall

end Layout

/-! ## Names -/

/-- A name stands for an entry of the select list, or it is no alias. -/
theorem Plan.resolved_cases (p : Plan) (name : String) :
    (∃ item ∈ p.projection, item.expr.name? = some (p.resolved name)) ∨
      (∀ item ∈ p.projection, item.binds name = false) ∧ p.resolved name = Text.lower name := by
  cases hf : p.projection.find? fun item ↦ item.binds name with
  | none =>
    have unbound : ∀ item ∈ p.projection, item.binds name = false := fun item hi ↦
      Bool.eq_false_iff.2 (List.find?_eq_none.1 hf item hi)
    exact .inr ⟨unbound, resolved_of_not_binds unbound⟩
  | some item =>
    obtain ⟨column, hc, -⟩ := SelectItem.binding?_of_binds
      (List.find?_some (p := fun item : SelectItem ↦ item.binds name) hf)
    refine .inl ⟨item, List.mem_of_find?_eq_some hf, ?_⟩
    rw [hc, Plan.resolved, hf, Option.bind_some, hc]
    rfl

/-- The column of an entry is among those that a plan shows. -/
theorem Plan.mem_columns_of_name? {p : Plan} {t : Table} {item : SelectItem} {column : String}
    (hi : item ∈ p.projection) (hc : item.expr.name? = some column) : column ∈ p.columns t := by
  refine List.mem_flatMap.2 ⟨item, hi, ?_⟩
  rw [SelectItem.columnsIn, hc]
  exact List.mem_singleton_self _

namespace Order

variable {selected : List String} {aliases : List (String × String)}

/-- An entry that is neither selected nor an alias is carried along. -/
theorem extra_mem_extras {items : List OrderItem} {item : OrderItem} (hi : item ∈ items)
    (hs : resolve aliases item.expr.name ∉ selected)
    (ha : Keyed.has (Text.lower item.expr.name) aliases = false) :
    extra (resolve aliases item.expr.name) item.expr ∈ (ofItems items selected aliases).extras := by
  obtain ⟨before, after, rfl⟩ := List.append_of_mem hi
  by_cases hb : extra (resolve aliases item.expr.name) item.expr ∈
      (ofItems before selected aliases).extras
  · obtain ⟨rest, hr⟩ := extras_append selected aliases before (item :: after)
    rw [hr]
    exact List.mem_append_left _ hb
  · have whole : ∃ rest, (ofItems (before ++ item :: after) selected aliases).extras =
        (ofItems before selected aliases).extras ++
          extra (resolve aliases item.expr.name) item.expr :: rest := extras_cons hs ha hb
    obtain ⟨rest, hr⟩ := whole
    rw [hr]
    exact List.mem_append_right _ List.mem_cons_self

/-- An operand that is carried along has its own name in lower case. -/
theorem lower_name_extra (x : Operand) :
    Text.lower (extra (Text.lower x.name) x).name = Text.lower x.name := by
  cases x with
  | column name => exact Text.lower_lower name
  | call c =>
    rw [extra, Operand.name, Operand.name, Call.name, Text.lower_lower]
    rfl

end Order

namespace Scope

variable {p : Plan} {s : Scope} {t : Table}

/-- An operand by which rows are ordered is carried along if no alias stands for it and it is not
shown. -/
theorem extra_mem_order (hs : ofPlan p = .ok s) {item : OrderItem} (hi : item ∈ p.orderBy.getD [])
    (unbound : ∀ item' ∈ p.projection, item'.binds item.expr.name = false)
    (unshown : Text.lower item.expr.name ∉ p.columns t) :
    Order.extra (Text.lower item.expr.name) item.expr ∈ (s.order t).extras := by
  have resolved := resolve_of_not_binds hs unbound
  rw [Scope.order, plan_of_ofPlan hs, ← resolved]
  exact Order.extra_mem_extras hi (fun h ↦ unshown ((mem_selectedIn_iff hs).1 (resolved ▸ h)))
    ((has_aliases_eq_false_iff hs).2 unbound)

/-- What rows are ordered by is among their columns, if the select list and all that is carried
along are. -/
theorem mem_of_key (hs : ofPlan p = .ok s) {columns : List String}
    (hc : ∀ c ∈ p.columns t, c ∈ columns)
    (hx : ∀ x ∈ (s.order t).extras, Text.lower x.name ∈ columns) :
    ∀ k ∈ (s.order t).keys, k.1 ∈ columns := by
  intro k hk
  have key : k.1 ∈ ((s.order t).keys).map Prod.fst := List.mem_map_of_mem hk
  rw [keys_order_resolved hs, Keyed.keys_firsts, List.mem_eraseDups, List.map_map,
    List.mem_map] at key
  obtain ⟨item, hi, key⟩ := key
  rw [← key]
  show p.resolved item.expr.name ∈ columns
  -- An alias stands for a selected column, and a name that is none for the column of that name,
  -- which is carried along unless it is selected.
  obtain ⟨selected, hsel, hname⟩ | ⟨unbound, hname⟩ := p.resolved_cases item.expr.name
  · exact hc _ (Plan.mem_columns_of_name? hsel hname)
  · rw [hname]
    by_cases shown : Text.lower item.expr.name ∈ p.columns t
    · exact hc _ shown
    · rw [← Order.lower_name_extra]
      exact hx _ (extra_mem_order hs hi unbound shown)

end Scope

/-! ## What a grouped query asks for -/

/-- What a grouped query carries along, and the condition by which it keeps groups: what it makes
rows of groups from (`groupRecords_eq`). -/
def groupArguments (s : Scope) (t : Table) (order : Order) :
    Except Error (List Operand × Option GroupFilter) :=
  match verifyColumns t (s.groupBy.getD []) s.plan.projection with
  | .error e => .error e
  | .ok () =>
    match verifyOrder (s.groupBy.getD []) order.extras with
    | .error e => .error e
    | .ok () =>
      match s.plan.having with
      | none => .ok (order.extras, none)
      | some h =>
        match havingFilter s t h with
        | .error e => .error e
        | .ok (f, extra) => .ok (addExtra order.extras extra, some f)

/-- Rows of groups are made from what the checks of the plan give. -/
theorem groupRecords_eq (s : Scope) (t : Table) (order : Order) (records : List Record) :
    groupRecords s t order records =
      match groupArguments s t order with
      | .error e => .error e
      | .ok (extras, having) =>
        Rows.ofGroups t s.plan.projection (s.groupBy.getD []) extras having records := by
  rw [groupRecords, groupArguments]
  cases verifyColumns t (s.groupBy.getD []) s.plan.projection with
  | error e => rfl
  | ok _ =>
    dsimp only
    cases verifyOrder (s.groupBy.getD []) order.extras with
    | error e => rfl
    | ok _ =>
      dsimp only
      cases s.plan.having with
      | none => rfl
      | some h =>
        dsimp only
        rcases havingFilter s t h with e | ⟨f, extra⟩ <;> rfl

section Arguments

variable {s : Scope} {t : Table} {order : Order} {extras : List Operand}
  {having : Option GroupFilter}

/-- The checks of a plan with groups succeed if its columns and its order are grouped by, and its
condition can be carried along. -/
theorem groupArguments_eq_ok (h : groupArguments s t order = .ok (extras, having)) :
    verifyColumns t (s.groupBy.getD []) s.plan.projection = .ok () ∧
      verifyOrder (s.groupBy.getD []) order.extras = .ok () ∧
      ((extras = order.extras ∧ having = none ∧ s.plan.having = none) ∨
        ∃ h ∈ s.plan.having, ∃ f extra, havingFilter s t h = .ok (f, extra) ∧
          extras = addExtra order.extras extra ∧ having = some f) := by
  rw [groupArguments] at h
  split at h
  · cases h
  · next columns =>
    split at h
    · cases h
    · next ordered =>
      refine ⟨columns, ordered, ?_⟩
      split at h
      · next hnone =>
        cases h
        exact .inl ⟨rfl, rfl, hnone⟩
      · next clause hclause =>
        split at h
        · cases h
        · next f extra hf =>
          cases h
          exact .inr ⟨clause, hclause, f, extra, hf, rfl, rfl⟩

theorem subset_addExtra (extras : List Operand) (extra : Option Operand) :
    extras ⊆ addExtra extras extra := by
  intro x hx
  cases extra with
  | none => exact hx
  | some y =>
    rw [addExtra]
    split
    · exact hx
    · exact List.mem_append_left _ hx

theorem extra_mem_addExtra (extras : List Operand) (x : Operand) :
    x ∈ addExtra extras (some x) := by
  rw [addExtra]
  split
  · next h => exact List.contains_iff_mem.1 h
  · exact List.mem_append_right _ (List.mem_singleton_self x)

/-- The columns grouped by are columns of the table. -/
theorem known_of_groupArguments {p : Plan} (hs : Scope.ofPlan p = .ok s)
    (h : groupArguments s t order = .ok (extras, having)) :
    ∀ c ∈ s.groupBy.getD [], c ∈ t.columns := by
  intro c hc
  have verified := (groupArguments_eq_ok h).1
  rw [verifyColumns] at verified
  split at verified
  · next checked =>
    have lower : Text.lower c = c := Plan.lower_groupColumns (Scope.getD_groupBy hs ▸ hc)
    exact lower ▸ checkGroupColumns_eq_ok checked c hc
  · cases verified

/-- Plain columns are asked for only among those grouped by. -/
theorem plainColumns_of_groupArguments {p : Plan} (hs : Scope.ofPlan p = .ok s)
    (h : groupArguments s t order = .ok (extras, having)) :
    plainColumns t s.plan.projection extras ⊆ s.groupBy.getD [] := by
  have lower : ∀ c ∈ s.groupBy.getD [], Text.lower c = c :=
    fun c hc ↦ Plan.lower_groupColumns (Scope.getD_groupBy hs ▸ hc)
  obtain ⟨columns, ordered, ⟨rfl, -⟩ | ⟨clause, -, f, extra, hf, rfl, -⟩⟩ := groupArguments_eq_ok h
  · exact plainColumns_subset lower (verifyColumns_eq_ok columns) fun _ ↦ verifyOrder_eq_ok ordered
  · refine plainColumns_subset lower (verifyColumns_eq_ok columns) fun name hx ↦ ?_
    exact (mem_addExtra hx).elim (verifyOrder_eq_ok ordered) ((havingFilter_eq_ok hf).2 name)

/-- What the rows are ordered by is carried along with what a condition adds. -/
theorem extras_subset_of_groupArguments (h : groupArguments s t order = .ok (extras, having)) :
    order.extras ⊆ extras := by
  obtain ⟨-, -, ⟨rfl, -⟩ | ⟨clause, -, f, extra, -, rfl, -⟩⟩ := groupArguments_eq_ok h
  · exact List.Subset.refl _
  · exact subset_addExtra _ _

/-- What a condition on groups has to carry along: nothing for a selected column, and else its
target under its own name, as aliases stand for selected columns only. -/
inductive Targets (p : Plan) (t : Table) : Operand → Except Error (Option Operand) → Prop
  | selected {x : Operand} (shown : p.resolved x.name ∈ p.columns t) : Targets p t x (.ok none)
  | call {c : Call} (resolved : p.resolved c.name = c.name) :
      Targets p t (.call c) (.ok (some (.call c)))
  | column {name : String} (resolved : p.resolved name = Text.lower name) :
      Targets p t (.column name) (.ok (some (.column (Text.lower name))))
  | unknown {name : String} {e : Error} (refused : Query.column t (Text.lower name) = .error e) :
      Targets p t (.column name) (.error e)
  | ungrouped {name : String} :
      Targets p t (.column name) (.error (.ungroupedColumn (Text.lower name)))

/-- What a condition carries along is what its target asks for. -/
theorem targets_havingExtra {p : Plan} (hs : Scope.ofPlan p = .ok s) (x : Operand) :
    Targets p t x (havingExtra s t x (s.resolve x.name)) := by
  rw [Scope.resolve_ofPlan hs, havingExtra.eq_def]
  split
  · next shown =>
    obtain ⟨item, hi, hc⟩ := (Scope.mem_selected_iff hs).1 (List.contains_iff_mem.1 shown)
    exact .selected (Plan.mem_columns_of_name? hi hc)
  · next unselected =>
    obtain ⟨item, hi, hc⟩ | ⟨-, resolved⟩ := p.resolved_cases x.name
    · exact absurd
        (List.contains_iff_mem.2 ((Scope.mem_selected_iff hs).2 ⟨item, hi, hc⟩)) unselected
    · cases x with
      | call c => exact .call (resolved.trans c.lower_name)
      | column name =>
        rw [resolved, Operand.name]
        dsimp only
        split
        · next refused => exact .unknown refused
        · next c hc =>
          obtain ⟨rfl, -⟩ := column_eq_ok_iff.1 hc
          rw [Text.lower_lower]
          split
          · exact .column resolved
          · exact .ungrouped

/-- What is carried along for a condition is what its target asks for. -/
theorem targets_of_havingFilter {p : Plan} (hs : Scope.ofPlan p = .ok s) {h : Having}
    {f : GroupFilter} {extra : Option Operand} (hf : havingFilter s t h = .ok (f, extra)) :
    Targets p t h.target (.ok extra) := by
  have targets : Targets p t h.target (havingExtra s t h.target (s.resolve h.target.name)) :=
    targets_havingExtra hs h.target
  rw [havingFilter] at hf
  split at hf
  · next he =>
    cases hf
    exact he ▸ targets
  · cases hf

/-- What groups are kept by is selected, or it is carried along. -/
theorem havingFilter_column {p : Plan} (hs : Scope.ofPlan p = .ok s) {h : Having} {f : GroupFilter}
    {extra : Option Operand} (hf : havingFilter s t h = .ok (f, extra)) :
    f.column ∈ p.columns t ∨ ∃ x, extra = some x ∧ Text.lower x.name = f.column := by
  have targets := targets_of_havingFilter hs hf
  rw [(havingFilter_eq_ok hf).1]
  show s.resolve h.target.name ∈ _ ∨ ∃ x, extra = some x ∧ _ = s.resolve h.target.name
  rw [Scope.resolve_ofPlan hs]
  generalize h.target = target at targets ⊢
  cases targets with
  | selected shown => exact .inl shown
  | call resolved => exact .inr ⟨_, rfl, (Call.lower_name _).trans resolved.symm⟩
  | column resolved => exact .inr ⟨_, rfl, (Text.lower_lower _).trans resolved.symm⟩

/-- What groups are kept by is among the columns of their layout. -/
theorem mem_of_condition {p : Plan} (hs : Scope.ofPlan p = .ok s)
    (h : groupArguments s t order = .ok (extras, having)) {l : Layout}
    (hl : Layout.build t (Aggregate.ofCall t) s.plan.projection extras = .ok l) :
    ∀ f ∈ having, f.column ∈ l.slots.map Slot.column := by
  rw [Scope.plan_of_ofPlan hs] at hl
  obtain ⟨selected, carried⟩ := Layout.mem_of_build hl
  obtain ⟨-, -, ⟨-, rfl, -⟩ | ⟨clause, -, f, extra, hf, rfl, rfl⟩⟩ := groupArguments_eq_ok h
  · exact fun f hf ↦ (Option.not_mem_none f hf).elim
  · rintro f' ⟨⟩
    obtain hc | ⟨x, rfl, hx⟩ := havingFilter_column hs hf
    · exact selected _ hc
    · exact hx ▸ carried x (extra_mem_addExtra _ x)

end Arguments

/-! ## Cells -/

/-- The cells that are read while records become groups, and groups become rows, are there. -/
structure GroupsRead (t : Table) (groupBy : List String) (having : Option GroupFilter)
    (slots : List Slot) (records : List Record) : Prop where
  keys : ∀ r ∈ records, ∀ column ∈ groupBy, (r.cell? column).isSome
  /-- A plain column shows a cell of the first record, so there is one. -/
  fields : ∀ g ∈ Rows.groups groupBy records, ∀ s ∈ slots, s.content = .field →
    ∃ r, g.head? = some r ∧ (r.cell? s.column).isSome
  aggregates : ∀ g ∈ Rows.groups groupBy records, ∀ s ∈ slots, ∀ a, s.content = .aggregate a →
    ∀ column ∈ a.column, ∀ r ∈ g, (r.cell? column).isSome
  /-- The condition finds its column, and rows reach as far. -/
  condition : ∀ f ∈ having, ∃ i, Rows.filterPosition t slots f = .ok (i, f) ∧
    ∀ g ∈ Rows.groups groupBy records, ∀ row, Rows.groupRow slots g = .ok row → i < row.length

section Cells

variable {t : Table} {records : List Record}

/-- Records of a table have a cell in each of its columns. -/
theorem isSome_cell? (ht : ∀ r ∈ records, tableOf r = t) {column : String}
    (hc : column ∈ t.columns) : ∀ r ∈ records, (r.cell? column).isSome := by
  intro r hr
  rw [cell?_eq_some (ht r hr ▸ hc)]
  rfl

/-- A column in a list stands at some place in it. -/
theorem exists_idxOf? {columns : List String} {column : String} (h : column ∈ columns) :
    ∃ i, i < columns.length ∧ columns.idxOf? column = some i := by
  obtain ⟨i, hi⟩ := Option.isSome_iff_exists.1 (List.isSome_idxOf?.2 h)
  exact ⟨i, (List.idxOf?_eq_some_iff.1 hi).1, hi⟩

/-- A condition on groups is found at its place if its column is in the layout. -/
theorem filterPosition_of_mem {slots : List Slot} {f : GroupFilter}
    (h : f.column ∈ slots.map Slot.column) :
    ∃ i, i < slots.length ∧ Rows.filterPosition t slots f = .ok (i, f) := by
  obtain ⟨i, bound, hi⟩ := exists_idxOf? h
  rw [List.length_map] at bound
  exact ⟨i, bound, by rw [Rows.filterPosition, position?_eq, hi]⟩

/-- The row of a group has a cell for each slot. -/
theorem length_groupRow {slots : List Slot} {g : List Record} {row : List Cell}
    (h : Rows.groupRow slots g = .ok row) : row.length = slots.length := by
  have cells := (mapM_eq_ok h).2 (fun s ↦ (Rows.groupCell g s).toOption.getD .null)
    fun s _ v hv ↦ by rw [hv]; rfl
  rw [cells, List.length_map]

/-- Everything that rows of groups read is in place, if the checks were passed and the layout was
built. -/
theorem groupsRead_of_build {p : Plan} {s : Scope} {order : Order} {extras : List Operand}
    {having : Option GroupFilter} {l : Layout} (hs : Scope.ofPlan p = .ok s)
    (ht : ∀ r ∈ records, tableOf r = t)
    (h : groupArguments s t order = .ok (extras, having))
    (hl : Layout.build t (Aggregate.ofCall t) s.plan.projection extras = .ok l) :
    GroupsRead t (s.groupBy.getD []) having l.slots records := by
  have known := known_of_groupArguments hs h
  have plain := plainColumns_of_groupArguments hs h
  obtain ⟨-, -, filled⟩ := Layout.build_eq_ok hl
  refine ⟨fun r hr c hc ↦ isSome_cell? ht (known c hc) r hr, fun g hg slot hslot hf ↦ ?_,
    fun g hg slot hslot a ha column hc ↦ ?_, fun f hf ↦ ?_⟩
  · rw [groups_eq_partition] at hg
    cases filled slot hslot with
    | field hcolumn asked =>
      have nonempty := ne_nil_of_mem_partition hg (List.ne_nil_of_mem (plain asked))
      obtain ⟨r, rest, rfl⟩ := List.exists_cons_of_ne_nil nonempty
      refine ⟨r, rfl, isSome_cell? ht hcolumn r ?_⟩
      exact subset_of_mem_partition hg List.mem_cons_self
    | aggregate _ => cases hf
  · rw [groups_eq_partition] at hg
    cases filled slot hslot with
    | field _ _ => cases ha
    | aggregate called =>
      cases ha
      have hcolumn := (Aggregate.ofCall_eq_ok called).2 column hc
      exact fun r hr ↦ isSome_cell? ht hcolumn r (subset_of_mem_partition hg hr)
  · obtain ⟨i, bound, found⟩ := filterPosition_of_mem (mem_of_condition hs h hl f hf)
    exact ⟨i, found, fun g _ row hr ↦ length_groupRow hr ▸ bound⟩

end Cells

/-! ## Rows -/

/-- The cells that rows are ordered by are there. -/
structure OrderRead (s : ResultSet) (keys : List (String × Direction)) : Prop where
  columns : ∀ k ∈ keys, k.1 ∈ s.columns
  positions : ∃ ps, s.keyPositions keys = .ok ps ∧ ∀ q ∈ ps, ∀ row ∈ s.rows, q.1 < row.length
  ordered : ∃ r, s.order keys = .ok r

section Order

/-- Keys whose columns are there are found at places within the rows. -/
theorem keyPositions_of_mem {s : ResultSet} {columns : List String}
    {keys : List (String × Direction)}
    (hs : s.index = positions columns) (hk : ∀ k ∈ keys, k.1 ∈ columns) :
    ∃ ps, s.keyPositions keys = .ok ps ∧ ∀ q ∈ ps, q.1 < columns.length := by
  induction keys with
  | nil => exact ⟨[], rfl, fun q hq ↦ absurd hq List.not_mem_nil⟩
  | cons k keys ih =>
    obtain ⟨column, d⟩ := k
    obtain ⟨present, others⟩ := List.forall_mem_cons.1 hk
    obtain ⟨ps, hps, bound⟩ := ih others
    obtain ⟨i, hi, found⟩ := exists_idxOf? present
    refine ⟨(i, d) :: ps, ?_, List.forall_mem_cons.2 ⟨hi, bound⟩⟩
    rw [ResultSet.keyPositions, hs, lookup_positions, found]
    dsimp only
    rw [hps]

/-- An order reads only what is in place, if its columns are there. -/
theorem orderRead_of_mem {s : ResultSet} {keys : List (String × Direction)}
    (hs : s.index = positions s.columns) (hw : ∀ row ∈ s.rows, row.length = s.columns.length)
    (hk : ∀ k ∈ keys, k.1 ∈ s.columns) : OrderRead s keys := by
  obtain ⟨ps, hps, bound⟩ := keyPositions_of_mem hs hk
  refine ⟨hk, ⟨ps, hps, fun q hq row hr ↦ hw row hr ▸ bound q hq⟩, ?_⟩
  rw [ResultSet.order, hps]
  exact ⟨_, rfl⟩

variable {s : Scope} {t : Table} {order : Order} {records : List Record} {rows : Rows}

/-- How rows come about: a row for each record, or rows for some groups of records, in the slots of
a layout that has all that is carried along. -/
inductive Converts (p : Plan) (t : Table) (extras : List Operand) (records : List Record) :
    Rows → Prop
  | records {l : Layout} (built : Layout.build t Layout.noCalls p.projection extras = .ok l) :
      Converts p t extras records
        (.ofLayout l (records.map fun r ↦ l.slots.map fun slot ↦ r.cell slot.column))
  | groups {l : Layout} {carried : List Operand} {rows : List (List Cell)}
      (built : Layout.build t (Aggregate.ofCall t) p.projection carried = .ok l)
      (ordered : extras ⊆ carried)
      (each : ∀ row ∈ rows, ∃ g ∈ partition p.groupColumns records,
        Rows.groupRow l.slots g = .ok row) :
      Converts p t extras records (.ofLayout l rows)

/-- Rows are converted from records or from groups, with a layout of what is shown and carried
along. -/
theorem converts_of_convert {p : Plan} (hs : Scope.ofPlan p = .ok s)
    (h : convert s t order records = .ok rows) : Converts p t order.extras records rows := by
  have hp : s.plan = p := Scope.plan_of_ofPlan hs
  rw [convert] at h
  split at h
  · rw [groupRecords_eq] at h
    split at h
    · cases h
    · next extras having arguments =>
      have carried := extras_subset_of_groupArguments arguments
      rw [hp, Scope.getD_groupBy hs] at h
      rw [Rows.ofGroups, groups_eq_partition] at h
      split at h
      · cases h
      · next l hl =>
        split at h
        · cases h
        · split at h
          · cases h
          · next all hall =>
            cases h
            refine .groups hl carried fun row hr ↦ ?_
            obtain ⟨each, whole⟩ := mapM_eq_ok hall
            rw [whole (fun g ↦ (Rows.groupRow l.slots g).toOption.getD [])
              fun g _ row hr ↦ by rw [hr]; rfl] at hr
            obtain ⟨g, hg, rfl⟩ := List.mem_map.1 (List.mem_filter.1 hr).1
            obtain ⟨row, hrow⟩ := each g hg
            exact ⟨g, hg, by rw [hrow]; rfl⟩
  · split at h
    · cases h
    · rw [Rows.ofRecords] at h
      split at h
      · cases h
      · next l hl =>
        cases h
        exact .records (hp ▸ hl)

/-- Rows have a cell for each slot of a layout, which holds all that is carried along to order
them. -/
theorem exists_layout_of_convert {p : Plan} (hs : Scope.ofPlan p = .ok s)
    (h : convert s t order records = .ok rows) :
    ∃ onCall extras l, Layout.build t onCall p.projection extras = .ok l ∧
      order.extras ⊆ extras ∧ rows.columns = l.slots.map Slot.column ∧
      ∀ row ∈ rows.rows, row.length = l.slots.length := by
  cases converts_of_convert hs h with
  | records built =>
    refine ⟨_, _, _, built, List.Subset.refl _, rfl, fun row hr ↦ ?_⟩
    obtain ⟨r, -, rfl⟩ := List.mem_map.1 hr
    exact List.length_map _
  | groups built ordered each =>
    refine ⟨_, _, _, built, ordered, rfl, fun row hr ↦ ?_⟩
    obtain ⟨g, -, hrow⟩ := each row hr
    exact length_groupRow hrow

/-- Rows that there are can be ordered as the plan asks for. -/
theorem orderRead_of_convert {p : Plan} (hs : Scope.ofPlan p = .ok s)
    (h : convert s t (s.order t) records = .ok rows) :
    OrderRead (ResultSet.ofRows t rows s.aliases) (s.order t).keys := by
  obtain ⟨onCall, extras, l, hl, carried, columns, wide⟩ := exists_layout_of_convert hs h
  obtain ⟨hselected, hcarried⟩ := Layout.mem_of_build hl
  refine orderRead_of_mem rfl (fun row hr ↦ ?_) ?_
  · show row.length = rows.columns.length
    rw [wide row hr, columns, List.length_map]
  · show ∀ k ∈ (s.order t).keys, k.1 ∈ rows.columns
    rw [columns]
    exact Scope.mem_of_key hs hselected fun x hx ↦ hcarried x (carried hx)

end Order

/-! ## All of them -/

/-- All that is looked up while records become a result is there. -/
structure Materialized (s : Scope) (t : Table) (records : List Record) : Prop where
  ungrouped : ∀ l, Layout.build t Layout.noCalls s.plan.projection (s.order t).extras = .ok l →
    ∀ r ∈ records, ∀ slot ∈ l.slots, (r.cell? slot.column).isSome
  grouped : ∀ extras having l, groupArguments s t (s.order t) = .ok (extras, having) →
    Layout.build t (Aggregate.ofCall t) s.plan.projection extras = .ok l →
    GroupsRead t (s.groupBy.getD []) having l.slots records
  ordered : ∀ rows, convert s t (s.order t) records = .ok rows →
    OrderRead (ResultSet.ofRows t rows s.aliases) (s.order t).keys

/-- All records that a condition gives are of the table of the plan, so that what is looked up in
them is in place. -/
theorem materialized_of_evaluate {σ : Type} {c : Client σ} {p : Plan} {s : Scope} {t : Table}
    {predicate : Predicate} {state state' : σ} {records : List Record}
    (hs : Scope.ofPlan p = .ok s) (he : evaluate c t predicate state = (.ok records, state')) :
    Materialized s t records := by
  have ht := tableOf_of_evaluate he
  refine ⟨fun l hl r hr slot hslot ↦ ?_, fun _ _ _ h hl ↦ groupsRead_of_build hs ht h hl,
    fun _ ↦ orderRead_of_convert hs⟩
  obtain ⟨-, -, filled⟩ := Layout.build_eq_ok hl
  cases filled slot hslot with
  | field known _ => exact isSome_cell? ht known r hr
  | aggregate called => cases called

end LedgerQuery.Query
