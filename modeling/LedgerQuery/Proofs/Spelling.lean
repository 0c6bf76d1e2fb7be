import LedgerQuery.Proofs.Folding

/-!
# The case of names

A plan without capitals has the same rows, groups, checks and order as the plan itself, and so the
same outcome but for the spelling of headers and of names in errors (`run_folded`).  What is
reported while groups are totalled is named as the table names it (`Unspelled`).  Two spellings of a
plan have the same plan without capitals, and therefore one outcome.
-/

namespace LedgerQuery.Query

open Chain
open Node (Client Ledger twoBlocks)

/-! ## Totals -/

/-- An outcome that is the same for every spelling: its error, if it is one, has no name that a plan
spells. -/
def Unspelled {α : Type} (x : Except Error α) : Prop := folding id x = x

theorem unspelled_of_throws {α : Type} {x : Except Error α} (h : Throws (fun e ↦ e.folded = e) x) :
    Unspelled x := by
  cases x with
  | ok a => rfl
  | error e => exact congrArg Except.error (h e rfl)

/-- Totals name their column as the table does. -/
theorem ofAggregates_folded : OfAggregates fun e ↦ e.folded = e :=
  ⟨fun _ ↦ rfl, fun _ ↦ rfl, fun _ ↦ rfl⟩

/-! ## Rows -/

def Rows.folded (r : Rows) : Rows := { r with labels := r.labels.map Text.fold }

namespace Rows

variable {t : Table}

/-- Rows in a folded layout are the rows with folded labels. -/
theorem ofLayout_folded (l : Layout) (rows : List (List Cell)) :
    ofLayout l.folded rows = (ofLayout l rows).folded := by
  rw [ofLayout, ofLayout, folded, Layout.folded]
  dsimp only
  rw [List.map_map, List.map_map, List.map_map]
  rfl

/-- Rows of records do not depend on the spelling of the select list and of what is sorted by. -/
theorem ofRecords_folded (select : List SelectItem) (extras : List Operand)
    (records : List Record) :
    ofRecords t (select.map SelectItem.folded) (distinctFolded extras) records =
      folding folded (ofRecords t select extras records) := by
  rw [ofRecords, ofRecords, Layout.build_folded noCalls_folded]
  cases Layout.build t Layout.noCalls select extras with
  | error e => rfl
  | ok l =>
    have cells (r : Record) : (l.folded.slots.map fun s ↦ r.cell s.column) =
        l.slots.map fun s ↦ r.cell s.column := List.map_map
    dsimp only [folding]
    rw [ofLayout_folded]
    simp only [cells]

/-- The cells of a group do not depend on how the columns are spelled. -/
theorem groupRow_folded (slots : List Slot) (g : List Record) :
    groupRow (slots.map Slot.folded) g = groupRow slots g := by
  rw [groupRow, groupRow]
  induction slots with
  | nil => rfl
  | cons s slots ih =>
    have cell : groupCell g s.folded = groupCell g s := rfl
    rw [List.map_cons, List.mapM_cons, List.mapM_cons, ih, cell]

/-- The slot that HAVING is about is found however the slots are spelled. -/
theorem filterPosition_folded (slots : List Slot) {f : GroupFilter}
    (hf : Text.fold f.column = f.column) :
    filterPosition t (slots.map Slot.folded) f = folding id (filterPosition t slots f) := by
  rw [filterPosition, filterPosition, Layout.position?_folded]
  cases Layout.position? slots f.column with
  | none => exact congrArg (fun c ↦ Except.error (Error.unknownColumn c t)) hf.symm
  | some i => rfl

/-- Rows of groups do not depend on the spelling of the select list and of what is sorted by. -/
theorem ofGroups_folded (select : List SelectItem) (groupBy : List String) (extras : List Operand)
    {having : Option GroupFilter} (hf : ∀ f ∈ having, Text.fold f.column = f.column)
    (records : List Record) :
    ofGroups t (select.map SelectItem.folded) groupBy (distinctFolded extras) having records =
      folding folded (ofGroups t select groupBy extras having records) := by
  rw [ofGroups, ofGroups, Layout.build_folded ofCall_folded]
  cases Layout.build t (Aggregate.ofCall t) select extras with
  | error e => rfl
  | ok l =>
    have condition : having.mapM (filterPosition t (l.slots.map Slot.folded)) =
        folding id (having.mapM (filterPosition t l.slots)) := by
      cases having with
      | none => rfl
      | some f =>
        dsimp only [Option.mapM]
        rw [filterPosition_folded l.slots (hf f rfl)]
        cases filterPosition t l.slots f <;> rfl
    have rows : Unspelled ((groups groupBy records).mapM (groupRow l.slots)) :=
      unspelled_of_throws (.mapM (throws_groupRow ofAggregates_folded l.slots))
    have same : groupRow (l.slots.map Slot.folded) = groupRow l.slots :=
      funext fun g ↦ groupRow_folded l.slots g
    dsimp only [folding, Layout.folded]
    rw [condition, same]
    cases having.mapM (filterPosition t l.slots) with
    | error e => rfl
    | ok condition =>
      dsimp only [folding, id]
      revert rows
      cases (groups groupBy records).mapM (groupRow l.slots) with
      | error e => exact fun rows ↦ congrArg Except.error (Except.error.inj rows).symm
      | ok rows => exact fun _ ↦ congrArg Except.ok (ofLayout_folded l _)

end Rows

/-! ## Groups -/

section Grouped

variable {t : Table} {groupBy : List String}

theorem checkGroupColumns_folded (names : List String) :
    checkGroupColumns t (names.map Text.fold) = folding id (checkGroupColumns t names) := by
  induction names with
  | nil => rfl
  | cons name names ih =>
    rw [List.map_cons, checkGroupColumns, checkGroupColumns, column_folded]
    cases column t name with
    | error e => rfl
    | ok c => exact ih

/-- A selected name or call is accepted beside GROUP BY under any spelling. -/
theorem checkSelected_folded (expr : Selected) :
    checkSelected t groupBy expr.folded = folding id (checkSelected t groupBy expr) := by
  cases expr with
  | call c => rfl
  | column name =>
    rw [Selected.folded, checkSelected, checkSelected, column_folded]
    cases column t name with
    | error e => rfl
    | ok c =>
      dsimp only [folding, id]
      split <;> rfl
  | star =>
    rw [Selected.folded, checkSelected]
    split
    · next c hc =>
      have known : Text.fold c = c := Table.fold_of_mem_columns (List.mem_of_find?_eq_some hc)
      exact congrArg (fun c ↦ Except.error (Error.ungroupedColumn c)) known.symm
    · rfl

theorem checkSelect_folded (items : List SelectItem) :
    checkSelect t groupBy (items.map SelectItem.folded) =
      folding id (checkSelect t groupBy items) := by
  induction items with
  | nil => rfl
  | cons item items ih =>
    rw [List.map_cons, checkSelect, checkSelect]
    dsimp only [SelectItem.folded]
    rw [checkSelected_folded]
    cases checkSelected t groupBy item.expr with
    | error e => rfl
    | ok _ => exact ih

/-- The select list is accepted beside GROUP BY under any spelling. -/
theorem verifyColumns_folded (hg : groupBy.map Text.fold = groupBy) (select : List SelectItem) :
    verifyColumns t groupBy (select.map SelectItem.folded) =
      folding id (verifyColumns t groupBy select) := by
  have columns := checkGroupColumns_folded (t := t) groupBy
  rw [hg] at columns
  rw [verifyColumns, verifyColumns, checkSelect_folded]
  revert columns
  cases checkGroupColumns t groupBy with
  | error e => exact fun columns ↦ congrArg Except.error (Except.error.inj columns)
  | ok _ => exact fun _ ↦ rfl

/-- What is ordered by twice is checked as if it were there once. -/
theorem verifyOrder_eraseDups (xs : List Operand) :
    verifyOrder groupBy xs.eraseDups = verifyOrder groupBy xs := by
  induction xs using List.reverseRecOn with
  | nil => rfl
  | append_singleton xs x ih =>
    rw [Keyed.eraseDups_concat, verifyOrder_append]
    split
    · next hx =>
      rw [ih]
      cases h : verifyOrder groupBy xs with
      | error e => rfl
      | ok _ =>
        cases x with
        | call c => rfl
        | column name =>
          dsimp only
          rw [verifyOrder, if_pos (List.contains_iff_mem.2 (verifyOrder_eq_ok h hx))]
          rfl
    · rw [verifyOrder_append, ih]

/-- What a plan is ordered by is accepted beside GROUP BY under any spelling. -/
theorem verifyOrder_folded {xs : List Operand} (hx : ∀ c, .column c ∈ xs → Text.fold c = c) :
    verifyOrder groupBy (distinctFolded xs) = folding id (verifyOrder groupBy xs) := by
  rw [distinctFolded, verifyOrder_eraseDups]
  induction xs with
  | nil => rfl
  | cons x xs ih =>
    have ih := ih fun c hc ↦ hx c (List.mem_cons_of_mem x hc)
    cases x with
    | call c => exact ih
    | column name =>
      rw [List.map_cons, Operand.folded, hx name List.mem_cons_self, verifyOrder, verifyOrder]
      split
      · exact ih
      · rfl

variable {p : Plan} {s : Scope}

/-- HAVING carries the same further column, however the condition is spelled. -/
theorem havingExtra_folded (s : Scope) (target : Operand) {column : String}
    (hc : Text.fold column = column) :
    havingExtra s.folded t target.folded column =
      folding (Option.map Operand.folded) (havingExtra s t target column) := by
  have selected : s.folded.selected = s.selected := rfl
  rw [havingExtra.eq_def, havingExtra.eq_def, Scope.groupBy_folded, selected]
  by_cases shown : s.selected.contains column = true
  · rw [if_pos shown, if_pos shown]
    rfl
  · rw [if_neg shown, if_neg shown]
    cases target with
    | call c => rfl
    | column name =>
      have known := column_folded (t := t) column
      rw [hc] at known
      dsimp only [Operand.folded]
      cases h : Query.column t column with
      | error e =>
        rw [h] at known
        exact congrArg Except.error (Except.error.inj known)
      | ok c =>
        have fixed := (fold_of_column h).symm
        dsimp only
        split
        · exact congrArg (fun c ↦ Except.ok (some (Operand.column c))) fixed
        · exact congrArg (fun c ↦ Except.error (Error.ungroupedColumn c)) fixed

/-- The condition that groups are kept by is resolved alike under any spelling. -/
theorem havingFilter_folded (hs : Scope.ofPlan p = .ok s) (h : Having) :
    havingFilter s.folded t h.folded =
      folding (fun q ↦ (q.1, q.2.map Operand.folded)) (havingFilter s t h) := by
  have name : s.folded.resolve h.folded.target.name = s.resolve h.target.name :=
    Order.resolve_name_folded s.aliases h.target
  rw [havingFilter, havingFilter, name]
  dsimp only [Having.folded]
  rw [havingExtra_folded s h.target (Scope.fold_resolve hs _)]
  cases havingExtra s t h.target (s.resolve h.target.name) <;> rfl

/-- What grouping is given by a plan does not depend on the spelling of its names. -/
theorem groupArguments_folded (hs : Scope.ofPlan p = .ok s) {order : Order}
    (ho : ∀ c, .column c ∈ order.extras → Text.fold c = c) :
    groupArguments s.folded t order.folded =
      folding (fun q ↦ (distinctFolded q.1, q.2)) (groupArguments s t order) := by
  have select : s.folded.plan.projection = s.plan.projection.map SelectItem.folded := rfl
  have having : s.folded.plan.having = s.plan.having.map Having.folded := rfl
  have extras : order.folded.extras = distinctFolded order.extras := rfl
  rw [groupArguments, groupArguments, Scope.groupBy_folded, select, having, extras,
    verifyColumns_folded s.fold_groupBy, verifyOrder_folded ho]
  cases verifyColumns t (s.groupBy.getD []) s.plan.projection with
  | error e => rfl
  | ok _ =>
    cases verifyOrder (s.groupBy.getD []) order.extras with
    | error e => rfl
    | ok _ =>
      cases s.plan.having with
      | none => rfl
      | some h =>
        dsimp only [folding, id, Option.map_some]
        rw [havingFilter_folded hs h]
        cases havingFilter s t h with
        | error e => rfl
        | ok q =>
          have carried := (distinctFolded_addExtra order.extras q.2).symm
          exact congrArg (fun xs ↦ Except.ok (xs, some q.1)) carried

/-- Groups are kept by a column without capitals. -/
theorem fold_of_groupArguments (hs : Scope.ofPlan p = .ok s) {order : Order} {extras : List Operand}
    {having : Option GroupFilter} (h : groupArguments s t order = .ok (extras, having)) :
    ∀ f ∈ having, Text.fold f.column = f.column := by
  obtain ⟨-, -, ⟨-, rfl, -⟩ | ⟨clause, -, f, extra, hf, -, rfl⟩⟩ := groupArguments_eq_ok h
  · exact fun f hf ↦ (Option.not_mem_none f hf).elim
  · rintro f' ⟨⟩
    rw [(havingFilter_eq_ok hf).1]
    exact Scope.fold_resolve hs _

/-- Grouping fails alike, or gives the same cells, under any spelling. -/
theorem groupRecords_folded (hs : Scope.ofPlan p = .ok s) {order : Order}
    (ho : ∀ c, .column c ∈ order.extras → Text.fold c = c) (records : List Record) :
    groupRecords s.folded t order.folded records =
      folding Rows.folded (groupRecords s t order records) := by
  rw [groupRecords_eq, groupRecords_eq, groupArguments_folded hs ho, Scope.groupBy_folded]
  cases h : groupArguments s t order with
  | error e => rfl
  | ok q =>
    obtain ⟨extras, having⟩ := q
    exact Rows.ofGroups_folded s.plan.projection _ extras (fold_of_groupArguments hs h) records

/-- Making rows of records fails alike, or gives the same cells, under any spelling. -/
theorem convert_folded (hs : Scope.ofPlan p = .ok s) {order : Order}
    (ho : ∀ c, .column c ∈ order.extras → Text.fold c = c) (records : List Record) :
    convert s.folded t order.folded records = folding Rows.folded (convert s t order records) := by
  have having : s.folded.plan.having.isSome = s.plan.having.isSome := Option.isSome_map
  rw [convert, convert, Scope.isGrouped_folded, having]
  split
  · exact groupRecords_folded hs ho records
  · split
    · rfl
    · exact Rows.ofRecords_folded s.plan.projection order.extras records

end Grouped

/-! ## Results -/

namespace ResultSet

def folded (r : ResultSet) : ResultSet := { r with labels := r.labels.map Text.fold }

/-- Keys are found at the same positions when the labels are folded. -/
theorem keyPositions_folded (r : ResultSet) (keys : List (String × Direction)) :
    r.folded.keyPositions keys = r.keyPositions keys := by
  induction keys with
  | nil => rfl
  | cons k keys ih =>
    rw [keyPositions, keyPositions, ih]
    rfl

theorem order_folded {r ordered : ResultSet} {keys : List (String × Direction)}
    (h : r.order keys = .ok ordered) : r.folded.order keys = .ok ordered.folded := by
  rw [order] at h ⊢
  rw [keyPositions_folded]
  split at h
  · cases h
  · next ps hps =>
    cases h
    rfl

/-- The rows that are cut and projected are the same when the labels are folded. -/
theorem project_cut_folded (limit : Option Nat) (r : ResultSet) :
    (cut limit r.folded).project = (cut limit r).project.folded := by
  rw [rows_cut, rows_cut, project, project, folded, folded]
  dsimp only
  split
  · rfl
  · rw [List.map_take]

end ResultSet

section Runs

variable {p : Plan} {s : Scope} {t : Table}

/-- What is made of the records that were found does not depend on the spelling of names. -/
theorem finish_folded (hs : Scope.ofPlan p = .ok s) (records : List Record) :
    finish s.folded t records = folding ResultSet.folded (finish s t records) := by
  have extras : ∀ c, .column c ∈ (s.order t).extras → Text.fold c = c :=
    Order.fold_of_mem_extras (Scope.fold_resolve hs) _
  rw [finish, finish, Scope.order_folded hs, convert_folded hs extras]
  cases h : convert s t (s.order t) records with
  | error e => rfl
  | ok rows =>
    obtain ⟨ordered, ho⟩ := (orderRead_of_convert hs h).ordered
    have ho' : (ResultSet.ofRows t rows.folded s.folded.aliases).order (s.order t).folded.keys =
        .ok ordered.folded := ResultSet.order_folded ho
    dsimp only [folding]
    rw [ho, ho']
    exact congrArg Except.ok (ResultSet.project_cut_folded s.plan.limit ordered)

/-- A plan without capitals makes the same lookups, and has the same result but for its headers, or
the same error but for the case of the name in it. -/
theorem run_folded {σ : Type} (c : Client σ) (p : Plan) (state : σ) :
    run c p.folded state = (folding ResultSet.folded (run c p state).1, (run c p state).2) := by
  rw [run_eq, run_eq, prepare_folded]
  cases h : prepare p with
  | error e => rfl
  | ok q =>
    obtain ⟨s, t, predicate⟩ := q
    have hs : Scope.ofPlan p = .ok s := (prepare_eq_ok_iff.1 h).1
    dsimp only [folding]
    rw [evaluate_folded]
    rcases evaluate c t predicate state with ⟨e | records, state'⟩
    · rfl
    · exact congrArg (·, state') (finish_folded hs records)

end Runs

/-! ## Two spellings -/

/-- Two spellings of a plan make the same lookups in the same order.  Either both have the same
result, up to the spelling of aliases in its headers, or both fail with the same error, up to the
spelling of the name in it. -/
theorem run_sameNames {σ : Type} (c : Client σ) {p q : Plan} (h : p.SameNames q) (state : σ) :
    (run c.recorded p (state, [])).2 = (run c.recorded q (state, [])).2 ∧
    (run c p state).2 = (run c q state).2 ∧
    ((∃ (t : Table) (r : ResultSet), Table.ofName? p.table = some t ∧
      Table.ofName? q.table = some t ∧
        (run c p state).1 = .ok { r with labels := p.labels t } ∧
        (run c q state).1 = .ok { r with labels := q.labels t } ∧
        (p.labels t).map Text.fold = (q.labels t).map Text.fold) ∨
      ∃ e e', (run c p state).1 = .error e ∧ (run c q state).1 = .error e' ∧
        e.folded = e'.folded) := by
  have same {τ : Type} (d : Client τ) (u : τ) :
      folding ResultSet.folded (run d p u).1 = folding ResultSet.folded (run d q u).1 ∧
        (run d p u).2 = (run d q u).2 := by
    have hp := run_folded d p u
    rw [h] at hp
    exact Prod.mk.inj (hp.symm.trans (run_folded d q u))
  obtain ⟨outcomes, states⟩ := same c state
  refine ⟨(same c.recorded (state, [])).2, states, ?_⟩
  rcases hp : run c p state with ⟨e | r, state₁⟩
  · rcases hq : run c q state with ⟨e' | r', state₂⟩
    · rw [hp, hq] at outcomes
      exact .inr ⟨e, e', rfl, rfl, Except.error.inj outcomes⟩
    · rw [hp, hq] at outcomes
      cases outcomes
  · rcases hq : run c q state with ⟨e' | r', state₂⟩
    · rw [hp, hq] at outcomes
      cases outcomes
    · rw [hp, hq] at outcomes
      have folded : r.folded = r'.folded := Except.ok.inj outcomes
      obtain ⟨t, ht, shown⟩ := projects_of_run hp
      obtain ⟨t', ht', shown'⟩ := projects_of_run hq
      have table : Text.fold p.table = Text.fold q.table := congrArg Plan.table h
      have tables : t = t' := by
        rw [← Table.ofName?_fold, table, Table.ofName?_fold, ht'] at ht
        exact (Option.some_inj.1 ht).symm
      subst tables
      refine .inl ⟨t, r, ht, ht', ?_, ?_, ?_⟩
      · rw [← shown.labels]
      · rw [← shown'.labels]
        cases r
        cases r'
        obtain ⟨rfl, rfl, -, rfl, rfl, rfl, rfl⟩ := ResultSet.mk.inj folded
        rfl
      · rw [← shown.labels, ← shown'.labels]
        exact congrArg ResultSet.labels folded

/-- The latest block with how many transactions it has, in other letters. -/
def quietCount : Plan where
  projection := [⟨.column "blocknumber", some "BLOCK"⟩, ⟨.call ⟨"Count", .star⟩, none⟩]
  table := "transactions"
  selection := some (.logical .or [.equals "BlockNumber" "1", .equals "BLOCKNUMBER" "2"])
  groupBy := some ["blockNUMBER"]
  having := some ⟨.call ⟨"MAX", .column "BlockNumber"⟩, .ge, "1"⟩
  orderBy := some [⟨.call ⟨"SUM", .column "Nonce"⟩, .asc⟩, ⟨.column "block", .desc⟩]
  limit := some 1

theorem sameNames_latestCount : latestCount.SameNames quietCount := by
  have number : Text.fold "blocknumber" = Text.fold "BlockNumber" ∧
      Text.fold "blocknumber" = Text.fold "BLOCKNUMBER" := by decide +kernel
  rw [Plan.SameNames, Plan.folded, Plan.folded, Plan.mk.injEq]
  refine ⟨by decide +kernel, by decide +kernel, ?_, by decide +kernel, by decide +kernel,
    by decide +kernel, rfl⟩
  simp only [latestCount, quietCount, Option.map_some, Predicate.folded, List.map_cons,
    List.map_nil, ← number.1, ← number.2]

theorem run_sameNames_latestCount :
    latestCount.SameNames quietCount ∧
    ∃ (t : Table) (r : ResultSet), r.columns = ["blocknumber", "count(*)"] ∧
      (run Ledger.client latestCount (Ledger.ofBlocks twoBlocks)).1 =
        .ok { r with labels := latestCount.labels t } ∧
      (run Ledger.client quietCount (Ledger.ofBlocks twoBlocks)).1 =
        .ok { r with labels := quietCount.labels t } := by
  refine ⟨sameNames_latestCount, ?_⟩
  have ok : (run Ledger.client latestCount (Ledger.ofBlocks twoBlocks)).1.toOption.map
      (fun r ↦ r.columns) = some ["blocknumber", "count(*)"] := by decide +kernel
  obtain ⟨-, -, ⟨t, r, -, -, hp, hq, -⟩ | ⟨e, -, hp, -⟩⟩ :=
    run_sameNames Ledger.client sameNames_latestCount (Ledger.ofBlocks twoBlocks)
  · rw [hp] at ok
    exact ⟨t, r, Option.some_inj.1 ok, hp, hq⟩
  · rw [hp] at ok
    cases ok

end LedgerQuery.Query
