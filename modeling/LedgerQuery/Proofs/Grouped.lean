import LedgerQuery.Proofs.Ledger
import LedgerQuery.Proofs.Run
import LedgerQuery.Proofs.Shown

/-!
# Queries with groups

A query that is checked with success asks for plain columns only among those grouped by
(`groupRecords_eq_ok`), so that a row can stand for all records of its group.  Such a query presents
the groups that its condition on groups keeps, each by the cells that it shows (`run_grouped`).
-/

namespace LedgerQuery.Query

open Chain
open Node (Client Ledger twoBlocks)

/-! ## Plans -/

/-- A plan whose rows stand for groups: it groups by columns, or it selects an aggregate. -/
def Plan.Grouped (p : Plan) : Prop :=
  p.groupBy.isSome ∨ ∃ item ∈ p.projection, ∃ c, item.expr = .call c

/-- What the rows are ordered by and the groups are kept by. -/
def Plan.operands (p : Plan) : List Operand :=
  (p.orderBy.getD []).map (fun item ↦ item.expr) ++ p.having.toList.map fun h ↦ h.target

/-- No alias is spelled like a call that the rows are ordered by or the groups are kept by. -/
def Plan.PlainAliases (p : Plan) : Prop :=
  ∀ item ∈ p.projection, ∀ a, item.label = some a → ∀ c, .call c ∈ p.operands →
    Text.lower a ≠ c.name

def Plan.groupColumns (p : Plan) : List String := (p.groupBy.getD []).map Text.lower

/-- Whether a group with some cells is kept: the one that the condition is about is not empty and
compares with the literal as it should. -/
def Plan.keeps (p : Plan) (value : String → Cell) : Bool :=
  match p.having with
  | none => true
  | some h =>
    !(value (p.denoted h.target)).isNull &&
      h.op.holds ((value (p.denoted h.target)).compare (literalCell h.value))

/-- With plain aliases, what a plan sorts or filters by is what its name stands for. -/
theorem Plan.denoted_eq {p : Plan} (h : p.PlainAliases) {x : Operand} (hx : x ∈ p.operands) :
    p.denoted x = p.resolved x.name := by
  cases x with
  | column name => rfl
  | call c =>
    have hc : p.resolved c.name = Text.lower c.name :=
      Plan.resolved_of_unbound fun item hi a ha ↦ by
        rw [Call.lower_name]
        exact h item hi a ha c hx
    exact (hc.trans c.lower_name).symm

theorem Plan.mem_operands_of_orderBy {p : Plan} {item : OrderItem} (h : item ∈ p.orderBy.getD []) :
    item.expr ∈ p.operands :=
  List.mem_append_left _ (List.mem_map_of_mem h)

theorem Plan.mem_operands_of_having {p : Plan} {h : Having} (hh : h ∈ p.having) :
    h.target ∈ p.operands :=
  List.mem_append_right _ (List.mem_map_of_mem (Option.mem_toList.2 hh))

/-- A plan that groups is planned as one that does. -/
theorem Plan.Grouped.isGrouped {p : Plan} (h : p.Grouped) {s : Scope}
    (hs : Scope.ofPlan p = .ok s) : s.isGrouped = true := by
  rw [Scope.ofPlan_eq_ok hs, Scope.isGrouped, Bool.or_eq_true]
  refine h.imp_right fun ⟨item, hi, c, hc⟩ ↦ List.any_eq_true.2 ⟨item, hi, ?_⟩
  rw [hc]

theorem Scope.getD_groupBy {p : Plan} {s : Scope} (h : ofPlan p = .ok s) :
    s.groupBy.getD [] = p.groupColumns := by
  rw [groupBy, plan_of_ofPlan h, Plan.groupColumns]
  cases p.groupBy <;> rfl

/-- Columns grouped by are in lower case. -/
theorem Plan.lower_groupColumns {p : Plan} {column : String} (h : column ∈ p.groupColumns) :
    Text.lower column = column := by
  obtain ⟨name, -, rfl⟩ := List.mem_map.1 h
  exact Text.lower_lower name

/-! ## Checks -/

section Checks

variable {t : Table} {groupBy : List String}

/-- An accepted entry shows no column of the table that is not grouped by. -/
theorem checkSelected_eq_ok {x : Selected} (h : checkSelected t groupBy x = .ok ()) :
    x.plainIn t ⊆ groupBy := by
  cases x with
  | column name =>
    rw [checkSelected] at h
    split at h
    · cases h
    · next c hc =>
      obtain ⟨rfl, -⟩ := column_eq_ok_iff.1 hc
      split at h
      · next hm =>
        intro column hcolumn
        rw [List.mem_singleton.1 hcolumn]
        exact List.contains_iff_mem.1 hm
      · cases h
  | star =>
    rw [checkSelected] at h
    split at h
    · cases h
    · next hf =>
      intro column hcolumn
      have hm := List.find?_eq_none.1 hf column hcolumn
      exact List.contains_iff_mem.1 (by simpa using hm)
  | call c => exact List.nil_subset _

theorem checkSelect_eq_ok {items : List SelectItem} (h : checkSelect t groupBy items = .ok ()) :
    items.flatMap (·.expr.plainIn t) ⊆ groupBy := by
  induction items with
  | nil => exact List.nil_subset _
  | cons item items ih =>
    rw [checkSelect] at h
    split at h
    · next hi =>
      rw [List.flatMap_cons]
      exact List.append_subset.2 ⟨checkSelected_eq_ok hi, ih h⟩
    · cases h

/-- An accepted select list shows no column of the table that is not grouped by. -/
theorem verifyColumns_eq_ok {items : List SelectItem} (h : verifyColumns t groupBy items = .ok ()) :
    items.flatMap (·.expr.plainIn t) ⊆ groupBy := by
  rw [verifyColumns] at h
  split at h
  · exact checkSelect_eq_ok h
  · cases h

/-- Lists of operands are checked one after the other. -/
theorem verifyOrder_append (groupBy : List String) (xs ys : List Operand) :
    verifyOrder groupBy (xs ++ ys) =
      match verifyOrder groupBy xs with
      | .ok () => verifyOrder groupBy ys
      | .error e => .error e := by
  induction xs with
  | nil => rfl
  | cons x xs ih =>
    cases x with
    | column name =>
      rw [List.cons_append, verifyOrder, verifyOrder]
      split
      · exact ih
      · rfl
    | call c => exact ih

/-- An accepted plan is ordered by columns that are grouped by. -/
theorem verifyOrder_eq_ok {xs : List Operand} (h : verifyOrder groupBy xs = .ok ()) {name : String}
    (hx : .column name ∈ xs) : name ∈ groupBy := by
  induction xs with
  | nil => cases hx
  | cons x xs ih =>
    cases x with
    | column c =>
      rw [verifyOrder] at h
      split at h
      · next hc =>
        rcases List.mem_cons.1 hx with hx | hx
        · cases hx
          exact List.contains_iff_mem.1 hc
        · exact ih h hx
      · cases h
    | call c =>
      rcases List.mem_cons.1 hx with hx | hx
      · cases hx
      · exact ih h hx

/-- HAVING is about what its name stands for, and carries only a column that is grouped by. -/
theorem havingFilter_eq_ok {s : Scope} {h : Having} {f : GroupFilter} {extra : Option Operand}
    (hf : havingFilter s t h = .ok (f, extra)) :
    f = .ofLiteral (s.resolve h.target.name) h.op h.value ∧
      ∀ name, extra = some (.column name) → name ∈ s.groupBy.getD [] := by
  rw [havingFilter] at hf
  split at hf
  · next extra he =>
    cases hf
    refine ⟨rfl, ?_⟩
    rintro name rfl
    unfold havingExtra at he
    split at he
    · cases he
    · split at he
      · cases he
      · split at he
        · cases he
        · split at he
          · next hc =>
            cases he
            exact List.contains_iff_mem.1 hc
          · cases he
  · cases hf

/-- What is carried besides was carried before, or is carried for HAVING. -/
theorem mem_addExtra {extras : List Operand} {extra : Option Operand} {x : Operand}
    (h : x ∈ addExtra extras extra) : x ∈ extras ∨ extra = some x := by
  cases extra with
  | none => exact .inl h
  | some y =>
    rw [addExtra] at h
    split at h
    · exact .inl h
    · exact (List.mem_append.1 h).imp_right fun h ↦ by rw [List.mem_singleton.1 h]

/-- Where the checks are passed, all plain columns that are asked for are grouped by. -/
theorem plainColumns_subset {select : List SelectItem} {extras : List Operand}
    (hl : ∀ c ∈ groupBy, Text.lower c = c) (hs : select.flatMap (·.expr.plainIn t) ⊆ groupBy)
    (hx : ∀ name, .column name ∈ extras → name ∈ groupBy) :
    plainColumns t select extras ⊆ groupBy := by
  refine List.append_subset.2 ⟨hs, ?_⟩
  intro column hc
  obtain ⟨x, hxm, hxc⟩ := List.mem_filterMap.1 hc
  cases x with
  | column name =>
    cases hxc
    have hn := hx name hxm
    rwa [hl name hn]
  | call c => cases hxc

/-- A grouped query asks for plain columns only among those grouped by. -/
theorem groupRecords_eq_ok {s : Scope} {o : Order} {records : List Record} {rows : Rows}
    (hl : ∀ c ∈ s.groupBy.getD [], Text.lower c = c)
    (h : groupRecords s t o records = .ok rows) :
    ∃ extras, plainColumns t s.plan.projection extras ⊆ s.groupBy.getD [] ∧
      Rows.ofGroups t s.plan.projection (s.groupBy.getD []) extras
        (s.plan.having.map fun h ↦ .ofLiteral (s.resolve h.target.name) h.op h.value) records =
          .ok rows := by
  rw [groupRecords] at h
  split at h
  · cases h
  · next hselect =>
    split at h
    · cases h
    · next horder =>
      have hs := verifyColumns_eq_ok hselect
      split at h
      · next hnone =>
        refine ⟨o.extras, plainColumns_subset hl hs fun _ ↦ verifyOrder_eq_ok horder, ?_⟩
        rw [hnone]
        exact h
      · next having hsome =>
        split at h
        · cases h
        · next f extra hf =>
          obtain ⟨rfl, hextra⟩ := havingFilter_eq_ok hf
          refine ⟨addExtra o.extras extra, plainColumns_subset hl hs fun name hn ↦ ?_, ?_⟩
          · exact (mem_addExtra hn).elim (verifyOrder_eq_ok horder) (hextra name)
          · rw [hsome]
            exact h

end Checks

/-! ## Rows -/

/-- A slot is found at the position of its column. -/
theorem position?_eq (slots : List Slot) (column : String) :
    Layout.position? slots column = (slots.map Slot.column).idxOf? column := by
  rw [Layout.position?, List.idxOf?, List.findIdx?_map]
  rfl

/-- A condition looks at its column in every row. -/
theorem kept_eq {t : Table} {slots : List Slot} {f : Option GroupFilter}
    {condition : Option (Nat × GroupFilter)}
    (h : f.mapM (Rows.filterPosition t slots) = .ok condition) :
    (∀ f' ∈ f, f'.column ∈ slots.map Slot.column) ∧
      ∀ value : String → Cell, Rows.kept condition ((slots.map Slot.column).map value) =
        f.all fun f ↦ f.keeps (value f.column) := by
  cases f with
  | none =>
    cases h
    exact ⟨fun f' hf ↦ (Option.not_mem_none f' hf).elim, fun _ ↦ rfl⟩
  | some f =>
    have hm : (some f).mapM (Rows.filterPosition t slots) =
        some <$> Rows.filterPosition t slots f := rfl
    rw [hm, Rows.filterPosition, position?_eq] at h
    split at h
    · next i hi =>
      cases h
      constructor
      · rintro f' ⟨⟩
        exact List.isSome_idxOf?.1 (hi ▸ rfl)
      · intro value
        rw [Rows.kept, cell_of_idxOf? hi]
        rfl
    · cases h

/-- Rows of groups: those of the groups that are kept, each with its cells under the columns of a
layout. -/
theorem ofGroups_eq_map {t : Table} {select : List SelectItem} {groupBy : List String}
    {extras : List Operand} {f : Option GroupFilter} {records : List Record} {rows : Rows}
    (h : Rows.ofGroups t select groupBy extras f records = .ok rows) :
    ∃ l, Layout.build t (Aggregate.ofCall t) select extras = .ok l ∧
      (∀ g ∈ partition groupBy records, ∃ row, Rows.groupRow l.slots g = .ok row) ∧
      (∀ f' ∈ f, f'.column ∈ l.slots.map Slot.column) ∧
      rows = Rows.ofLayout l
        (((partition groupBy records).filter fun g ↦
            f.all fun f ↦ f.keeps (cellNamed l.slots g f.column)).map
          fun g ↦ (l.slots.map Slot.column).map (cellNamed l.slots g)) := by
  rw [Rows.ofGroups, groups_eq_partition] at h
  split at h
  · cases h
  · next l hl =>
    obtain ⟨-, -, filled⟩ := Layout.build_eq_ok hl
    split at h
    · cases h
    · next condition hcondition =>
      split at h
      · cases h
      · next all hall =>
        cases h
        obtain ⟨hok, hmap⟩ := mapM_eq_ok hall
        obtain ⟨hcolumns, hkept⟩ := kept_eq hcondition
        refine ⟨l, hl, hok, hcolumns, ?_⟩
        have hf :
            Rows.kept condition ∘ (fun g ↦ (l.slots.map Slot.column).map (cellNamed l.slots g)) =
            fun g ↦ f.all fun f ↦ f.keeps (cellNamed l.slots g f.column) :=
          funext fun g ↦ hkept (cellNamed l.slots g)
        rw [hmap _ fun g _ row hr ↦ (groupRow_eq_map filled hr).symm, List.filter_map, hf]

/-- Rows of groups show each group that is kept, in the order of the groups. -/
theorem ofGroups_eq_ok {t : Table} {select : List SelectItem} {groupBy : List String}
    {extras : List Operand} {f : Option GroupFilter} {records : List Record} {rows : Rows}
    (ht : ∀ r ∈ records, tableOf r = t) (hp : plainColumns t select extras ⊆ groupBy)
    (h : Rows.ofGroups t select groupBy extras f records = .ok rows) :
    ∃ l, Layout.build t (Aggregate.ofCall t) select extras = .ok l ∧
      (∀ g ∈ partition groupBy records, ∀ name ∈ l.slots.map Slot.column,
        Shows t g name (cellNamed l.slots g name)) ∧
      (∀ f' ∈ f, f'.column ∈ l.slots.map Slot.column) ∧
      rows = Rows.ofLayout l
        (((partition groupBy records).filter fun g ↦
            f.all fun f ↦ f.keeps (cellNamed l.slots g f.column)).map
          fun g ↦ (l.slots.map Slot.column).map (cellNamed l.slots g)) := by
  obtain ⟨l, hl, hok, hcolumns, hrows⟩ := ofGroups_eq_map h
  obtain ⟨-, -, filled⟩ := Layout.build_eq_ok hl
  refine ⟨l, hl, fun g hg ↦ ?_, hcolumns, hrows⟩
  obtain ⟨row, hr⟩ := hok g hg
  exact shows_of_groupRow ht hg (fun s hs ↦ (filled s hs).mono hp) hr

section Keeps

variable {p : Plan} {s : Scope}

/-- A group is kept if HAVING holds of its cell, which must not be empty. -/
theorem keeps_resolved (hs : Scope.ofPlan p = .ok s) (value : String → Cell) :
    ((p.having.map fun h ↦ GroupFilter.ofLiteral (s.resolve h.target.name) h.op h.value).all
      fun f ↦ f.keeps (value f.column)) =
    p.having.all fun h ↦ !(value (p.resolved h.target.name)).isNull &&
      h.op.holds ((value (p.resolved h.target.name)).compare (literalCell h.value)) := by
  simp only [Scope.resolve_ofPlan hs]
  rw [Option.all_map]
  simp only [GroupFilter.ofLiteral, GroupFilter.keeps]

/-- With plain aliases, a group is kept by what the plan says of its cells. -/
theorem keeps_eq (hs : Scope.ofPlan p = .ok s) (ha : p.PlainAliases) (value : String → Cell) :
    ((p.having.map fun h ↦ GroupFilter.ofLiteral (s.resolve h.target.name) h.op h.value).all
      fun f ↦ f.keeps (value f.column)) = p.keeps value := by
  rw [keeps_resolved hs, Plan.keeps]
  cases hh : p.having with
  | none => rfl
  | some h =>
    dsimp only
    rw [Plan.denoted_eq ha (Plan.mem_operands_of_having hh)]
    rfl

end Keeps

/-! ## Runs -/

/-- A query with groups presents the groups of the records that its condition gave, as far as its
condition on groups keeps them: in the order of the keys, cut to the limit, and each by what it
shows under the names of the select list. -/
theorem run_grouped {σ : Type} {c : Client σ} {p : Plan} {state state' : σ} {result : ResultSet}
    (h : p.Grouped) (ha : p.PlainAliases) (hr : run c p state = (.ok result, state')) :
    ∃ t predicate records, Table.ofName? p.table = some t ∧ p.selection = some predicate ∧
      evaluate c t predicate state = (.ok records, state') ∧
      (partition p.groupColumns records).flatten.Perm records ∧
      (∀ r ∈ records, (partition p.groupColumns records).countP (fun g ↦ r ∈ g) = 1) ∧
      ∃ value : List Record → String → Cell,
        (∀ g ∈ partition p.groupColumns records, ∀ name,
          name ∈ p.columns t ∨ name ∈ p.orderKeys.map Prod.fst ∨
              (∃ h ∈ p.having, name = p.denoted h.target) →
            Shows t g name (value g name)) ∧
        Presents p t value p.orderKeys
          ((partition p.groupColumns records).filter fun g ↦ p.keeps (value g)) result := by
  obtain ⟨s, t, predicate, records, hs, ht, hpr, he, hf⟩ := run_eq_ok_iff.1 hr
  obtain ⟨rows, r, hrows, ho, rfl⟩ := finish_eq_ok hf
  have hp : s.plan = p := Scope.plan_of_ofPlan hs
  have hgroup : s.groupBy.getD [] = p.groupColumns := by
    rw [Scope.groupBy, hp, Plan.groupColumns]
    cases p.groupBy <;> rfl
  rw [convert, if_pos (h.isGrouped hs)] at hrows
  obtain ⟨extras, hplain, hrows⟩ := groupRecords_eq_ok
    (fun c hc ↦ Plan.lower_groupColumns (hgroup ▸ hc)) hrows
  rw [hgroup, hp] at hplain hrows
  obtain ⟨l, hl, hshows, hcolumn, rfl⟩ := ofGroups_eq_ok (tableOf_of_evaluate he) hplain hrows
  simp only [keeps_eq hs ha] at ho
  obtain ⟨hk, hpresents⟩ := Presents.of_layout hl
    (keys_order hs fun item hi ↦ Plan.denoted_eq ha (Plan.mem_operands_of_orderBy hi)) ho
    fun column hc g hg g' hg' ↦
      (hshows g (List.mem_filter.1 hg).1 column hc).unmixed
        (hshows g' (List.mem_filter.1 hg').1 column hc)
  rw [hp]
  refine ⟨t, predicate, records, ht, hpr, he, flatten_partition _ _,
    fun r hr ↦ countP_partition _ hr, cellNamed l.slots, fun g hg name hn ↦ hshows g hg name ?_,
    hpresents⟩
  obtain hn | hn | ⟨having, hhaving, rfl⟩ := hn
  · rw [Plan.columns, ← (Layout.build_eq_ok hl).1] at hn
    exact List.mem_of_mem_take hn
  · obtain ⟨k, hk', rfl⟩ := List.mem_map.1 hn
    exact hk k hk'
  · rw [Plan.denoted_eq ha (Plan.mem_operands_of_having hhaving), ← Scope.resolve_ofPlan hs]
    exact hcolumn _ (Option.mem_map_of_mem _ hhaving)

/-- The latest block with how many transactions it has. -/
def latestCount : Plan where
  projection := [⟨.column "BlockNumber", some "Block"⟩, ⟨.call ⟨"COUNT", .star⟩, none⟩]
  table := "Transactions"
  selection := some (.logical .or [.equals "blocknumber" "1", .equals "blocknumber" "2"])
  groupBy := some ["BlockNumber"]
  having := some ⟨.call ⟨"max", .column "blocknumber"⟩, .ge, "1"⟩
  orderBy := some [⟨.call ⟨"Sum", .column "nonce"⟩, .asc⟩, ⟨.column "BLOCK", .desc⟩]
  limit := some 1

theorem plainAliases_latestCount : latestCount.PlainAliases := by
  intro item hi a ha c hc
  simp only [latestCount, List.mem_cons, List.not_mem_nil, or_false] at hi
  simp only [latestCount, Plan.operands, Option.getD_some, Option.toList_some, List.map_cons,
    List.map_nil, List.cons_append, List.nil_append, List.mem_cons, List.not_mem_nil, or_false,
    Operand.call.injEq, reduceCtorEq, false_or] at hc
  rcases hi with rfl | rfl
  · cases ha
    rcases hc with rfl | rfl <;> decide
  · cases ha

theorem run_grouped_latestCount :
    ∃ result l, run Ledger.client latestCount (Ledger.ofBlocks twoBlocks) = (.ok result, l) ∧
      result.columns = ["blocknumber", "count(*)"] ∧
      ∃ t, ∃ value : List Record → String → Cell, ∃ groups,
        Presents latestCount t value latestCount.orderKeys groups result := by
  have ok : (run Ledger.client latestCount (Ledger.ofBlocks twoBlocks)).1.toOption.map
      (fun r ↦ r.columns) = some ["blocknumber", "count(*)"] := by decide +kernel
  obtain ⟨result, l, hr, columns⟩ := exists_run_eq_ok ok
  obtain ⟨t, _, _, _, _, _, _, _, value, _, hp⟩ :=
    run_grouped (.inl rfl) plainAliases_latestCount hr
  exact ⟨result, l, hr, columns, t, value, _, hp⟩

end LedgerQuery.Query
