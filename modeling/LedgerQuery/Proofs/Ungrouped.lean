import LedgerQuery.Proofs.Ledger
import LedgerQuery.Proofs.Run

/-!
# Queries without groups

Where nothing is grouped every record is a row.  A query that selects and orders by columns only
presents the records that its condition is answered by, each by its own cells (`run_ungrouped`).
-/

namespace LedgerQuery.Query

open Chain
open Node (Client Ledger twoBlocks)

/-- A plan without groups, which selects columns and orders by columns. -/
structure Plan.Ungrouped (p : Plan) : Prop where
  groupBy : p.groupBy = none
  having : p.having = none
  select : ∀ item ∈ p.projection, ∀ c, item.expr ≠ .call c
  orderBy : ∀ item ∈ p.orderBy.getD [], ∀ c, item.expr ≠ .call c

namespace Plan.Ungrouped

variable {p : Plan} {s : Scope} {t : Table}

theorem isGrouped (h : p.Ungrouped) (hs : Scope.ofPlan p = .ok s) : s.isGrouped = false := by
  rw [Scope.ofPlan_eq_ok hs, Scope.isGrouped, h.groupBy, Bool.or_eq_false_iff]
  refine ⟨rfl, List.any_eq_false.2 fun item hi hc ↦ ?_⟩
  split at hc
  · next c hx => exact h.select item hi c hx
  · cases hc

theorem keys_order (h : p.Ungrouped) (hs : Scope.ofPlan p = .ok s) :
    (s.order t).keys = Keyed.firsts p.orderKeys := by
  apply Query.keys_order hs
  intro item hi
  cases hx : item.expr with
  | column name => rfl
  | call c => exact absurd hx (h.orderBy item hi c)

/-- Each record is a row, with its own cells in the columns of a layout. -/
theorem convert_eq_ok (h : p.Ungrouped) (hs : Scope.ofPlan p = .ok s) {o : Order}
    {records : List Record} {rows : Rows} (hc : convert s t o records = .ok rows) :
    ∃ l, Layout.build t Layout.noCalls p.projection o.extras = .ok l ∧
      rows = Rows.ofLayout l
        (records.map fun r ↦ (l.slots.map Slot.column).map r.cell) := by
  have hp : s.plan = p := Scope.plan_of_ofPlan hs
  rw [convert, h.isGrouped hs, hp, h.having] at hc
  simp only [Bool.false_eq_true, if_false, Option.isSome_none] at hc
  rw [Rows.ofRecords] at hc
  split at hc
  · cases hc
  · next l hl =>
    cases hc
    refine ⟨l, hl, ?_⟩
    simp only [List.map_map, Function.comp_def]

end Plan.Ungrouped

/-- Without calls every slot is a column of the table. -/
theorem mem_columns_of_noCalls {t : Table} {plain : List String} {s : Slot}
    (h : Layout.Filled t Layout.noCalls plain s) : s.column ∈ t.columns := by
  cases h with
  | field known _ => exact known
  | aggregate called => cases called

/-- A query without groups presents the records that its condition gave: in the order of the keys,
cut to the limit, and each by its cells in the columns of the select list. -/
theorem run_ungrouped {σ : Type} {c : Client σ} {p : Plan} {state state' : σ} {result : ResultSet}
    (h : p.Ungrouped) (hr : run c p state = (.ok result, state')) :
    ∃ t predicate records, Table.ofName? p.table = some t ∧ p.selection = some predicate ∧
      evaluate c t predicate state = (.ok records, state') ∧
      Presents p t Record.cell p.orderKeys records result ∧
      (∀ before k after, p.orderKeys = before ++ k :: after → k.1 ∈ before.map Prod.fst →
        Presents p t Record.cell (before ++ after) records result) ∧
      (∀ column, column ∈ p.columns t ∨ column ∈ p.orderKeys.map Prod.fst →
        ∀ r ∈ records, r.cell? column = some (r.cell column)) := by
  obtain ⟨s, t, predicate, records, hs, ht, hpr, he, hf⟩ := run_eq_ok_iff.1 hr
  obtain ⟨rows, r, hrows, ho, rfl⟩ := finish_eq_ok hf
  obtain ⟨l, hl, rfl⟩ := h.convert_eq_ok hs hrows
  have hp : s.plan = p := Scope.plan_of_ofPlan hs
  obtain ⟨hk, hpresents⟩ := Presents.of_layout hl (h.keys_order hs) ho fun column _ a _ b _ ↦
    Cell.unmixed_of_not_isFloat (a.isFloat_cell column) (b.isFloat_cell column)
  rw [hp]
  refine ⟨t, predicate, records, ht, hpr, he, hpresents, fun before k after hb hk ↦ ?_,
    fun column hc r hr ↦ ?_⟩
  · exact (hb ▸ hpresents).of_repeated hk
  · obtain ⟨hcolumns, -, hfilled⟩ := Layout.build_eq_ok hl
    have hm : column ∈ l.slots.map Slot.column := by
      rcases hc with hc | hc
      · rw [Plan.columns, ← hcolumns] at hc
        exact List.mem_of_mem_take hc
      · obtain ⟨k, hk', rfl⟩ := List.mem_map.1 hc
        exact hk k hk'
    obtain ⟨slot, hslot, rfl⟩ := List.mem_map.1 hm
    apply cell?_eq_some
    rw [tableOf_of_evaluate he r hr]
    exact mem_columns_of_noCalls (hfilled slot hslot)

/-- The later of two blocks, by an alias that is also the name of a column. -/
def latestBlock : Plan where
  projection := [⟨.column "BlockHash", none⟩, ⟨.column "timestamp", some "Number"⟩]
  table := "Blocks"
  selection := some (.logical .or [.equals "blocknumber" "1", .equals "blocknumber" "2"])
  groupBy := none
  having := none
  orderBy :=
    some [⟨.column "NUMBER", .asc⟩, ⟨.column "blocknumber", .desc⟩, ⟨.column "number", .desc⟩]
  limit := some 1

theorem ungrouped_latestBlock : latestBlock.Ungrouped where
  groupBy := rfl
  having := rfl
  select := by simp [latestBlock]
  orderBy := by simp [latestBlock]

theorem run_ungrouped_latestBlock :
    ∃ result l, run Ledger.client latestBlock (Ledger.ofBlocks twoBlocks) = (.ok result, l) ∧
      result.labels = ["blockhash", "Number"] ∧
      ∃ t predicate records,
        evaluate Ledger.client t predicate (Ledger.ofBlocks twoBlocks) = (.ok records, l) ∧
        Presents latestBlock t Record.cell latestBlock.orderKeys records result := by
  have ok : (run Ledger.client latestBlock (Ledger.ofBlocks twoBlocks)).1.toOption.map
      (fun r ↦ r.labels) = some ["blockhash", "Number"] := by decide +kernel
  obtain ⟨result, l, hr, labels⟩ := exists_run_eq_ok ok
  obtain ⟨t, predicate, records, -, -, he, hp, -⟩ := run_ungrouped ungrouped_latestBlock hr
  exact ⟨result, l, hr, labels, t, predicate, records, he, hp⟩

end LedgerQuery.Query
