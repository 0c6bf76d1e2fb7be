import LedgerQuery.Proofs.Grouped

/-!
# Calls as names

A call that groups are ordered by or kept by is looked up by its name, and so by the aliases of the
select list first.  In a query with groups it stands for its aggregate unless an alias is spelled
like it, and for the entry with this alias if there is one (`run_grouped_taken`).
-/

namespace LedgerQuery.Query

open Chain
open Node (Client Ledger twoBlocks)

/-! ## What operands are taken for -/

/-- The column that an operand is taken for. Its name is looked up among the aliases first, be it a
plain name or that of a call. -/
def Plan.taken (p : Plan) (x : Operand) : String := p.resolved x.name

/-- A call is taken for its aggregate where no alias is spelled like it. -/
theorem Plan.taken_call {p : Plan} {c : Call}
    (h : ∀ item ∈ p.projection, item.binds c.name = false) : p.taken (.call c) = c.name :=
  (Plan.resolved_of_not_binds h).trans c.lower_name

/-! ## Runs -/

/-- A query with groups presents the groups of the records that its condition gave, ordered and kept
by what its operands are taken for.  A call is taken for its aggregate as far as no entry of the
select list has it as its alias, and every operand is taken for the entry that does. -/
theorem run_grouped_taken {σ : Type} {c : Client σ} {p : Plan} {state state' : σ}
    {result : ResultSet} (h : p.Grouped) (hr : run c p state = (.ok result, state')) :
    (∀ call : Call, (∀ item ∈ p.projection, item.binds call.name = false) →
      p.taken (.call call) = call.name) ∧
    (∀ x : Operand, ∀ item ∈ p.projection, item.binds x.name = true →
      item.expr.name? = some (p.taken x)) ∧
    ∃ t predicate records, Table.ofName? p.table = some t ∧ p.selection = some predicate ∧
      evaluate c t predicate state = (.ok records, state') ∧
      ∃ value : List Record → String → Cell,
        (∀ g ∈ partition p.groupColumns records, ∀ name,
          name ∈ p.columns t ∨ (∃ x ∈ p.operands, name = p.taken x) →
            Shows t g name (value g name)) ∧
        Presents p t value
          ((p.orderBy.getD []).map fun item ↦ (p.taken item.expr, item.direction))
          ((partition p.groupColumns records).filter fun g ↦
            p.having.all fun h ↦ !(value g (p.taken h.target)).isNull &&
              h.op.holds ((value g (p.taken h.target)).compare (literalCell h.value)))
          result := by
  obtain ⟨s, t, predicate, records, hs, ht, hpr, he, hf⟩ := run_eq_ok_iff.1 hr
  obtain ⟨rows, r, hrows, ho, rfl⟩ := finish_eq_ok hf
  have hp : s.plan = p := Scope.plan_of_ofPlan hs
  have hgroup : s.groupBy.getD [] = p.groupColumns := Scope.getD_groupBy hs
  rw [convert, if_pos (h.isGrouped hs)] at hrows
  obtain ⟨extras, hplain, hrows⟩ := groupRecords_eq_ok
    (fun c hc ↦ Plan.lower_groupColumns (hgroup ▸ hc)) hrows
  rw [hgroup, hp] at hplain hrows
  obtain ⟨l, hl, hshows, hcolumn, rfl⟩ := ofGroups_eq_ok (tableOf_of_evaluate he) hplain hrows
  simp only [keeps_resolved hs] at ho
  obtain ⟨hk, hpresents⟩ := Presents.of_layout hl (keys_order_resolved hs) ho
    fun column hc g hg g' hg' ↦
      (hshows g (List.mem_filter.1 hg).1 column hc).unmixed
        (hshows g' (List.mem_filter.1 hg').1 column hc)
  rw [hp]
  refine ⟨fun _ ↦ Plan.taken_call, fun _ _ hi hb ↦ Scope.resolved_of_binds hs hi hb,
    t, predicate, records, ht, hpr, he, cellNamed l.slots, fun g hg name hn ↦ hshows g hg name ?_,
    hpresents⟩
  rcases hn with hn | ⟨x, hx, rfl⟩
  · rw [Plan.columns, ← (Layout.build_eq_ok hl).1] at hn
    exact List.mem_of_mem_take hn
  · rcases List.mem_append.1 hx with hx | hx
    · obtain ⟨item, hi, rfl⟩ := List.mem_map.1 hx
      exact hk _ (List.mem_map_of_mem hi)
    · obtain ⟨having, hhaving, rfl⟩ := List.mem_map.1 hx
      rw [Plan.taken, ← Scope.resolve_ofPlan hs]
      exact hcolumn _ (Option.mem_map_of_mem _ (Option.mem_toList.1 hhaving))

/-- The transactions of two blocks with their number, under an alias that is spelled like the call
they are ordered by. -/
def orderedByAlias : Plan where
  projection := [⟨.column "Hash", none⟩, ⟨.call ⟨"Count", .star⟩, some "MIN(blocknumber)"⟩]
  table := "Transactions"
  selection := some (.logical .or [.equals "blocknumber" "1", .equals "blocknumber" "2"])
  groupBy := some ["hash"]
  having := none
  orderBy := some [⟨.call ⟨"min", .column "BlockNumber"⟩, .desc⟩]
  limit := none

theorem run_grouped_taken_orderedByAlias :
    ∃ result l, run Ledger.client orderedByAlias (Ledger.ofBlocks twoBlocks) = (.ok result, l) ∧
      result.columns = ["hash", "count(*)"] ∧
      ∃ t, ∃ value : List Record → String → Cell, ∃ groups,
        Presents orderedByAlias t value [("count(*)", .desc)] groups result := by
  have ok : (run Ledger.client orderedByAlias (Ledger.ofBlocks twoBlocks)).1.toOption.map
      (fun r ↦ r.columns) = some ["hash", "count(*)"] := by decide +kernel
  obtain ⟨result, l, hr, columns⟩ := exists_run_eq_ok ok
  obtain ⟨-, bound, t, _, _, _, _, _, value, _, hp⟩ := run_grouped_taken (.inl rfl) hr
  have count : Call.name ⟨"Count", .star⟩ = "count(*)" := by decide +kernel
  have taken := bound (.call ⟨"min", .column "BlockNumber"⟩) _
    (List.mem_cons_of_mem _ (List.mem_singleton_self _)) (by decide +kernel)
  refine ⟨result, l, hr, columns, t, value, ?_⟩
  rw [← count, Option.some_inj.1 taken]
  exact ⟨_, hp⟩

end LedgerQuery.Query
