import LedgerQuery.Proofs.Materialized
import LedgerQuery.Proofs.Regrouping
import LedgerQuery.Proofs.Reordering
import LedgerQuery.Proofs.Simulation
import Mathlib.Data.Multiset.Filter

/-!
# The order of records

The same records in another order have the same groups (`rel_partition`), and these have the same
cells, except for averages of numbers that are rounded while they are added (`cellNamed_of_perm`).
So a grouped query fails in both orders, or it gives rows for the same groups
(`groupRecords_reordered`).  The operands of `OR` only decide in which order records come, so that
they can be exchanged (`grouped_reordered`).  Averages that are rounded do depend on the order
(`meanGas_reordered`).
-/

namespace LedgerQuery.Query

open Chain
open Node (Client Ledger)

/-! ## Groups -/

section Groups

variable {groupBy : List String} {records records' : List Record}

/-- Reordered records have the same groups, in another order and with their records in another
order. -/
theorem rel_partition (groupBy : List String) (h : records.Perm records') :
    Multiset.Rel List.Perm (partition groupBy records : Multiset (List Record))
      (partition groupBy records') := by
  cases groupBy with
  | nil => exact .cons h .zero
  | cons c cs =>
    have keys : (records.map (groupKey (c :: cs))).eraseDups.Perm
        (records'.map (groupKey (c :: cs))).eraseDups := by
      refine (List.perm_ext_iff_of_nodup (nodup_keys _ _) (nodup_keys _ _)).2 fun k ↦ ?_
      rw [List.mem_eraseDups, List.mem_eraseDups, (h.map _).mem_iff]
    rw [partition, partition, ← Multiset.map_coe, ← Multiset.map_coe, Multiset.coe_eq_coe.2 keys,
      Multiset.rel_map]
    exact Multiset.rel_refl_of_refl_on fun k _ ↦ h.filter _

theorem rel_filter {α β : Type} {r : α → β → Prop} {p : α → Bool} {q : β → Bool}
    (hpq : ∀ a b, r a b → p a = q b) {as : List α} {bs : List β}
    (h : Multiset.Rel r (as : Multiset α) bs) :
    Multiset.Rel r (as.filter p : Multiset α) (bs.filter q) := by
  have main : ∀ {s : Multiset α} {t : Multiset β}, Multiset.Rel r s t →
      Multiset.Rel r (s.filter (p · = true)) (t.filter (q · = true)) := by
    intro s t h
    induction h with
    | zero => exact .zero
    | @cons a b s t hab hst ih =>
      have same := hpq a b hab
      by_cases ha : p a = true
      · rw [Multiset.filter_cons_of_pos (p := (p · = true)) s ha,
          Multiset.filter_cons_of_pos (p := (q · = true)) t (same ▸ ha)]
        exact .cons hab ih
      · rw [Multiset.filter_cons_of_neg (p := (p · = true)) s ha,
          Multiset.filter_cons_of_neg (p := (q · = true)) t (same ▸ ha)]
        exact ih
  simpa only [Multiset.filter_coe, Bool.decide_eq_true] using main h

theorem exists_mem_partition (h : records.Perm records') {g' : List Record}
    (hg : g' ∈ partition groupBy records') : ∃ g ∈ partition groupBy records, g.Perm g' := by
  obtain ⟨g, hg, hgg⟩ := Multiset.exists_mem_of_rel_of_mem (rel_partition groupBy h.symm)
    (Multiset.mem_coe.2 hg)
  exact ⟨g, Multiset.mem_coe.1 hg, hgg.symm⟩

end Groups

/-! ## Rows of groups -/

section Rows

variable {t : Table} {groupBy : List String} {records records' g g' : List Record}
    {slots : List Slot}

theorem groupCell_of_perm {s : Slot} (hs : Layout.Filled t (Aggregate.ofCall t) groupBy s)
    (hg : g ∈ partition groupBy records) (h : g.Perm g') {v : Cell}
    (hv : Rows.groupCell g s = .ok v) :
    ∃ v', Rows.groupCell g' s = .ok v' ∧ (Aggregate.Settled g s.column → v' = v) := by
  cases hs with
  | aggregate called =>
    rw [(Aggregate.ofCall_eq_ok called).1]
    exact Aggregate.eval_of_perm h hv
  | @field column label known asked =>
    cases hv
    refine ⟨_, rfl, fun _ ↦ ?_⟩
    cases g with
    | nil => rw [h.nil_eq]
    | cons r g =>
      cases g' with
      | nil => exact absurd h.eq_nil (List.cons_ne_nil r g)
      | cons r' g' =>
        exact cell_eq_of_mem_partition hg asked (h.mem_iff.2 List.mem_cons_self) List.mem_cons_self

theorem exists_groupRow_of_perm
    (hs : ∀ s ∈ slots, Layout.Filled t (Aggregate.ofCall t) groupBy s)
    (hg : g ∈ partition groupBy records) (h : g.Perm g') {row : List Cell}
    (hr : Rows.groupRow slots g = .ok row) : ∃ row', Rows.groupRow slots g' = .ok row' := by
  refine exists_mapM_eq_ok fun s hm ↦ ?_
  obtain ⟨v, hv⟩ := (mapM_eq_ok hr).1 s hm
  obtain ⟨v', hv', -⟩ := groupCell_of_perm (hs s hm) hg h hv
  exact ⟨v', hv'⟩

/-- The cell of a group does not depend on the order of its records, if it is settled. -/
theorem cellNamed_of_perm (hs : ∀ s ∈ slots, Layout.Filled t (Aggregate.ofCall t) groupBy s)
    (hg : g ∈ partition groupBy records) (h : g.Perm g') {row : List Cell}
    (hr : Rows.groupRow slots g = .ok row) {name : String} (hn : name ∈ slots.map Slot.column)
    (settled : Aggregate.Settled g name) : cellNamed slots g' name = cellNamed slots g name := by
  obtain ⟨s, hm, rfl⟩ := List.mem_map.1 hn
  obtain ⟨v, hv⟩ := (mapM_eq_ok hr).1 s hm
  obtain ⟨v', hv', same⟩ := groupCell_of_perm (hs s hm) hg h hv
  rw [cellNamed_eq hs hm hv, cellNamed_eq hs hm hv', same settled]

end Rows

/-! ## Rows for the same groups -/

/-- Whether a plan keeps a group with some cells: the one that its condition on groups is about,
under the column that a name is resolved to, is not empty and compares with the literal as it
should. -/
def Plan.retains (p : Plan) (value : String → Cell) : Bool :=
  p.having.all fun h ↦ !(value (p.resolved h.target.name)).isNull &&
    h.op.holds ((value (p.resolved h.target.name)).compare (literalCell h.value))

/-- Rows that stand for the groups out of some list that a plan keeps, each by its cells in some
columns.  The cells are known by the records of a group, and they are what the group shows, in these
columns and in the one by which it is kept or dropped. -/
structure Plan.Represents (p : Plan) (shows : List Record → String → Cell → Prop)
    (columns : List String) (value : List Record → String → Cell) (groups kept : List (List Record))
    (rows : List (List Cell)) : Prop where
  shown : ∀ g ∈ groups, ∀ name,
    name ∈ columns ∨ (∃ h ∈ p.having, name = p.resolved h.target.name) → shows g name (value g name)
  retained : kept.Perm (groups.filter fun g ↦ p.retains (value g))
  rows_eq : rows = kept.map fun g ↦ columns.map (value g)

/-- Rows that stand for the same groups: for those that a plan keeps out of some list, and for those
that it keeps out of another one, in which the groups and their records may have another order.  The
groups match one to one, and matching groups have the same cells in all columns that are settled. -/
def SameGroups (p : Plan) (shows : List Record → String → Cell → Prop) (columns : List String)
    (groups groups' : List (List Record)) (rows rows' : List (List Cell)) : Prop :=
  ∃ (value : List Record → String → Cell) (kept kept' : List (List Record)),
    p.Represents shows columns value groups kept rows ∧
    p.Represents shows columns value groups' kept' rows' ∧
    Multiset.Rel
      (fun g g' ↦ g.Perm g' ∧
        ∀ name ∈ columns, Aggregate.Settled g name → value g' name = value g name)
      (kept : Multiset (List Record)) kept'

section Represented

variable {p : Plan} {shows shows' : List Record → String → Cell → Prop} {columns : List String}
  {value : List Record → String → Cell} {groups groups' kept : List (List Record)}
  {rows rows' : List (List Cell)}

namespace Plan.Represents

/-- The groups that are kept are some of those in the list. -/
theorem subset (h : p.Represents shows columns value groups kept rows) : kept ⊆ groups :=
  fun _ hg ↦ (List.mem_filter.1 (h.retained.mem_iff.1 hg)).1

/-- Rows stand for groups that show something else, if they show what the others do. -/
theorem mono (hs : ∀ g ∈ groups, ∀ name v, shows g name v → shows' g name v)
    (h : p.Represents shows columns value groups kept rows) :
    p.Represents shows' columns value groups kept rows :=
  { h with shown := fun g hg name hn ↦ hs g hg name _ (h.shown g hg name hn) }

/-- Sorting rows is sorting the groups that they stand for. -/
theorem mergeSort (h : p.Represents shows columns value groups kept rows)
    (le : List Cell → List Cell → Bool) :
    p.Represents shows columns value groups
      (kept.mergeSort fun g g' ↦ le (columns.map (value g)) (columns.map (value g')))
      (rows.mergeSort le) where
  shown := h.shown
  retained := (List.mergeSort_perm _ _).trans h.retained
  rows_eq := by
    rw [h.rows_eq]
    exact (List.map_mergeSort (f := fun g ↦ columns.map (value g)) fun _ _ _ _ ↦ rfl).symm

/-- Rows that are cut stand for the same groups in fewer columns. -/
theorem take (h : p.Represents shows columns value groups kept rows) (n : Nat) :
    p.Represents shows (columns.take n) value groups kept (rows.map (List.take n)) where
  shown g hg name hn := h.shown g hg name (hn.imp_left List.mem_of_mem_take)
  retained := h.retained
  rows_eq := by
    rw [h.rows_eq, List.map_map]
    exact List.map_congr_left fun g _ ↦ List.map_take.symm

end Plan.Represents

namespace SameGroups

/-- Rows stand for the same groups, also if these show something else. -/
theorem mono (hs : ∀ g ∈ groups, ∀ name v, shows g name v → shows' g name v)
    (hs' : ∀ g ∈ groups', ∀ name v, shows g name v → shows' g name v)
    (h : SameGroups p shows columns groups groups' rows rows') :
    SameGroups p shows' columns groups groups' rows rows' := by
  obtain ⟨value, kept, kept', first, second, rel⟩ := h
  exact ⟨value, kept, kept', first.mono hs, second.mono hs', rel⟩

/-- Where all columns are settled, the rows are the same. -/
theorem perm (h : SameGroups p shows columns groups groups' rows rows')
    (settled : ∀ g ∈ groups, ∀ name ∈ columns, Aggregate.Settled g name) : rows.Perm rows' := by
  obtain ⟨value, kept, kept', first, second, rel⟩ := h
  have same : Multiset.Rel (fun g g' ↦ columns.map (value g) = columns.map (value g'))
      (kept : Multiset (List Record)) kept' := by
    refine rel.mono fun g hg g' _ ⟨_, cells⟩ ↦ List.map_congr_left fun name hn ↦ ?_
    exact (cells name hn (settled g (first.subset (Multiset.mem_coe.1 hg)) name hn)).symm
  rw [first.rows_eq, second.rows_eq, ← Multiset.coe_eq_coe, ← Multiset.map_coe, ← Multiset.map_coe,
    ← Multiset.rel_eq, Multiset.rel_map]
  exact same

/-- Rows for the same groups still are such rows after they have been sorted. -/
theorem mergeSort (h : SameGroups p shows columns groups groups' rows rows')
    (le : List Cell → List Cell → Bool) :
    SameGroups p shows columns groups groups' (rows.mergeSort le) (rows'.mergeSort le) := by
  obtain ⟨value, kept, kept', first, second, rel⟩ := h
  refine ⟨value, _, _, first.mergeSort le, second.mergeSort le, ?_⟩
  rwa [Multiset.coe_eq_coe.2 (List.mergeSort_perm kept _),
    Multiset.coe_eq_coe.2 (List.mergeSort_perm kept' _)]

/-- Rows for the same groups still are such rows in fewer columns. -/
theorem take (h : SameGroups p shows columns groups groups' rows rows') (n : Nat) :
    SameGroups p shows (columns.take n) groups groups' (rows.map (List.take n))
      (rows'.map (List.take n)) := by
  obtain ⟨value, kept, kept', first, second, rel⟩ := h
  refine ⟨value, kept, kept', first.take n, second.take n, ?_⟩
  exact rel.mono fun g _ g' _ ⟨perm, cells⟩ ↦
    ⟨perm, fun name hn ↦ cells name (List.mem_of_mem_take hn)⟩

end SameGroups

end Represented

/-! ## Grouped queries -/

/-- Two outcomes that are both failures or results that are related. -/
theorem rel_toOption {α : Type} {R : α → α → Prop} {x x' : Except Error α}
    (ok : ∀ a, x = .ok a → ∃ a', x' = .ok a') (ok' : ∀ a', x' = .ok a' → ∃ a, x = .ok a)
    (h : ∀ a a', x = .ok a → x' = .ok a' → R a a') : Option.Rel R x.toOption x'.toOption := by
  cases x with
  | ok a =>
    obtain ⟨a', rfl⟩ := ok a rfl
    exact .some (h a a' rfl rfl)
  | error e =>
    cases x' with
    | error e' => exact .none
    | ok a' =>
      obtain ⟨a, ha⟩ := ok' a' rfl
      cases ha

theorem rel_toOption_cases {α : Type} {R : α → α → Prop} {x x' : Except Error α}
    (h : Option.Rel R x.toOption x'.toOption) :
    (∃ e e', x = .error e ∧ x' = .error e') ∨ ∃ a a', x = .ok a ∧ x' = .ok a' ∧ R a a' := by
  cases x with
  | error e => cases x' with
    | error e' => exact .inl ⟨e, e', rfl, rfl⟩
    | ok a' => cases h
  | ok a => cases x' with
    | error e' => cases h
    | ok a' =>
      cases h with
      | some related => exact .inr ⟨a, a', rfl, rfl, related⟩

theorem exists_of_rel {α : Type} {R : α → α → Prop} {x x' : Except Error α} {a : α}
    (h : Option.Rel R x.toOption x'.toOption) (hx : x.toOption = some a) :
    ∃ a', x = .ok a ∧ x' = .ok a' ∧ R a a' := by
  obtain ⟨e, e', rfl, -⟩ | ⟨b, a', rfl, rfl, related⟩ := rel_toOption_cases h
  · cases hx
  · cases hx
    exact ⟨a', rfl, rfl, related⟩

section OfGroups

variable {t : Table} {select : List SelectItem} {groupBy : List String} {extras : List Operand}
  {f : Option GroupFilter} {records records' : List Record} {rows rows' : Rows}

theorem exists_ofGroups_of_perm (hp : plainColumns t select extras ⊆ groupBy)
    (h : records.Perm records')
    (hr : Rows.ofGroups t select groupBy extras f records = .ok rows) :
    ∃ rows', Rows.ofGroups t select groupBy extras f records' = .ok rows' := by
  rw [Rows.ofGroups, groups_eq_partition] at hr ⊢
  split at hr
  · cases hr
  · next l hl =>
    obtain ⟨-, -, filled⟩ := Layout.build_eq_ok hl
    split at hr
    · cases hr
    · next condition hcondition =>
      split at hr
      · cases hr
      · next all hall =>
        have each :
            ∀ g' ∈ partition groupBy records', ∃ row, Rows.groupRow l.slots g' = .ok row := by
          intro g' hg'
          obtain ⟨g, hg, perm⟩ := exists_mem_partition h hg'
          obtain ⟨row, hrow⟩ := (mapM_eq_ok hall).1 g hg
          exact exists_groupRow_of_perm (fun s hs ↦ (filled s hs).mono hp) hg perm hrow
        obtain ⟨all', hall'⟩ := exists_mapM_eq_ok each
        rw [hall']
        exact ⟨_, rfl⟩

end OfGroups

/-- Whether the column by which a plan keeps groups is settled in all of them. -/
def Plan.Decided (p : Plan) (groups : List (List Record)) : Prop :=
  ∀ h ∈ p.having, ∀ g ∈ groups, Aggregate.Settled g (p.resolved h.target.name)

/-- Rows that a plan makes of the same records in two orders: if it is settled which groups are
kept, they stand for the same groups by what these show, and they are the same rows if all their
columns are settled. -/
def Plan.Reordered (p : Plan) (shows : List Record → String → Cell → Prop) (columns : List String)
    (records records' : List Record) (rows rows' : List (List Cell)) : Prop :=
  p.Decided (partition p.groupColumns records) →
    SameGroups p shows columns (partition p.groupColumns records)
      (partition p.groupColumns records') rows rows' ∧
    ((∀ g ∈ partition p.groupColumns records, ∀ name ∈ columns, Aggregate.Settled g name) →
      rows.Perm rows')

/-- Of records of one table the rows are what the groups show in the sense of that table. -/
theorem Plan.Reordered.of_table {p : Plan} {t : Table} {columns : List String}
    {records records' : List Record} {rows rows' : List (List Cell)}
    (ht : ∀ r ∈ records, tableOf r = t) (ht' : ∀ r ∈ records', tableOf r = t)
    (h : p.Reordered (Gives t) columns records records' rows rows') :
    p.Reordered (Shows t) columns records records' rows rows' := by
  intro decided
  obtain ⟨same, perm⟩ := h decided
  refine ⟨same.mono (fun g hg _ _ ↦ ?_) fun g hg _ _ ↦ ?_, perm⟩
  · exact Gives.shows fun r hr ↦ ht r (subset_of_mem_partition hg hr)
  · exact Gives.shows fun r hr ↦ ht' r (subset_of_mem_partition hg hr)

section Queries

variable {p : Plan} {s : Scope} {t : Table} {order : Order} {records records' : List Record}

/-- The condition on groups is the one of the plan, about what the name of its target is resolved
to. -/
theorem having_of_groupArguments (hs : Scope.ofPlan p = .ok s) {extras : List Operand}
    {having : Option GroupFilter} (h : groupArguments s t order = .ok (extras, having)) :
    having = p.having.map fun h ↦ .ofLiteral (s.resolve h.target.name) h.op h.value := by
  obtain ⟨-, -, ⟨-, rfl, hnone⟩ | ⟨clause, hclause, f, extra, hf, -, rfl⟩⟩ := groupArguments_eq_ok h
  · rw [← Scope.plan_of_ofPlan hs, hnone, Option.map_none]
  · rw [← Scope.plan_of_ofPlan hs, Option.mem_def.1 hclause, Option.map_some,
      (havingFilter_eq_ok hf).1]

/-- Rows with the cells of a layout stand for the groups that are kept: a group gives what stands in
slots that are filled with columns grouped by and with aggregates. -/
theorem represents_of_layout {slots : List Slot} {kept : List (List Record)}
    (filled : ∀ s ∈ slots, Layout.Filled t (Aggregate.ofCall t) p.groupColumns s)
    (named : ∀ h ∈ p.having, p.resolved h.target.name ∈ slots.map Slot.column)
    (each : ∀ g ∈ partition p.groupColumns records, ∃ row, Rows.groupRow slots g = .ok row)
    (hk : kept =
      (partition p.groupColumns records).filter fun g ↦ p.retains (cellNamed slots g)) :
    p.Represents (Gives t) (slots.map Slot.column) (cellNamed slots)
      (partition p.groupColumns records) kept
      (kept.map fun g ↦ (slots.map Slot.column).map (cellNamed slots g)) where
  shown g hg name hn := by
    obtain ⟨row, hrow⟩ := each g hg
    refine gives_of_groupRow hg filled hrow name ?_
    rcases hn with hn | ⟨h, hh, rfl⟩
    · exact hn
    · exact named h hh
  retained := hk ▸ .refl _
  rows_eq := rfl

/-- Rows of groups that are made of the same records in two orders stand for the same groups. -/
theorem sameGroups_of_ofGroups (hs : Scope.ofPlan p = .ok s) {select : List SelectItem}
    {extras : List Operand} {rows rows' : Rows}
    (hp : plainColumns t select extras ⊆ p.groupColumns) (h : records.Perm records')
    (hr : Rows.ofGroups t select p.groupColumns extras
      (p.having.map fun h ↦ .ofLiteral (s.resolve h.target.name) h.op h.value) records = .ok rows)
    (hr' : Rows.ofGroups t select p.groupColumns extras
      (p.having.map fun h ↦ .ofLiteral (s.resolve h.target.name) h.op h.value) records' =
        .ok rows') :
    rows' = { rows with rows := rows'.rows } ∧
      (p.Decided (partition p.groupColumns records) →
        SameGroups p (Gives t) rows.columns (partition p.groupColumns records)
          (partition p.groupColumns records') rows.rows rows'.rows) := by
  obtain ⟨l, hl, each, hcolumns, rfl⟩ := ofGroups_eq_map hr
  obtain ⟨l', hl', each', -, rfl⟩ := ofGroups_eq_map hr'
  cases Except.ok.inj (hl.symm.trans hl')
  obtain ⟨-, -, filled⟩ := Layout.build_eq_ok hl
  have filled : ∀ s ∈ l.slots, Layout.Filled t (Aggregate.ofCall t) p.groupColumns s :=
    fun s hs ↦ (filled s hs).mono hp
  have named : ∀ h ∈ p.having, p.resolved h.target.name ∈ l.slots.map Slot.column :=
    fun h hh ↦ Scope.resolve_ofPlan hs _ ▸ hcolumns _ (Option.mem_map_of_mem _ hh)
  have kept (rs : List Record) : ((partition p.groupColumns rs).filter fun g ↦
      (p.having.map fun h ↦ GroupFilter.ofLiteral (s.resolve h.target.name) h.op h.value).all
        fun f ↦ f.keeps (cellNamed l.slots g f.column)) =
      (partition p.groupColumns rs).filter fun g ↦ p.retains (cellNamed l.slots g) :=
    List.filter_congr fun g _ ↦ keeps_resolved hs (cellNamed l.slots g)
  refine ⟨rfl, fun settled ↦ ⟨cellNamed l.slots, _, _,
    represents_of_layout filled named each (kept records),
    represents_of_layout filled named each' (kept records'), ?_⟩⟩
  rw [kept, kept]
  have rel : Multiset.Rel
      (fun g g' ↦ g ∈ partition p.groupColumns records ∧ g.Perm g' ∧
        ∀ name ∈ l.slots.map Slot.column, Aggregate.Settled g name →
          cellNamed l.slots g' name = cellNamed l.slots g name)
      (partition p.groupColumns records : Multiset (List Record))
      (partition p.groupColumns records') := by
    refine (rel_partition p.groupColumns h).mono fun g hg g' _ perm ↦ ?_
    have hg := Multiset.mem_coe.1 hg
    obtain ⟨row, hrow⟩ := each g hg
    exact ⟨hg, perm, fun name ↦ cellNamed_of_perm filled hg perm hrow⟩
  -- Matching groups are kept or dropped together, as the column of the condition is settled.
  refine (rel_filter ?_ rel).mono fun _ _ _ _ ⟨_, same⟩ ↦ same
  rintro g g' ⟨hg, -, cells⟩
  rw [Plan.retains, Plan.retains]
  cases hh : p.having with
  | none => rfl
  | some h => rw [Option.all_some, Option.all_some, cells _ (named h hh) (settled h hh g hg)]

/-- A grouped query fails on records in two orders, or it gives rows for the same groups. -/
theorem groupRecords_reordered (hs : Scope.ofPlan p = .ok s) (h : records.Perm records') :
    Option.Rel
      (fun rows rows' ↦ rows' = { rows with rows := rows'.rows } ∧
        p.Reordered (Gives t) rows.columns records records' rows.rows rows'.rows)
      (groupRecords s t order records).toOption (groupRecords s t order records').toOption := by
  rw [groupRecords_eq, groupRecords_eq]
  cases harguments : groupArguments s t order with
  | error e => exact .none
  | ok arguments =>
    obtain ⟨extras, having⟩ := arguments
    have plain := plainColumns_of_groupArguments hs harguments
    obtain rfl := having_of_groupArguments hs harguments
    dsimp only
    rw [Scope.getD_groupBy hs] at plain ⊢
    refine rel_toOption (fun _ ↦ exists_ofGroups_of_perm plain h)
      (fun _ ↦ exists_ofGroups_of_perm plain h.symm) fun rows rows' hr hr' ↦ ?_
    obtain ⟨shape, same⟩ := sameGroups_of_ofGroups hs plain h hr hr'
    exact ⟨shape, fun decided ↦ ⟨same decided, (same decided).perm⟩⟩

/-- The same columns are found whatever the rows are. -/
theorem keyPositions_withRows (r : ResultSet) (rows : List (List Cell))
    (keys : List (String × Direction)) :
    { r with rows := rows }.keyPositions keys = r.keyPositions keys := by
  induction keys with
  | nil => rfl
  | cons k keys ih =>
    rw [ResultSet.keyPositions, ResultSet.keyPositions, ih]

theorem order_eq_ok {r : ResultSet} {keys : List (String × Direction)} {ps : List (Nat × Direction)}
    (h : r.keyPositions keys = .ok ps) :
    r.order keys =
      .ok { r with rows := r.rows.mergeSort fun a b ↦ (ResultSet.compareRows ps a b).isLE } := by
  rw [ResultSet.order, h]

/-- The result of a grouped query on records in two orders. -/
theorem finish_reordered (hg : p.Grouped) (hl : p.limit = none) (hs : Scope.ofPlan p = .ok s)
    (h : records.Perm records') :
    Option.Rel
      (fun r r' ↦ r.table = t ∧ r' = { r with rows := r'.rows } ∧
        p.Reordered (Gives t) r.columns records records' r.rows r'.rows)
      (finish s t records).toOption (finish s t records').toOption := by
  have converts (records : List Record) :
      convert s t (s.order t) records = groupRecords s t (s.order t) records := by
    rw [convert, if_pos (hg.isGrouped hs)]
  obtain ⟨e, e', hr, hr'⟩ | ⟨rows, rows', hr, hr', shape, same⟩ :=
    rel_toOption_cases (@groupRecords_reordered p s t (s.order t) _ _ hs h)
  · rw [finish, finish, converts, converts, hr, hr']
    exact .none
  · obtain ⟨-, ⟨ps, hps, -⟩, -⟩ := orderRead_of_convert hs ((converts records).trans hr)
    generalize rows'.rows = cells at shape same
    subst shape
    have hps' : (ResultSet.ofRows t { rows with rows := cells } s.aliases).keyPositions
        (s.order t).keys = .ok ps := (keyPositions_withRows _ cells _).trans hps
    rw [finish, finish, converts, converts, hr, hr']
    dsimp only
    rw [order_eq_ok hps, order_eq_ok hps', Scope.plan_of_ofPlan hs, hl]
    have groups := fun decided ↦ (same decided).1.mergeSort
      fun a b ↦ (ResultSet.compareRows ps a b).isLE
    dsimp only [ResultSet.ofRows, ResultSet.project, cut]
    by_cases all : rows.projected = rows.columns.length
    · rw [if_pos all, if_pos all]
      exact .some ⟨rfl, rfl, fun decided ↦ ⟨groups decided, (groups decided).perm⟩⟩
    · rw [if_neg all, if_neg all]
      refine .some ⟨rfl, rfl, fun decided ↦ ?_⟩
      have stripped := (groups decided).take rows.projected
      exact ⟨stripped, stripped.perm⟩

end Queries

/-! ## Conditions -/

/-- A plan with another condition on records. -/
def Plan.filtered (p : Plan) (predicate : Predicate) : Plan :=
  { p with selection := some predicate }

section Runs

variable {σ : Type} {c : Client σ} {state : σ} {p : Plan} {s : Scope} {t : Table} {a b : Predicate}

theorem ofPlan_filtered (p : Plan) (predicate : Predicate) :
    Scope.ofPlan (p.filtered predicate) =
      (Scope.ofPlan p).map fun s ↦ { s with plan := p.filtered predicate } := by
  rw [Scope.ofPlan, Scope.ofPlan, Plan.filtered]
  cases Scope.bindAliases [] p.projection <;> rfl

/-- The outcome of a plan, apart from its condition. -/
theorem run_filtered (c : Client σ) (p : Plan) (predicate : Predicate) (state : σ) :
    (run c (p.filtered predicate) state).1 =
      match Scope.ofPlan p with
      | .error e => .error e
      | .ok s =>
        match Table.ofName? p.table with
        | none => .error (.unknownTable p.table)
        | some t =>
          match (evaluate c t predicate state).1 with
          | .error e => .error e
          | .ok records => finish s t records := by
  rw [run_eq, prepare, ofPlan_filtered, Plan.filtered]
  cases hs : Scope.ofPlan p with
  | error e => rfl
  | ok s =>
    obtain rfl := Scope.plan_of_ofPlan hs
    dsimp only [Except.map]
    cases Table.ofName? s.plan.table with
    | none => rfl
    | some t =>
      dsimp only
      rcases evaluate c t predicate state with ⟨e | records, state⟩ <;> rfl

/-- The operands of `OR` are answered by the same records in another order, or not at all. -/
theorem evaluate_or_reordered (hc : c.Steady state)
    (hi : ∀ x y, (evaluate c t a state).1 = .ok x → (evaluate c t b state).1 = .ok y →
      ∀ r ∈ x, ∀ r' ∈ y, r.identity = r'.identity → r = r') :
    (∃ e e', (evaluate c t (.logical .or [a, b]) state).1 = .error e ∧
      (evaluate c t (.logical .or [b, a]) state).1 = .error e') ∨
    ∃ x y, (evaluate c t a state).1 = .ok x ∧ (evaluate c t b state).1 = .ok y ∧
      (evaluate c t (.logical .or [a, b]) state).1 = .ok (union x y) ∧
      (evaluate c t (.logical .or [b, a]) state).1 = .ok (union y x) ∧
      (union x y).Perm (union y x) := by
  rw [hc.evaluate_pair, hc.evaluate_pair]
  cases hx : (evaluate c t a state).1 with
  | error e =>
    cases hy : (evaluate c t b state).1 with
    | error e' => exact .inl ⟨e, e', rfl, rfl⟩
    | ok y => exact .inl ⟨e, e, rfl, rfl⟩
  | ok x =>
    cases hy : (evaluate c t b state).1 with
    | error e => exact .inl ⟨e, e, rfl, rfl⟩
    | ok y => exact .inr ⟨x, y, rfl, rfl, rfl, rfl, union_perm_comm (hi x y hx hy)⟩

/-- A grouped query without a limit does not depend on the order of the records that it is made
from: it fails in both orders or in neither, and it has rows for the same groups.  Every row has the
cells that its group shows, and matching groups show the same, except for averages of numbers that
are rounded while they are added; it must not hang on such an average which groups are kept.  So it
makes no difference in which order the operands of `OR` are written, if a client keeps to its
answers and no identity stands for different records. -/
theorem grouped_reordered (p : Plan) :
    (∀ {s : Scope} {t : Table} {order : Order} {records records' : List Record},
      Scope.ofPlan p = .ok s → records.Perm records' →
      Option.Rel
        (fun rows rows' ↦ rows' = { rows with rows := rows'.rows } ∧
          p.Reordered (Gives t) rows.columns records records' rows.rows rows'.rows)
        (groupRecords s t order records).toOption (groupRecords s t order records').toOption) ∧
    ∀ {σ : Type} {c : Client σ} {state : σ} {a b : Predicate}, p.Grouped → p.limit = none →
      c.Steady state →
      (∀ t x y, Table.ofName? p.table = some t → (evaluate c t a state).1 = .ok x →
        (evaluate c t b state).1 = .ok y → ∀ r ∈ x, ∀ r' ∈ y, r.identity = r'.identity → r = r') →
      Option.Rel
        (fun r r' ↦ r' = { r with rows := r'.rows } ∧
          ∃ x y, (evaluate c r.table a state).1 = .ok x ∧ (evaluate c r.table b state).1 = .ok y ∧
            p.Reordered (Shows r.table) r.columns (combine .or x y) (combine .or y x) r.rows
              r'.rows)
        (run c (p.filtered (.logical .or [a, b])) state).1.toOption
        (run c (p.filtered (.logical .or [b, a])) state).1.toOption := by
  refine ⟨groupRecords_reordered, fun hg hl hc hi ↦ ?_⟩
  rw [run_filtered, run_filtered]
  cases hs : Scope.ofPlan p with
  | error e => exact .none
  | ok s =>
    cases ht : Table.ofName? p.table with
    | none => exact .none
    | some t =>
      dsimp only
      obtain ⟨e, e', h, h'⟩ | ⟨x, y, hx, hy, h, h', perm⟩ :=
        evaluate_or_reordered hc fun x y ↦ hi t x y ht
      · rw [h, h']
        exact .none
      · rw [h, h']
        obtain ⟨e, e', hr, hr'⟩ | ⟨r, r', hr, hr', rfl, shape, same⟩ :=
          rel_toOption_cases (@finish_reordered p s t _ _ hg hl hs perm)
        · dsimp only
          rw [hr, hr']
          exact .none
        · dsimp only
          rw [hr, hr']
          exact .some ⟨shape, x, y, hx, hy, same.of_table
            (tableOf_of_evaluate (Prod.ext h rfl)) (tableOf_of_evaluate (Prod.ext h' rfl))⟩

end Runs

/-! ## Gas on average -/

/-- A ledger keeps to its answers. -/
theorem steady_ledger (l : Ledger) : Ledger.client.Steady l := by
  intro ls q
  induction ls generalizing l with
  | nil => rfl
  | cons _ ls ih => exact ih { l with calls := l.calls + 1 }

/-- A block with two transactions that need little gas, and one with a transaction that needs
much. -/
def gasBlocks (little : Fin 4) : List Block :=
  let quantity (n : Fin 4) : Quantity 64 := ⟨n, Nat.lt_trans n.isLt (by decide)⟩
  let transaction (hash sender : String) (n : Fin 4) (gas : Quantity 64) : Transaction :=
    { (default : Transaction) with
      hash := hash, sender := sender, blockNumber := some (quantity n), gas := gas }
  let block (hash : String) (n : Fin 4) (xs : List Transaction) : Block :=
    { (default : Block) with hash := hash, number := quantity n, transactions := xs }
  [ block "0xA" 1
      [transaction "0xC" "0x1" 1 (quantity little), transaction "0xD" "0x2" 1 (quantity little)],
    block "0xB" 2 [transaction "0xE" "0x1" 2 ⟨2 ^ 53, by decide⟩] ]

def gasRecords (little : Fin 4) : List Record :=
  ((gasBlocks little).flatMap Block.transactions).map .transaction

def meanGas : Plan where
  projection := [⟨.call ⟨"avg", .column "gas"⟩, none⟩]
  table := "transactions"
  selection := none
  groupBy := none
  having := none
  orderBy := none
  limit := none

/-- The gas that the transactions of a sender need on average. -/
def meanGasBySender : Plan :=
  { meanGas with
    projection := ⟨.column "from", none⟩ :: meanGas.projection
    groupBy := some ["from"]
    having := some ⟨.call ⟨"avg", .column "gas"⟩, .ge, "1"⟩ }

def firstOrSecond : Predicate :=
  .logical .or [.equals "blocknumber" "1", .equals "blocknumber" "2"]

def secondOrFirst : Predicate :=
  .logical .or [.equals "blocknumber" "2", .equals "blocknumber" "1"]

theorem settled_meanGasBySender :
    ∀ g ∈ partition ["from"] (gasRecords 2), Aggregate.Settled g "avg(gas)" := by
  intro g hg
  have numbers : ∀ g ∈ partition ["from"] (gasRecords 2),
      (∀ n ∈ Aggregate.numbersOf (Aggregate.values "gas" g), 2 ^ 1 ∣ n) ∧
        (Aggregate.numbersOf (Aggregate.values "gas" g)).sum ≤ 2 ^ (53 + 1) := by decide +kernel
  have known : "gas" ∈ Table.transactions.columns := by decide
  show Aggregate.Settled g (Aggregate.title ⟨.avg, some "gas"⟩)
  rw [Aggregate.settled_title_iff known]
  exact fun _ ↦ ⟨1, by decide, numbers g hg⟩

/-- Rows of these records have settled columns alone. -/
theorem perm_meanGasBySender {shows : List Record → String → Cell → Prop} {records' : List Record}
    {rows rows' : List (List Cell)}
    (h : meanGasBySender.Reordered shows ["from", "avg(gas)"] (gasRecords 2) records' rows rows') :
    rows.Perm rows' := by
  have decided : meanGasBySender.Decided (partition ["from"] (gasRecords 2)) := by
    rintro h ⟨⟩
    exact settled_meanGasBySender
  refine (h decided).2 fun g hg name hn ↦ ?_
  rcases List.mem_cons.1 hn with rfl | hn
  · exact Aggregate.settled_of_mem_columns (t := .transactions) (by decide)
  · rw [List.mem_singleton.1 hn]
    exact settled_meanGasBySender g hg

/-- The two comparisons are answered by the transactions of one block each. -/
theorem evaluate_gasBlocks :
    (evaluate Ledger.client .transactions (.equals "blocknumber" "1")
      (Ledger.ofBlocks (gasBlocks 2))).1 = .ok ((gasRecords 2).take 2) ∧
    (evaluate Ledger.client .transactions (.equals "blocknumber" "2")
      (Ledger.ofBlocks (gasBlocks 2))).1 = .ok ((gasRecords 2).drop 2) :=
  ⟨rfl, rfl⟩

theorem grouped_reordered_meanGasBySender :
    (∃ rows rows',
      groupRecords ⟨meanGasBySender, ["from", "avg(gas)"], []⟩ .transactions .empty
        (gasRecords 2) = .ok rows ∧
      groupRecords ⟨meanGasBySender, ["from", "avg(gas)"], []⟩ .transactions .empty
        (gasRecords 2).reverse = .ok rows' ∧ rows.rows.Perm rows'.rows) ∧
    ∃ r r',
      (run Ledger.client (meanGasBySender.filtered firstOrSecond)
        (Ledger.ofBlocks (gasBlocks 2))).1 = .ok r ∧
      (run Ledger.client (meanGasBySender.filtered secondOrFirst)
        (Ledger.ofBlocks (gasBlocks 2))).1 = .ok r' ∧ r.rows.Perm r'.rows := by
  constructor
  · have shown : (groupRecords ⟨meanGasBySender, ["from", "avg(gas)"], []⟩ .transactions .empty
        (gasRecords 2)).toOption.map Rows.columns = some ["from", "avg(gas)"] := by
      decide
    obtain ⟨rows, hr, columns⟩ := Option.map_eq_some_iff.1 shown
    have rel : Option.Rel _
        (groupRecords ⟨meanGasBySender, ["from", "avg(gas)"], []⟩ .transactions .empty
          (gasRecords 2)).toOption
        (groupRecords ⟨meanGasBySender, ["from", "avg(gas)"], []⟩ .transactions .empty
          (gasRecords 2).reverse).toOption :=
      (grouped_reordered meanGasBySender).1 rfl (List.reverse_perm _).symm
    obtain ⟨rows', hok, hok', -, same⟩ := exists_of_rel rel hr
    rw [columns] at same
    exact ⟨rows, rows', hok, hok', perm_meanGasBySender same⟩
  · have shown : (run Ledger.client (meanGasBySender.filtered firstOrSecond)
        (Ledger.ofBlocks (gasBlocks 2))).1.toOption.map
          (fun r ↦ (r.table, r.columns)) = some (.transactions, ["from", "avg(gas)"]) := rfl
    obtain ⟨r, hr, columns⟩ := Option.map_eq_some_iff.1 shown
    obtain ⟨table, columns⟩ := Prod.mk.inj columns
    obtain ⟨first, second⟩ := evaluate_gasBlocks
    have apart : ∀ r ∈ (gasRecords 2).take 2, ∀ r' ∈ (gasRecords 2).drop 2,
        r.identity = r'.identity → r = r' := by decide
    have together : combine .or ((gasRecords 2).take 2)
        ((gasRecords 2).drop 2) = gasRecords 2 := by decide
    have rel : Option.Rel _
        (run Ledger.client (meanGasBySender.filtered firstOrSecond)
          (Ledger.ofBlocks (gasBlocks 2))).1.toOption
        (run Ledger.client (meanGasBySender.filtered secondOrFirst)
          (Ledger.ofBlocks (gasBlocks 2))).1.toOption :=
      (grouped_reordered meanGasBySender).2 (.inl rfl) rfl (steady_ledger _) fun t x y ht hx hy ↦ by
        obtain rfl : Table.transactions = t := Option.some_inj.1 ht
        cases Except.ok.inj (first.symm.trans hx)
        cases Except.ok.inj (second.symm.trans hy)
        exact apart
    obtain ⟨r', hok, hok', -, x, y, hx, hy, same⟩ := exists_of_rel rel hr
    rw [table] at hx hy
    cases Except.ok.inj (first.symm.trans hx)
    cases Except.ok.inj (second.symm.trans hy)
    rw [together, columns] at same
    exact ⟨r, r', hok, hok', perm_meanGasBySender same⟩

/-- The successor of `2 ^ 53` is no double: added to it one by one, small numbers are lost that
count if they are added up first. -/
theorem meanGas_reordered :
    (meanGas.Grouped ∧ meanGas.limit = none ∧ ((gasRecords 1).map Record.identity).Nodup) ∧
    (∃ s rows rows', Scope.ofPlan meanGas = .ok s ∧
      groupRecords s .transactions (s.order .transactions) (gasRecords 1) = .ok rows ∧
      groupRecords s .transactions (s.order .transactions) (gasRecords 1).reverse =
        .ok rows' ∧ ¬ rows.rows.Perm rows'.rows) ∧
    ∃ r r',
      (run Ledger.client (meanGas.filtered firstOrSecond)
        (Ledger.ofBlocks (gasBlocks 1))).1 = .ok r ∧
      (run Ledger.client (meanGas.filtered secondOrFirst)
        (Ledger.ofBlocks (gasBlocks 1))).1 = .ok r' ∧ ¬ r.rows.Perm r'.rows := by
  have mean :
      Cell.float (.ofNat (2 ^ 53 + 2) / .ofNat 3) ≠ .float (.ofNat (2 ^ 53) / .ofNat 3) := by
    decide +kernel
  have rows_ne {as bs : List (List Cell)} (ha : as = [[.float (.ofNat (2 ^ 53 + 2) / .ofNat 3)]])
      (hb : bs = [[.float (.ofNat (2 ^ 53) / .ofNat 3)]]) : ¬ as.Perm bs := by
    rintro perm
    rw [ha, hb, List.perm_singleton] at perm
    exact mean (List.head_eq_of_cons_eq (List.head_eq_of_cons_eq perm))
  refine ⟨⟨.inr ⟨_, List.mem_cons_self, _, rfl⟩, rfl, by decide +kernel⟩, ?_, ?_⟩
  · have shown : (groupRecords ⟨meanGas, ["avg(gas)"], []⟩ .transactions .empty
        (gasRecords 1)).toOption.map Rows.rows =
          some [[.float (.ofNat (2 ^ 53 + 2) / .ofNat 3)]] := by decide +kernel
    have shown' : (groupRecords ⟨meanGas, ["avg(gas)"], []⟩ .transactions .empty
        (gasRecords 1).reverse).toOption.map Rows.rows =
          some [[.float (.ofNat (2 ^ 53) / .ofNat 3)]] := by decide +kernel
    obtain ⟨rows, hr, cells⟩ := Option.map_eq_some_iff.1 shown
    obtain ⟨rows', hr', cells'⟩ := Option.map_eq_some_iff.1 shown'
    exact ⟨_, rows, rows', rfl, eq_ok_of_toOption hr, eq_ok_of_toOption hr', rows_ne cells cells'⟩
  · have shown : (run Ledger.client (meanGas.filtered firstOrSecond)
        (Ledger.ofBlocks (gasBlocks 1))).1.toOption.map ResultSet.rows =
          some [[.float (.ofNat (2 ^ 53 + 2) / .ofNat 3)]] := by decide +kernel
    have shown' : (run Ledger.client (meanGas.filtered secondOrFirst)
        (Ledger.ofBlocks (gasBlocks 1))).1.toOption.map ResultSet.rows =
          some [[.float (.ofNat (2 ^ 53) / .ofNat 3)]] := by decide +kernel
    obtain ⟨r, hr, cells⟩ := Option.map_eq_some_iff.1 shown
    obtain ⟨r', hr', cells'⟩ := Option.map_eq_some_iff.1 shown'
    exact ⟨r, r', eq_ok_of_toOption hr, eq_ok_of_toOption hr', rows_ne cells cells'⟩

end LedgerQuery.Query
