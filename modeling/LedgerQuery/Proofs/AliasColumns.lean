import LedgerQuery.Proofs.LetterCase
import LedgerQuery.Proofs.Materialized

/-!
# Aliases and their columns

An alias is refused if an earlier entry of the select list has it, and the first such alias is the
one reported (`Scope.ofPlan_eq_error_iff`).  What is left is found in a result: every row has one
cell for the name of a column (`Projects`), so that the first place of a column holds the cells of
every entry that shows it, and an alias stands for the column of its own entry (`Projects.finds`).
-/

namespace LedgerQuery.Query

open Chain
open Node (Client Ledger twoBlocks)

/-! ## Repeated aliases -/

/-- No two entries of a select list have one alias. -/
def Distinct (items : List SelectItem) : Prop :=
  items.Pairwise fun earlier later ↦ ∀ name, earlier.binds name = true → later.binds name = false

/-- The first alias of a select list that an earlier entry has already. -/
def FirstRepeat (items : List SelectItem) (a : String) : Prop :=
  ∃ before item after, items = before ++ item :: after ∧ Distinct before ∧
    item.expr ≠ .star ∧ item.label = some a ∧ ∃ earlier ∈ before, earlier.binds a = true

theorem FirstRepeat.append {items : List SelectItem} {a : String} (h : FirstRepeat items a)
    (rest : List SelectItem) : FirstRepeat (items ++ rest) a := by
  obtain ⟨before, item, after, rfl, found⟩ := h
  exact ⟨before, item, after ++ rest, List.append_assoc _ _ _, found⟩

theorem FirstRepeat.not_distinct {items : List SelectItem} {a : String} (h : FirstRepeat items a) :
    ¬ Distinct items := by
  obtain ⟨before, item, after, rfl, -, selected, labelled, earlier, he, binds⟩ := h
  intro distinct
  have binds' : item.binds a = true := decide_eq_true ⟨selected, by rw [labelled]; rfl⟩
  have unbound := (List.pairwise_append.1 distinct).2.2 earlier he item List.mem_cons_self a binds
  exact Bool.false_ne_true (unbound.symm.trans binds')

theorem not_distinct_iff {items : List SelectItem} :
    ¬ Distinct items ↔ ∃ i j : Nat, i < j ∧
      ∃ (earlier later : SelectItem) (name : String), items[i]? = some earlier ∧
        items[j]? = some later ∧ earlier.binds name = true ∧ later.binds name = true := by
  rw [Distinct, List.pairwise_iff_getElem]
  constructor
  · intro h
    push Not at h
    obtain ⟨i, j, hi, hj, hij, name, earlier, later⟩ := h
    exact ⟨i, j, hij, _, _, name, List.getElem?_eq_getElem hi, List.getElem?_eq_getElem hj, earlier,
      by simpa using later⟩
  · rintro ⟨i, j, hij, earlier, later, name, hi, hj, he, hl⟩ distinct
    obtain ⟨bi, rfl⟩ := List.getElem?_eq_some_iff.1 hi
    obtain ⟨bj, rfl⟩ := List.getElem?_eq_some_iff.1 hj
    exact Bool.false_ne_true ((distinct i j bi bj hij name he).symm.trans hl)

namespace Scope

theorem bindAliases_append (aliases : List (String × String)) (items rest : List SelectItem) :
    bindAliases aliases (items ++ rest) =
      match bindAliases aliases items with
      | .ok aliases => bindAliases aliases rest
      | .error e => .error e := by
  induction items generalizing aliases with
  | nil => rfl
  | cons item items ih =>
    rw [List.cons_append, bindAliases, bindAliases]
    split
    · dsimp only
      split
      · rfl
      · exact ih _
    · exact ih _

/-- One more entry is refused if it has an alias that is bound. -/
theorem bindAliases_cons {items : List SelectItem} {aliases : List (String × String)}
    (h : bindAliases [] items = .ok aliases) (item : SelectItem) (rest : List SelectItem) :
    (∃ a, item.expr ≠ .star ∧ item.label = some a ∧ (∃ earlier ∈ items, earlier.binds a = true) ∧
      bindAliases aliases (item :: rest) = .error (.ambiguousAlias a)) ∨
    ((∀ name, item.binds name = true → ∀ earlier ∈ items, earlier.binds name = false) ∧
      ∃ aliases', bindAliases aliases (item :: rest) = bindAliases aliases' rest) := by
  have bound := bindAliases_eq_ok h
  rw [List.nil_append] at bound
  rw [bindAliases]
  split
  · next a column labelled named =>
    have selected : item.expr ≠ .star := by
      intro star
      rw [star] at named
      cases named
    dsimp only
    split
    · next taken =>
      refine .inl ⟨a, selected, labelled, ?_, rfl⟩
      by_contra unbound
      push Not at unbound
      rw [bound, has_bindings_eq_false_iff.2 fun item hi ↦ Bool.eq_false_iff.2 (unbound item hi)]
        at taken
      cases taken
    · next free =>
      refine .inr ⟨fun name binds ↦ ?_, _, rfl⟩
      have same : Text.lower a = Text.lower name := by
        obtain ⟨-, lowered⟩ := of_decide_eq_true binds
        rw [labelled] at lowered
        exact Option.some_inj.1 lowered
      rw [Bool.not_eq_true, same, bound] at free
      exact has_bindings_eq_false_iff.1 free
  · next unnamed =>
    refine .inr ⟨fun name binds ↦ ?_, _, rfl⟩
    obtain ⟨column, named, -⟩ := SelectItem.binding?_of_binds binds
    obtain ⟨a, labelled, -⟩ := Option.map_eq_some_iff.1 (of_decide_eq_true binds).2
    exact (unnamed a column labelled named).elim

theorem bindAliases_cases (items : List SelectItem) :
    (Distinct items ∧ ∃ aliases, bindAliases [] items = .ok aliases) ∨
      ∃ a, FirstRepeat items a ∧ bindAliases [] items = .error (.ambiguousAlias a) := by
  induction items using List.reverseRecOn with
  | nil => exact .inl ⟨List.Pairwise.nil, [], rfl⟩
  | append_singleton items item ih =>
    rw [bindAliases_append]
    obtain ⟨distinct, aliases, h⟩ | ⟨a, repeats, h⟩ := ih
    · rw [h]
      obtain ⟨a, selected, labelled, taken, refused⟩ | ⟨free, aliases', next⟩ :=
        bindAliases_cons h item []
      · exact .inr ⟨a, ⟨items, item, [], rfl, distinct, selected, labelled, taken⟩, refused⟩
      · refine .inl ⟨List.pairwise_append.2 ⟨distinct, List.pairwise_singleton _ _, ?_⟩, aliases',
          next⟩
        intro earlier he later hl name binds
        rw [List.mem_singleton.1 hl]
        exact Bool.eq_false_iff.2 fun binds' ↦
          Bool.false_ne_true ((free name binds' earlier he).symm.trans binds)
    · exact .inr ⟨a, repeats.append [item], by rw [h]⟩

theorem bindAliases_of_firstRepeat {items : List SelectItem} {a : String}
    (h : FirstRepeat items a) :
    bindAliases [] items = .error (.ambiguousAlias a) := by
  obtain ⟨before, item, after, rfl, distinct, selected, labelled, earlier, he, binds⟩ := h
  rw [bindAliases_append]
  obtain ⟨-, aliases, h⟩ | ⟨a, repeats, -⟩ := bindAliases_cases before
  · rw [h]
    obtain ⟨a', -, labelled', -, refused⟩ | ⟨free, -⟩ := bindAliases_cons h item after
    · cases labelled.symm.trans labelled'
      exact refused
    · have binds' : item.binds a = true := decide_eq_true ⟨selected, by rw [labelled]; rfl⟩
      exact absurd binds (Bool.eq_false_iff.1 (free a binds' earlier he))
  · exact absurd distinct repeats.not_distinct

/-- Names are refused only for an alias that stands twice, and then for the first one that does. -/
theorem ofPlan_eq_error_iff {p : Plan} {e : Error} :
    ofPlan p = .error e ↔ ∃ a, e = .ambiguousAlias a ∧ FirstRepeat p.projection a := by
  rw [ofPlan]
  constructor
  · intro h
    obtain ⟨-, aliases, bound⟩ | ⟨a, repeats, refused⟩ := bindAliases_cases p.projection
    · rw [bound] at h
      cases h
    · rw [refused] at h
      cases h
      exact ⟨a, rfl, repeats⟩
  · rintro ⟨a, rfl, repeats⟩
    rw [bindAliases_of_firstRepeat repeats]

theorem exists_ofPlan_eq_error_iff {p : Plan} :
    (∃ a, ofPlan p = .error (.ambiguousAlias a)) ↔ ¬ Distinct p.projection := by
  constructor
  · rintro ⟨a, h⟩
    obtain ⟨a, -, repeats⟩ := ofPlan_eq_error_iff.1 h
    exact repeats.not_distinct
  · intro repeats
    obtain ⟨distinct, -⟩ | ⟨a, first, -⟩ := bindAliases_cases p.projection
    · exact absurd distinct repeats
    · exact ⟨a, ofPlan_eq_error_iff.2 ⟨a, rfl, first⟩⟩

end Scope

/-! ## Rows with a cell for each column -/

/-- A result of a select list: it shows the columns and headers of the list, finds what a name
stands for at the first place of that column, and a row has one cell for all places of a column. -/
structure ResultSet.Projects (r : ResultSet) (p : Plan) (t : Table) : Prop where
  columns : r.columns = p.columns t
  labels : r.labels = p.labels t
  resolve? : ∀ name, r.resolve? name = (p.columns t).idxOf? (p.resolved name)
  rows : ∀ row ∈ r.rows, ∃ value : String → Cell, row = (p.columns t).map value

/-- A name is found at a place of a result: the cells under it are those at this place, in the rows
and in the answers that a result gives. -/
structure ResultSet.Finds (r : ResultSet) (name : String) (i : Nat) : Prop where
  position :
    ∃ k, r.resolve? name = some k ∧ ∀ row ∈ r.rows, ∃ v, row[k]? = some v ∧ row[i]? = some v
  column : r.column? name = some (r.rows.map fun row ↦ row[i]?.getD .null)
  value : ∀ n, r.value? n name = r.rows[n]?.bind fun row ↦ row[i]?

section Projects

variable {p : Plan} {s : Scope} {t : Table}

theorem exists_value_of_converts {extras : List Operand} {records : List Record} {rows : Rows}
    (h : Converts p t extras records rows) :
    ∀ row ∈ rows.rows, ∃ value : String → Cell, row = rows.columns.map value := by
  intro row hrow
  cases h with
  | @records l built =>
    obtain ⟨r, -, rfl⟩ := List.mem_map.1 hrow
    exact ⟨r.cell, by rw [Rows.ofLayout, List.map_map]; rfl⟩
  | groups built _ each =>
    obtain ⟨g, -, hr⟩ := each row hrow
    obtain ⟨-, -, filled⟩ := Layout.build_eq_ok built
    exact ⟨_, groupRow_eq_map filled hr⟩

theorem columns_of_converts {extras : List Operand} {records : List Record} {rows : Rows}
    (h : Converts p t extras records rows) :
    rows.columns.take rows.projected = p.columns t ∧
      rows.labels.take rows.projected = p.labels t := by
  cases h with
  | records built =>
    obtain ⟨columns, labels, -⟩ := Layout.build_eq_ok built
    exact ⟨columns, labels⟩
  | groups built _ _ =>
    obtain ⟨columns, labels, -⟩ := Layout.build_eq_ok built
    exact ⟨columns, labels⟩

theorem length_labels_of_converts {extras : List Operand} {records : List Record} {rows : Rows}
    (h : Converts p t extras records rows) : rows.labels.length = rows.columns.length := by
  cases h <;> rw [Rows.ofLayout, List.length_map, List.length_map]

/-- Among the first columns a column is found where it is first found, if that is before their
end. -/
theorem lookup_positions_take (columns : List String) (n : Nat) (column : String) :
    ((positions columns).filter fun q ↦ q.2 < n).lookup column =
      (columns.take n).idxOf? column := by
  have first : ((positions columns).map Prod.fst).Nodup := by
    have h : positions columns = Keyed.firsts columns.zipIdx := rfl
    rw [h, Keyed.keys_firsts]
    exact Keyed.nodup_eraseDups _
  have nodup : (((positions columns).filter fun q ↦ q.2 < n).map Prod.fst).Nodup :=
    first.sublist (List.filter_sublist.map Prod.fst)
  refine Option.ext fun i ↦ ?_
  rw [Keyed.lookup_eq_some_iff_mem nodup, mem_positions_take_iff]

/-- Ordering, cutting and stripping rows leaves them a cell for each column. -/
theorem projects_of_finish {records : List Record} {r : ResultSet} (hs : Scope.ofPlan p = .ok s)
    (h : finish s t records = .ok r) : r.Projects p t := by
  obtain ⟨rows, ordered, hc, ho, rfl⟩ := finish_eq_ok h
  have converts := converts_of_convert hs hc
  obtain ⟨columns, labels⟩ := columns_of_converts converts
  rw [ResultSet.order] at ho
  split at ho
  · cases ho
  · cases ho
    have cells {le : List Cell → List Cell → Bool} :
        ∀ row ∈ limited s.plan.limit (rows.rows.mergeSort le),
          ∃ value : String → Cell, row = rows.columns.map value := fun row hrow ↦
      exists_value_of_converts converts row (List.mem_mergeSort.1 (limited_subset _ _ hrow))
    rw [rows_cut, ResultSet.project_eq (length_labels_of_converts converts)]
    · refine ⟨columns, labels, fun name ↦ ?_, fun row hrow ↦ ?_⟩
      · show ((positions rows.columns).filter fun q ↦ q.2 < rows.projected).lookup
          (s.resolve name) = _
        rw [lookup_positions_take, columns, Scope.resolve_ofPlan hs]
      · obtain ⟨row', hrow', rfl⟩ := List.mem_map.1 hrow
        obtain ⟨value, rfl⟩ := cells row' hrow'
        exact ⟨value, by rw [← List.map_take, ← columns]; rfl⟩
    · intro row hrow
      obtain ⟨value, rfl⟩ := cells row hrow
      exact List.length_map _
    · exact fun q ↦ lt_length_of_mem_positions

theorem projects_of_run {σ : Type} {c : Client σ} {state state' : σ} {r : ResultSet}
    (h : run c p state = (.ok r, state')) :
    ∃ t, Table.ofName? p.table = some t ∧ r.Projects p t := by
  obtain ⟨s, t, _, _, hs, ht, _, _, hf⟩ := run_eq_ok_iff.1 h
  exact ⟨t, ht, projects_of_finish hs hf⟩

theorem ResultSet.Projects.finds {r : ResultSet} (h : r.Projects p t) {i : Nat}
    {column name : String}
    (hi : (p.columns t)[i]? = some column) (hn : p.resolved name = column) : r.Finds name i := by
  obtain ⟨k, hk⟩ := Option.isSome_iff_exists.1 (List.isSome_idxOf?.2 (List.mem_of_getElem? hi))
  obtain ⟨bound, found, -⟩ := List.idxOf?_eq_some_iff.1 hk
  have place : r.resolve? name = some k := by rw [h.resolve?, hn, hk]
  have cells : ∀ row ∈ r.rows, ∃ v, row[k]? = some v ∧ row[i]? = some v := by
    intro row hrow
    obtain ⟨value, rfl⟩ := h.rows row hrow
    refine ⟨value column, ?_, ?_⟩
    · rw [List.getElem?_map, List.getElem?_eq_getElem bound, found]
      rfl
    · rw [List.getElem?_map, hi]
      rfl
  have same : ∀ row ∈ r.rows, row[k]? = row[i]? := by
    intro row hrow
    obtain ⟨v, hv, hv'⟩ := cells row hrow
    rw [hv, hv']
  refine ⟨⟨k, place, cells⟩, ?_, fun n ↦ ?_⟩
  · rw [ResultSet.column?, place, Option.map_some]
    exact congrArg some (List.map_congr_left fun row hrow ↦ by rw [same row hrow])
  · rw [ResultSet.value?, place]
    cases hn : r.rows[n]? with
    | none => rfl
    | some row => exact same row (List.mem_of_getElem? hn)

end Projects

/-! ## Aliases -/

theorem SelectItem.length_labelsIn (t : Table) (item : SelectItem) :
    (item.labelsIn t).length = (item.columnsIn t).length := by
  rw [labelsIn, columnsIn]
  cases item.expr.name? <;> rfl

/-- A name that is the alias of an entry up to letter case, or that no entry has as its alias and
that is the name of the entry's own column. -/
theorem Plan.resolved_of_named {p : Plan} {s : Scope} (hs : Scope.ofPlan p = .ok s)
    {item : SelectItem}
    (hi : item ∈ p.projection) {column name : String} (named : item.expr.name? = some column) :
    (∀ a, item.label = some a → Text.sameAscii name a = true → p.resolved name = column) ∧
      (Text.sameAscii name column = true → (∀ other ∈ p.projection, other.binds name = false) →
        p.resolved name = column) := by
  constructor
  · intro a labelled same
    have selected : item.expr ≠ .star := fun star ↦ by
      rw [star] at named
      cases named
    have binds : item.binds name = true :=
      decide_eq_true ⟨selected, by rw [labelled, Text.lower_eq_of_sameAscii same]; rfl⟩
    have found := Scope.resolved_of_binds hs hi binds
    rw [named] at found
    exact (Option.some_inj.1 found).symm
  · intro same unbound
    rw [Plan.resolved_of_not_binds unbound, Text.lower_eq_of_sameAscii same]
    exact Selected.lower_name? named

theorem Plan.getElem?_columns {p : Plan} (t : Table) {before after : List SelectItem}
    {item : SelectItem} {column : String} (split : p.projection = before ++ item :: after)
    (named : item.expr.name? = some column) :
    (p.columns t)[(before.flatMap (·.columnsIn t)).length]? = some column ∧
      (p.labels t)[(before.flatMap (·.columnsIn t)).length]? = some (item.label.getD column) := by
  have lengths :
      (before.flatMap (·.labelsIn t)).length = (before.flatMap (·.columnsIn t)).length := by
    rw [List.length_flatMap, List.length_flatMap]
    exact congrArg List.sum (List.map_congr_left fun item _ ↦ item.length_labelsIn t)
  have shown : item.columnsIn t = [column] := by rw [SelectItem.columnsIn, named]
  have header : item.labelsIn t = [item.label.getD column] := by rw [SelectItem.labelsIn, named]
  rw [Plan.columns, Plan.labels, split, List.flatMap_append, List.flatMap_append, List.flatMap_cons,
    List.flatMap_cons, shown, header]
  constructor
  · rw [List.getElem?_append_right (Nat.le_refl _), Nat.sub_self]
    rfl
  · rw [← lengths, List.getElem?_append_right (Nat.le_refl _), Nat.sub_self]
    rfl

/-- No two entries of a select list may have one alias, and the first alias that an earlier entry
has already is the one reported.  In every result an entry of the select list, wherever it stands,
is found by its alias, in any case; and without an alias by the name of its column, in any case,
unless this name is an alias.  What is found are the cells of the entry itself. -/
theorem alias_columns (p : Plan) :
    ((∃ a, Scope.ofPlan p = .error (.ambiguousAlias a)) ↔
      ∃ i j : Nat, i < j ∧ ∃ (earlier later : SelectItem) (name : String),
        p.projection[i]? = some earlier ∧ p.projection[j]? = some later ∧
        earlier.binds name = true ∧ later.binds name = true) ∧
    (∀ e, Scope.ofPlan p = .error e ↔ ∃ a, e = .ambiguousAlias a ∧ FirstRepeat p.projection a) ∧
    ∀ {σ : Type} (c : Client σ) (state state' : σ) (result : ResultSet),
      run c p state = (.ok result, state') →
      ∃ t, Table.ofName? p.table = some t ∧
        ∀ before item after column, p.projection = before ++ item :: after →
          item.expr.name? = some column →
          let i := (before.flatMap (·.columnsIn t)).length
          result.columns[i]? = some column ∧ result.labels[i]? = some (item.label.getD column) ∧
            (∀ a name, item.label = some a → Text.sameAscii name a = true → result.Finds name i) ∧
            (item.label = none → ∀ name, Text.sameAscii name column = true →
              (∀ other ∈ p.projection, other.binds name = false) → result.Finds name i) := by
  refine ⟨Scope.exists_ofPlan_eq_error_iff.trans not_distinct_iff,
    fun e ↦ Scope.ofPlan_eq_error_iff, fun c state state' result hr ↦ ?_⟩
  obtain ⟨s, -, -, -, hs, -⟩ := run_eq_ok_iff.1 hr
  obtain ⟨t, ht, projects⟩ := projects_of_run hr
  refine ⟨t, ht, fun before item after column split named ↦ ?_⟩
  have member : item ∈ p.projection := split ▸ List.mem_append_right _ List.mem_cons_self
  obtain ⟨shown, header⟩ := p.getElem?_columns t split named
  refine ⟨by rw [projects.columns, shown], by rw [projects.labels, header], ?_, ?_⟩
  · intro a name labelled same
    exact projects.finds shown ((Plan.resolved_of_named hs member named).1 a labelled same)
  · intro _ name same unbound
    exact projects.finds shown ((Plan.resolved_of_named hs member named).2 same unbound)

/-- Two columns under each other's names, among all columns, and one of them again. -/
def swapped : Plan where
  projection := [⟨.column "BlockNumber", some "Hash"⟩, ⟨.star, some "all"⟩,
    ⟨.column "hash", some "blocknumber"⟩, ⟨.column "HASH", none⟩, ⟨.column "Gas", none⟩]
  table := "transactions"
  selection := some (.logical .or [.equals "blocknumber" "1", .equals "blocknumber" "2"])
  groupBy := none
  having := none
  orderBy := some [⟨.column "HASH", .desc⟩]
  limit := some 1

/-- The name of a column that is an alias of another one finds this other one. -/
theorem alias_columns_swapped :
    ∃ result l, run Ledger.client swapped (Ledger.ofBlocks twoBlocks) = (.ok result, l) ∧
      (result.columns[0]?, result.columns[12]?, result.columns[14]?) =
        (some "blocknumber", some "hash", some "gas") ∧
      result.Finds "HASH" 0 ∧ result.Finds "blockNUMBER" 12 ∧ result.Finds "GAS" 14 := by
  have ok : (run Ledger.client swapped (Ledger.ofBlocks twoBlocks)).1.toOption.map
      (fun r ↦ (r.columns[0]?, r.columns[12]?, r.columns[14]?)) =
        some (some "blocknumber", some "hash", some "gas") := by decide +kernel
  obtain ⟨result, l, hr, columns⟩ := exists_run_eq_ok ok
  obtain ⟨t, ht, entries⟩ := (alias_columns swapped).2.2 _ _ _ _ hr
  obtain rfl : Table.transactions = t := Option.some_inj.1 (Eq.trans (by decide +kernel) ht)
  refine ⟨result, l, hr, columns, ?_, ?_, ?_⟩
  · exact (entries [] _ _ _ rfl rfl).2.2.1 _ _ rfl (by decide +kernel)
  · exact (entries (swapped.projection.take 2) _ _ _ rfl rfl).2.2.1 _ _ rfl (by decide +kernel)
  · exact (entries (swapped.projection.take 4) _ _ _ rfl rfl).2.2.2 rfl _ (by decide +kernel)
      (by decide +kernel)

end LedgerQuery.Query
