import LedgerQuery.Proofs.AliasColumns
import LedgerQuery.Proofs.Kinds
import Mathlib.Data.List.Perm.Subperm

/-!
# Results step by step

A result is taken through steps: its rows are ordered, cut, and stripped of what was only carried
along, in any order and any number of times.  What holds a result together is that labels, columns
and rows are of one length, that the index is that of the columns there are, and that cells of a
column are of one kind (`ResultSet.Aligned`).  Every step keeps it so (`Aligned.step`), hence any
steps do, starting from rows that fit together (`aligned_after`).
-/

namespace LedgerQuery.Query

open Chain

/-! ## The index of some columns -/

/-- Every column once, in the order of the columns, with the first place where it stands. -/
def firstPlaces (columns : List String) : List (String × Nat) :=
  columns.eraseDups.map fun c ↦ (c, columns.idxOf c)

theorem positions_eq (columns : List String) : positions columns = firstPlaces columns := by
  induction columns using List.reverseRecOn with
  | nil => rfl
  | append_singleton columns c ih =>
    have next : positions (columns ++ [c]) =
        Keyed.insertNew c columns.length (positions columns) := by
      simp only [positions, List.zipIdx_append, List.zipIdx_singleton, List.foldl_append,
        List.foldl_cons, List.foldl_nil, Nat.zero_add]
    have old : (columns.eraseDups.map fun d ↦ (d, (columns ++ [c]).idxOf d)) =
        firstPlaces columns := by
      refine List.map_congr_left fun d hd ↦ ?_
      rw [List.idxOf_append_of_mem (List.mem_eraseDups.1 hd)]
    have keys : (firstPlaces columns).map Prod.fst = columns.eraseDups := by
      simp [firstPlaces, Function.comp_def]
    rw [next, ih, Keyed.insertNew, firstPlaces.eq_def (columns ++ [c]), Keyed.eraseDups_concat]
    simp only [Keyed.has_iff, keys, List.mem_eraseDups]
    split
    · rw [old]
    · next fresh =>
      rw [List.map_append, old, List.map_singleton, List.idxOf_append_of_notMem fresh]
      simp

/-- The places before an end are those among the columns before it. -/
theorem filter_firstPlaces (columns : List String) (n : Nat) :
    (firstPlaces columns).filter (fun p ↦ p.2 < n) = firstPlaces (columns.take n) := by
  have all : columns.eraseDups =
      (columns.take n).eraseDups ++ ((columns.drop n).removeAll (columns.take n)).eraseDups := by
    rw [← List.eraseDups_append, List.take_append_drop]
  have mem_of_mem_drop : ∀ c ∈ ((columns.drop n).removeAll (columns.take n)).eraseDups,
      c ∈ columns ∧ c ∉ columns.take n := by
    intro c hc
    simp only [List.mem_eraseDups, List.removeAll, List.mem_filter, List.elem_eq_mem,
      Bool.not_eq_true', decide_eq_false_iff_not] at hc
    exact ⟨List.mem_of_mem_drop hc.1, hc.2⟩
  rw [firstPlaces, all, List.map_append, List.filter_append]
  have before : ((columns.take n).eraseDups.map fun c ↦ (c, columns.idxOf c)).filter
      (fun p ↦ p.2 < n) = firstPlaces (columns.take n) := by
    have first : ∀ c ∈ columns.take n, columns.idxOf c = (columns.take n).idxOf c := fun c hc ↦
      ((columns.take_prefix n).idxOf_eq_of_mem hc).symm
    rw [List.filter_eq_self.2]
    · exact List.map_congr_left fun c hc ↦ by rw [first c (List.mem_eraseDups.1 hc)]
    · refine List.forall_mem_map.2 fun c hc ↦ decide_eq_true ?_
      have hc := List.mem_eraseDups.1 hc
      exact (List.mem_take_iff_idxOf_lt (List.mem_of_mem_take hc)).1 hc
  have after : ((((columns.drop n).removeAll (columns.take n)).eraseDups).map
      fun c ↦ (c, columns.idxOf c)).filter (fun p ↦ p.2 < n) = [] := by
    refine List.filter_eq_nil_iff.2 (List.forall_mem_map.2 fun c hc ↦ ?_)
    obtain ⟨mem, other⟩ := mem_of_mem_drop c hc
    rw [List.mem_take_iff_idxOf_lt mem] at other
    simpa using other
  rw [before, after, List.append_nil]

/-! ## Steps -/

/-- A step that a result is taken through. -/
inductive Step
  | order (keys : List (String × Direction))
  | limit (n : Nat)
  | project
deriving DecidableEq, Repr

/-- Rows that fit together: every column has a label and a cell in each row, and its cells are of
one kind. -/
structure Rows.WellFormed (r : Rows) : Prop where
  labels : r.labels.length = r.columns.length
  cells : ∀ row ∈ r.rows, row.length = r.columns.length
  projected : r.projected ≤ r.columns.length
  kinds : ∀ i < r.columns.length, ∃ kind, ∀ row ∈ r.rows, ∀ v ∈ row[i]?, Cell.Fits v kind

namespace ResultSet

/-- The result after a step; one that fails leaves it as it was. -/
def step (r : ResultSet) : Step → ResultSet
  | .order keys =>
    match r.order keys with
    | .ok ordered => ordered
    | .error _ => r
  | .limit n => r.limit n
  | .project => r.project

def after (r : ResultSet) (xs : List Step) : ResultSet := xs.foldl step r

/-- A result that holds together. -/
structure Aligned (r : ResultSet) : Prop where
  labels : r.labels.length = r.columns.length
  cells : ∀ row ∈ r.rows, row.length = r.columns.length
  projected : r.projected ≤ r.columns.length
  index : r.index = firstPlaces r.columns
  typed : r.Typed

/-- What a step makes of a result.  Rows are put in order only if all keys are columns; otherwise
nothing changes. -/
inductive Takes (r : ResultSet) : Step → ResultSet → Prop
  | ordered {keys : List (String × Direction)} {rows : List (List Cell)}
      (known : ∀ key ∈ keys, key.1 ∈ r.columns)
      (sorted : StablySorted (compareRows (keys.map fun key ↦ (r.columns.idxOf key.1, key.2)))
        r.rows rows) :
      Takes r (.order keys) { r with rows := rows }
  | refused {keys : List (String × Direction)} (unknown : ∃ key ∈ keys, key.1 ∉ r.columns) :
      Takes r (.order keys) r
  | cut {n : Nat} {rows : List (List Cell)} (first : rows <+: r.rows)
      (length : rows.length = min n r.rows.length) :
      Takes r (.limit n) { r with rows := rows }
  | stripped :
      Takes r .project
        { r with
          columns := r.columns.take r.projected
          labels := r.labels.take r.projected
          rows := r.rows.map (List.take r.projected)
          index := firstPlaces (r.columns.take r.projected) }

namespace Aligned

variable {r : ResultSet}

/-! ## What a step makes of a result -/

theorem lookup_index (h : r.Aligned) (column : String) :
    r.index.lookup column = r.columns.idxOf? column := by
  rw [h.index, ← positions_eq, lookup_positions]

/-- The keys of an order are found if all of them are columns, and the first other one is blamed. -/
theorem keyPositions_eq (h : r.Aligned) (keys : List (String × Direction)) :
    r.keyPositions keys =
      match keys.find? fun key ↦ key.1 ∉ r.columns with
      | some key => .error (.unknownColumn key.1 r.table)
      | none => .ok (keys.map fun key ↦ (r.columns.idxOf key.1, key.2)) := by
  induction keys with
  | nil => rfl
  | cons key keys ih =>
    rw [keyPositions, h.lookup_index, List.find?_cons, ih]
    by_cases known : key.1 ∈ r.columns
    · obtain ⟨i, found⟩ := Option.isSome_iff_exists.1 (List.isSome_idxOf?.2 known)
      have place : r.columns.idxOf key.1 = i := by
        rw [List.idxOf_eq_getD_idxOf?, found, Option.getD_some]
      rw [found]
      simp only [known, not_true_eq_false, decide_false, List.map_cons, place]
      cases keys.find? fun key ↦ key.1 ∉ r.columns <;> rfl
    · rw [List.idxOf?_eq_none_iff.2 known]
      simp [known]

/-- An order fails exactly if there is a key that is no column. -/
theorem order_eq_error_iff (h : r.Aligned) {keys : List (String × Direction)} {e : Error} :
    r.order keys = .error e ↔
      ∃ key, (keys.find? fun key ↦ key.1 ∉ r.columns) = some key ∧
        e = .unknownColumn key.1 r.table := by
  rw [order, h.keyPositions_eq]
  cases keys.find? fun key ↦ key.1 ∉ r.columns <;> simp [eq_comm]

theorem project_eq (h : r.Aligned) :
    r.project =
      { r with
        columns := r.columns.take r.projected
        labels := r.labels.take r.projected
        rows := r.rows.map (List.take r.projected)
        index := firstPlaces (r.columns.take r.projected) } := by
  rw [ResultSet.project_eq h.labels h.cells, h.index, filter_firstPlaces]
  rw [h.index, ← positions_eq]
  exact fun p ↦ lt_length_of_mem_positions

theorem takes_step (h : r.Aligned) (x : Step) : r.Takes x (r.step x) := by
  cases x with
  | order keys =>
    rw [step, order, h.keyPositions_eq]
    cases unknown : keys.find? fun key ↦ key.1 ∉ r.columns with
    | some key =>
      refine .refused ⟨key, List.mem_of_find?_eq_some unknown, ?_⟩
      simpa using List.find?_some unknown
    | none =>
      refine .ordered (fun key hkey ↦ ?_)
        (stablySorted_mergeSort_of_mem _ (h.typed.transCmp_rows _))
      simpa using List.find?_eq_none.1 unknown key hkey
  | limit n => exact .cut (List.take_prefix n r.rows) List.length_take
  | project =>
    rw [step, h.project_eq]
    exact .stripped

/-- Stripping a result again changes nothing. -/
theorem project_project (h : r.Aligned) : r.project.project = r.project := by
  have all : r.project.projected = r.project.columns.length := by
    rw [h.project_eq]
    exact (List.length_take_of_le h.projected).symm
  rw [ResultSet.project, if_pos all]

/-! ## What a step keeps -/

theorem of_takes {s : ResultSet} {x : Step} (h : r.Aligned) (taken : r.Takes x s) : s.Aligned := by
  cases taken with
  | ordered known sorted =>
    exact ⟨h.labels, fun row hrow ↦ h.cells row (sorted.mem_iff.1 hrow), h.projected, h.index,
      h.typed.of_subset rfl fun row ↦ sorted.mem_iff.1⟩
  | refused unknown => exact h
  | cut first length =>
    exact ⟨h.labels, fun row hrow ↦ h.cells row (first.subset hrow), h.projected, h.index,
      h.typed.of_subset rfl first.subset⟩
  | stripped =>
    have place : min r.projected r.labels.length = min r.projected r.columns.length := by
      rw [h.labels]
    refine ⟨?_, fun row hrow ↦ ?_, ?_, rfl, h.typed.of_take r.projected rfl fun row hrow ↦ ?_⟩
    · simpa only [List.length_take] using place
    · obtain ⟨whole, hwhole, rfl⟩ := List.mem_map.1 hrow
      rw [List.length_take, List.length_take, h.cells whole hwhole]
    · exact Nat.le_of_eq (List.length_take_of_le h.projected).symm
    · obtain ⟨whole, hwhole, rfl⟩ := List.mem_map.1 hrow
      exact ⟨whole, hwhole, rfl⟩

theorem step (h : r.Aligned) (x : Step) : (r.step x).Aligned := h.of_takes (h.takes_step x)

theorem after (h : r.Aligned) (xs : List Step) : (r.after xs).Aligned := by
  induction xs generalizing r with
  | nil => exact h
  | cons x xs ih => exact ih (h.step x)

end Aligned

/-! ## Rows have the cells that are asked for -/

/-- A result that has a cell in every row, wherever one is asked for: at the place of a name, at the
place of a column that rows are ordered by, and under every label. -/
structure InBounds (r : ResultSet) : Prop where
  named : ∀ name i, r.resolve? name = some i → ∀ row ∈ r.rows, i < row.length
  ordered : ∀ keys ps, r.keyPositions keys = .ok ps → ∀ p ∈ ps, ∀ row ∈ r.rows, p.1 < row.length
  labelled : ∀ i < r.labels.length, ∀ row ∈ r.rows, i < row.length

theorem Aligned.inBounds {r : ResultSet} (h : r.Aligned) : r.InBounds where
  named name i found row hrow := by
    rw [resolve?, h.lookup_index] at found
    obtain ⟨bound, -⟩ := List.idxOf?_eq_some_iff.1 found
    rwa [h.cells row hrow]
  ordered keys ps found p hp row hrow := by
    rw [h.keyPositions_eq] at found
    cases unknown : keys.find? fun key ↦ key.1 ∉ r.columns with
    | some key => rw [unknown] at found; cases found
    | none =>
      rw [unknown] at found
      cases found
      obtain ⟨key, hkey, rfl⟩ := List.mem_map.1 hp
      rw [h.cells row hrow]
      exact List.idxOf_lt_length_of_mem (by simpa using List.find?_eq_none.1 unknown key hkey)
  labelled i hi row hrow := by rwa [h.cells row hrow, ← h.labels]

/-! ## What is left after some steps -/

/-- What is left of a result after some steps: its rows, of which some may be gone, and its columns,
unless it was stripped of those that were only carried along. -/
structure Leaves (r : ResultSet) (xs : List Step) (s : ResultSet) : Prop where
  table : s.table = r.table
  aliases : s.aliases = r.aliases
  projected : s.projected = r.projected
  columns : s.columns = if .project ∈ xs then r.columns.take r.projected else r.columns
  labels : s.labels = if .project ∈ xs then r.labels.take r.projected else r.labels
  rows : s.rows.Subperm (if .project ∈ xs then r.rows.map (List.take r.projected) else r.rows)

theorem Leaves.of_takes {r s s' : ResultSet} {xs : List Step} {x : Step} (h : r.Leaves xs s)
    (taken : s.Takes x s') : r.Leaves (xs ++ [x]) s' := by
  cases taken with
  | ordered known sorted =>
    refine ⟨h.table, h.aliases, h.projected, ?_, ?_, ?_⟩
    · simpa using h.columns
    · simpa using h.labels
    · simpa using sorted.perm.subperm.trans h.rows
  | refused unknown =>
    refine ⟨h.table, h.aliases, h.projected, ?_, ?_, ?_⟩
    · simpa using h.columns
    · simpa using h.labels
    · simpa using h.rows
  | cut first length =>
    refine ⟨h.table, h.aliases, h.projected, ?_, ?_, ?_⟩
    · simpa using h.columns
    · simpa using h.labels
    · simpa using first.sublist.subperm.trans h.rows
  | stripped =>
    obtain ⟨kept, perm, sublist⟩ := h.rows
    refine ⟨h.table, h.aliases, h.projected, ?_, ?_, kept.map (List.take s.projected),
      perm.map _, ?_⟩
    · simp only [List.mem_append, List.mem_singleton, or_true, if_true, h.columns, h.projected]
      split
      · rw [List.take_take, Nat.min_self]
      · rfl
    · simp only [List.mem_append, List.mem_singleton, or_true, if_true, h.labels, h.projected]
      split
      · rw [List.take_take, Nat.min_self]
      · rfl
    · simp only [List.mem_append, List.mem_singleton, or_true, if_true, h.projected]
      have stripped := sublist.map (List.take r.projected)
      split at stripped
      · simpa only [List.map_map, Function.comp_def, List.take_take, Nat.min_self] using stripped
      · exact stripped

theorem Aligned.leaves {r : ResultSet} (h : r.Aligned) (xs : List Step) :
    r.Leaves xs (r.after xs) := by
  induction xs using List.reverseRecOn with
  | nil => exact ⟨rfl, rfl, rfl, rfl, rfl, .refl _⟩
  | append_singleton xs x ih =>
    have next : r.after (xs ++ [x]) = (r.after xs).step x := List.foldl_concat ..
    rw [next]
    exact ih.of_takes ((h.after xs).takes_step x)

end ResultSet

/-! ## Rows that fit together -/

namespace Rows.WellFormed

variable {rows : Rows}

theorem typed (h : rows.WellFormed) (t : Table) (aliases : List (String × String)) :
    (ResultSet.ofRows t rows aliases).Typed := by
  choose kind fits using fun i : Fin rows.columns.length ↦ h.kinds i i.2
  refine ⟨List.ofFn kind, List.length_ofFn, fun row hrow ↦ List.forall₂_iff_get.2 ⟨?_, ?_⟩⟩
  · rw [List.length_ofFn, h.cells row hrow]
  · intro i hi hi'
    rw [List.length_ofFn] at hi'
    rw [List.get_eq_getElem, List.get_eq_getElem, List.getElem_ofFn]
    exact fits ⟨i, hi'⟩ row hrow _ (List.getElem?_eq_getElem hi)

theorem aligned (h : rows.WellFormed) (t : Table) (aliases : List (String × String)) :
    (ResultSet.ofRows t rows aliases).Aligned :=
  ⟨h.labels, h.cells, h.projected, positions_eq rows.columns, h.typed t aliases⟩

end Rows.WellFormed

/-- Rows fit together when they are made. -/
theorem Rows.wellFormed_of_converts {p : Plan} {t : Table} {extras : List Operand}
    {records : List Record} {rows : Rows} (ht : ∀ r ∈ records, tableOf r = t)
    (h : Converts p t extras records rows) : rows.WellFormed where
  labels := length_labels_of_converts h
  cells row hrow := by
    obtain ⟨value, rfl⟩ := exists_value_of_converts h row hrow
    exact List.length_map _
  projected := by
    cases h with
    | records built =>
      rw [ofLayout, List.length_map]
      exact Layout.projected_le_of_build built
    | groups built _ _ =>
      rw [ofLayout, List.length_map]
      exact Layout.projected_le_of_build built
  kinds i hi := by
    obtain ⟨kinds, length, typed⟩ := typed_of_converts ht h
    refine ⟨kinds.get ⟨i, length ▸ hi⟩, fun row hrow v hv ↦ ?_⟩
    obtain ⟨w, hw, fits⟩ := ResultSet.Typed.getElem?_of_typedRow (typed row hrow) (length ▸ hi)
    rw [Option.mem_def, hw] at hv
    cases hv
    exact fits

/-! ## Any steps -/

/-- From rows that fit together, a result holds together after any steps.  Wherever a cell is asked
for there is one.  Of the columns, headers and rows there are those that the steps leave, and a
further step of any kind does what it should: an order is refused exactly if a key of it is no
column, and stripping a second time does nothing. -/
theorem aligned_after (t : Table) {rows : Rows} (h : rows.WellFormed)
    (aliases : List (String × String)) (xs : List Step) :
    let start := ResultSet.ofRows t rows aliases
    let r := start.after xs
    r.Aligned ∧ r.InBounds ∧ start.Leaves xs r ∧ (∀ x, r.Takes x (r.step x)) ∧
      (∀ keys e, r.order keys = .error e ↔
        ∃ key, (keys.find? fun key ↦ key.1 ∉ r.columns) = some key ∧
          e = .unknownColumn key.1 r.table) ∧
      r.project.project = r.project := by
  have start := h.aligned t aliases
  have aligned := start.after xs
  exact ⟨aligned, aligned.inBounds, start.leaves xs, aligned.takes_step,
    fun keys e ↦ aligned.order_eq_error_iff, aligned.project_project⟩

/-- Prices, twice, and hashes that are only carried along. -/
def pricesTwice : Rows where
  columns := ["gasprice", "gasprice", "hash"]
  labels := ["gasprice", "price", "hash"]
  projected := 2
  rows := [[.integer 7, .integer 7, .text "0xb"], [.null, .null, .text "0xc"],
    [.integer 5, .integer 5, .text "0xa"]]

theorem pricesTwice_wellFormed : pricesTwice.WellFormed where
  labels := rfl
  cells := by decide
  projected := by decide
  kinds i hi := by
    have texts : ∀ row ∈ pricesTwice.rows, ∀ v ∈ row[2]?, Cell.Fits v .text := by
      simp [pricesTwice, Cell.Fits.text]
    have numbers : ∀ j < 2, ∀ row ∈ pricesTwice.rows, ∀ v ∈ row[j]?, Cell.Fits v .integer := by
      intro j hj
      obtain rfl | rfl : j = 0 ∨ j = 1 := by omega
      all_goals simp [pricesTwice, Cell.Fits.integer, Cell.Fits.null]
    obtain hi | rfl : i < 2 ∨ i = 2 := by
      have : i < 3 := hi
      omega
    · exact ⟨.integer, numbers i hi⟩
    · exact ⟨.text, texts⟩

/-- Rows are ordered by hashes, which are then dropped, so that the second order is refused. -/
theorem aligned_after_pricesTwice :
    let steps : List Step :=
      [.order [("hash", .asc)], .project, .order [("gasprice", .desc), ("hash", .asc)], .limit 2]
    let start := ResultSet.ofRows .transactions pricesTwice []
    let r := start.after steps
    pricesTwice.WellFormed ∧ r.columns = ["gasprice", "gasprice"] ∧ r.index = [("gasprice", 0)] ∧
      r.order [("gasprice", .desc), ("hash", .asc)] = .error (.unknownColumn "hash" .transactions) ∧
      r.Aligned ∧ r.InBounds ∧ start.Leaves steps r := by
  intro steps start r
  obtain ⟨aligned, inBounds, leaves, -, refused, -⟩ :=
    aligned_after .transactions pricesTwice_wellFormed [] steps
  have columns : r.columns = ["gasprice", "gasprice"] := leaves.columns
  have index : r.index = [("gasprice", 0)] := by
    rw [aligned.index, columns]
    decide
  have unknown : ([("gasprice", .desc), ("hash", .asc)] : List (String × Direction)).find?
      (fun key ↦ key.1 ∉ r.columns) = some ("hash", .asc) := by
    rw [columns]
    decide
  have message : Error.unknownColumn "hash" .transactions = .unknownColumn "hash" r.table := by
    rw [leaves.table]
    rfl
  exact ⟨pricesTwice_wellFormed, columns, index, (refused _ _).2 ⟨_, unknown, message⟩, aligned,
    inBounds, leaves⟩

end LedgerQuery.Query
