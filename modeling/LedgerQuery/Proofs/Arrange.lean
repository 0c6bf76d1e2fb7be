import LedgerQuery.Proofs.CellOrder
import LedgerQuery.Proofs.Keyed
import LedgerQuery.Query.Run

/-!
# Ordering, cutting and stripping

Rows stand for things, which are records or groups of records: a row holds the cells of its thing in
some columns.  Ordering the rows then orders the things, whatever the positions of the columns in a
row are (`arrange_eq`), and stripping leaves the first columns of each of them.
-/

namespace LedgerQuery.Query

open Std

/-! ## Positions of columns -/

theorem mem_positions_iff {columns : List String} {column : String} {i : Nat} :
    (column, i) ∈ positions columns ↔ columns.idxOf? column = some i := by
  have h : positions columns = Keyed.firsts columns.zipIdx := rfl
  rw [h, Keyed.mem_firsts_iff, Keyed.lookup_zipIdx]
  simp

theorem lookup_positions (columns : List String) (column : String) :
    (positions columns).lookup column = columns.idxOf? column := by
  have h : positions columns = Keyed.firsts columns.zipIdx := rfl
  rw [h, Keyed.lookup_firsts, Keyed.lookup_zipIdx]
  simp

theorem idxOf?_take_eq_some_iff {columns : List String} {column : String} {n i : Nat} :
    (columns.take n).idxOf? column = some i ↔ columns.idxOf? column = some i ∧ i < n := by
  simp only [List.idxOf?_eq_some_iff, List.length_take, List.getElem_take, Nat.lt_min]
  constructor
  · rintro ⟨⟨hn, hl⟩, hc, hf⟩
    exact ⟨⟨hl, hc, hf⟩, hn⟩
  · rintro ⟨⟨hl, hc, hf⟩, hn⟩
    exact ⟨⟨hn, hl⟩, hc, hf⟩

/-- The positions among the first columns are those that stand before their end. -/
theorem mem_positions_take_iff {columns : List String} {n : Nat} {p : String × Nat} :
    p ∈ (positions columns).filter (fun p ↦ p.2 < n) ↔
      (columns.take n).idxOf? p.1 = some p.2 := by
  rw [List.mem_filter, mem_positions_iff, decide_eq_true_iff, idxOf?_take_eq_some_iff]

theorem lt_length_of_mem_positions {columns : List String} {p : String × Nat}
    (h : p ∈ positions columns) : p.2 < columns.length := by
  obtain ⟨bound, -⟩ := List.idxOf?_eq_some_iff.1 (mem_positions_iff.1 h)
  exact bound

/-- Where nothing goes beyond the columns, all of it is cut off at the same place, also if there is
nothing to strip. -/
theorem ResultSet.project_eq {r : ResultSet} (labels : r.labels.length = r.columns.length)
    (cells : ∀ row ∈ r.rows, row.length = r.columns.length)
    (index : ∀ p ∈ r.index, p.2 < r.columns.length) :
    r.project =
      { r with
        columns := r.columns.take r.projected
        labels := r.labels.take r.projected
        rows := r.rows.map (List.take r.projected)
        index := r.index.filter fun p ↦ p.2 < r.projected } := by
  rw [project]
  split
  · next all =>
    have columns : r.columns.take r.projected = r.columns := List.take_of_length_le (by omega)
    have labels : r.labels.take r.projected = r.labels := List.take_of_length_le (by omega)
    have rows : r.rows.map (List.take r.projected) = r.rows := by
      refine (List.map_congr_left fun row hrow ↦ ?_).trans (List.map_id r.rows)
      exact List.take_of_length_le (Nat.le_of_eq ((cells row hrow).trans all.symm))
    have places : r.index.filter (fun p ↦ p.2 < r.projected) = r.index := by
      refine List.filter_eq_self.2 fun p hp ↦ decide_eq_true ?_
      rw [all]
      exact index p hp
    rw [columns, labels, rows, places]
  · rfl

/-- The cell at the position of a column is the cell in this column. -/
theorem cell_of_idxOf? {columns : List String} {column : String} {i : Nat}
    (h : columns.idxOf? column = some i) (value : String → Cell) :
    (columns.map value)[i]?.getD .null = value column := by
  obtain ⟨hi, hc, -⟩ := List.idxOf?_eq_some_iff.1 h
  rw [List.getElem?_map, List.getElem?_eq_getElem hi, hc]
  rfl

/-! ## Rows that stand for things -/

section Rows

variable {α : Type} {value : α → String → Cell} {columns : List String}

theorem keyPositions_eq_ok {s : ResultSet} {keys : List (String × Direction)}
    {ps : List (Nat × Direction)} (hs : s.index = positions columns)
    (h : s.keyPositions keys = .ok ps) :
    (∀ k ∈ keys, k.1 ∈ columns) ∧
      ∀ a b, ResultSet.compareRows ps (columns.map (value a)) (columns.map (value b)) =
        compareBy value keys a b := by
  induction keys generalizing ps with
  | nil =>
    cases h
    exact ⟨fun _ hk ↦ absurd hk List.not_mem_nil, fun _ _ ↦ rfl⟩
  | cons k keys ih =>
    obtain ⟨column, d⟩ := k
    rw [ResultSet.keyPositions, hs, lookup_positions] at h
    split at h
    · cases h
    · next i hi =>
      split at h
      · next rest hr =>
        cases h
        obtain ⟨hk, hc⟩ := ih hr
        refine ⟨List.forall_mem_cons.2 ⟨?_, hk⟩, fun a b ↦ ?_⟩
        · exact List.isSome_idxOf?.1 (hi ▸ rfl)
        · rw [ResultSet.compareRows, compareBy, cell_of_idxOf? hi, cell_of_idxOf? hi, hc,
            Direction.apply_compare]
      · cases h

/-- The first things of a list, as many as a limit allows. -/
def limited (limit : Option Nat) (xs : List α) : List α :=
  match limit with
  | some n => xs.take n
  | none => xs

theorem rows_cut (limit : Option Nat) (s : ResultSet) :
    cut limit s = { s with rows := limited limit s.rows } := by
  cases limit <;> rfl

theorem limited_subset (limit : Option Nat) (xs : List α) : limited limit xs ⊆ xs := by
  cases limit with
  | none => exact List.Subset.refl xs
  | some n => exact List.take_subset n xs

theorem map_limited {β : Type} (limit : Option Nat) (f : α → β) (xs : List α) :
    limited limit (xs.map f) = (limited limit xs).map f := by
  cases limit with
  | none => rfl
  | some n => exact List.map_take.symm

/-- Rows that stand for things come out as the first columns of the things, which were put in order
by their cells and cut. -/
theorem arrange_eq {xs : List α} {labels : List String} {n : Nat} {keys : List (String × Direction)}
    {t : Table} {aliases : List (String × String)} {r : ResultSet} (limit : Option Nat)
    (hl : labels.length = columns.length)
    (h : (ResultSet.ofRows t ⟨columns, labels, n, xs.map fun x ↦ columns.map (value x)⟩
      aliases).order keys = .ok r)
    (hv : ∀ k ∈ keys, k.1 ∈ columns → ∀ a ∈ xs, ∀ b ∈ xs, (value a k.1).Unmixed (value b k.1)) :
    (∀ k ∈ keys, k.1 ∈ columns) ∧
    ∃ sorted, StablySorted (compareBy value keys) xs sorted ∧
      (cut limit r).project =
        ⟨t, columns.take n, labels.take n, (positions columns).filter fun p ↦ p.2 < n, aliases,
          (limited limit sorted).map fun x ↦ (columns.take n).map (value x), n⟩ := by
  rw [ResultSet.order] at h
  split at h
  · cases h
  · next ps hp =>
    cases h
    obtain ⟨hk, hc⟩ := @keyPositions_eq_ok α value columns _ _ _ rfl hp
    refine ⟨hk, _, stablySorted_compareBy fun k hkey ↦ hv k hkey (hk k hkey), ?_⟩
    have hr : (xs.map fun x ↦ columns.map (value x)).mergeSort
        (fun a b ↦ (ResultSet.compareRows ps a b).isLE) =
          (xs.mergeSort fun a b ↦ (compareBy value keys a b).isLE).map
            fun x ↦ columns.map (value x) :=
      (List.map_mergeSort fun a _ b _ ↦ by rw [hc]).symm
    rw [rows_cut]
    dsimp only [ResultSet.ofRows]
    rw [hr, map_limited, ResultSet.project_eq hl]
    · dsimp only
      rw [List.map_map]
      simp only [Function.comp_def, List.map_take]
      rfl
    · exact List.forall_mem_map.2 fun x _ ↦ List.length_map _
    · exact fun p ↦ lt_length_of_mem_positions

end Rows

end LedgerQuery.Query
