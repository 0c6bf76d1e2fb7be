import LedgerQuery.Proofs.Keyed
import LedgerQuery.Query.Rows
import Mathlib.Data.List.Perm.Basic

/-!
# Groups of records

Grouping divides the records by their cells in some columns (`groups_eq_partition`): no record is
lost or doubled (`flatten_partition`), each stands in one group only (`countP_partition`), and the
records of a group agree in every column that they are grouped by (`cell_eq_of_mem_partition`).
-/

namespace LedgerQuery.Query

open Chain

/-- The cells of a record in the columns grouped by. -/
def groupKey (groupBy : List String) (r : Record) : List Cell := groupBy.map r.cell

/-- The records by their keys, which come in the order in which they are first seen; without columns
to group by all records are together, even if there are none. -/
def partition (groupBy : List String) (records : List Record) : List (List Record) :=
  match groupBy with
  | [] => [records]
  | _ :: _ => (records.map (groupKey groupBy)).eraseDups.map fun k ↦
    records.filter fun r ↦ groupKey groupBy r == k

theorem groups_eq_partition (groupBy : List String) (records : List Record) :
    Rows.groups groupBy records = partition groupBy records := by
  cases groupBy with
  | nil => rfl
  | cons c cs =>
    show (Keyed.group (groupKey (c :: cs)) records).map Prod.snd = _
    rw [Keyed.group_eq, List.map_map]
    rfl

/-! ## Lists divided by a key -/

section Divide

variable {α κ : Type} [BEq κ] [LawfulBEq κ]

theorem flatMap_filter_perm (key : α → κ) {ks : List κ} (hn : ks.Nodup) {as : List α}
    (h : ∀ a ∈ as, key a ∈ ks) : (ks.flatMap fun k ↦ as.filter fun a ↦ key a == k).Perm as := by
  induction ks generalizing as with
  | nil =>
    cases as with
    | nil => exact .refl _
    | cons a as => exact absurd (h a List.mem_cons_self) List.not_mem_nil
  | cons k ks ih =>
    obtain ⟨hk, hn⟩ := List.nodup_cons.1 hn
    have rest : (ks.flatMap fun l ↦ as.filter fun a ↦ key a == l) =
        ks.flatMap fun l ↦ (as.filter fun a ↦ !(key a == k)).filter fun a ↦ key a == l := by
      apply List.flatMap_congr
      intro l hl
      rw [List.filter_filter]
      apply List.filter_congr
      intro a _
      by_cases hal : key a = l
      · have hlk : l ≠ k := fun hlk ↦ hk (hlk ▸ hl)
        simp [hal, hlk]
      · simp [hal]
    have others : ∀ a ∈ as.filter (fun a ↦ !(key a == k)), key a ∈ ks := by
      intro a ha
      obtain ⟨ha, hak⟩ := List.mem_filter.1 ha
      exact (List.mem_cons.1 (h a ha)).resolve_left (by simpa using hak)
    rw [List.flatMap_cons, rest]
    exact ((ih hn others).append_left _).trans (List.filter_append_perm _ as)

theorem countP_filter_eq_one [DecidableEq α] (key : α → κ) {ks : List κ} (hn : ks.Nodup)
    {as : List α} {a : α} (ha : a ∈ as) (hk : key a ∈ ks) :
    (ks.map fun k ↦ as.filter fun b ↦ key b == k).countP (fun g ↦ a ∈ g) = 1 := by
  rw [List.countP_map, ← List.count_eq_one_of_mem hn hk, List.count]
  apply List.countP_congr
  intro k _
  show decide (a ∈ as.filter fun b ↦ key b == k) = true ↔ _
  rw [decide_eq_true_iff, List.mem_filter, beq_iff_eq, beq_iff_eq]
  exact ⟨fun h ↦ h.2.symm, fun h ↦ ⟨ha, h.symm⟩⟩

end Divide

/-! ## The groups -/

section Groups

variable {groupBy : List String} {records : List Record}

theorem nodup_keys (groupBy : List String) (records : List Record) :
    (records.map (groupKey groupBy)).eraseDups.Nodup :=
  Keyed.nodup_eraseDups _

theorem mem_keys {r : Record} (hr : r ∈ records) :
    groupKey groupBy r ∈ (records.map (groupKey groupBy)).eraseDups :=
  List.mem_eraseDups.2 (List.mem_map_of_mem hr)

/-- The groups together hold every record as often as it was there. -/
theorem flatten_partition (groupBy : List String) (records : List Record) :
    (partition groupBy records).flatten.Perm records := by
  cases groupBy with
  | nil => exact .of_eq (List.append_nil records)
  | cons c cs =>
    rw [partition, ← List.flatMap_def]
    exact flatMap_filter_perm _ (nodup_keys _ _) fun r hr ↦ mem_keys hr

/-- A record stands in one group only. -/
theorem countP_partition (groupBy : List String) {r : Record} (hr : r ∈ records) :
    (partition groupBy records).countP (fun g ↦ r ∈ g) = 1 := by
  cases groupBy with
  | nil => simp [partition, hr]
  | cons c cs => exact countP_filter_eq_one _ (nodup_keys _ _) hr (mem_keys hr)

theorem subset_of_mem_partition {g : List Record} (hg : g ∈ partition groupBy records) :
    g ⊆ records := by
  cases groupBy with
  | nil => rw [List.mem_singleton.1 hg]; exact List.Subset.refl _
  | cons c cs =>
    obtain ⟨k, -, rfl⟩ := List.mem_map.1 hg
    exact List.filter_subset_self _

/-- The records of a group agree in the columns grouped by. -/
theorem cell_eq_of_mem_partition {g : List Record} (hg : g ∈ partition groupBy records)
    {column : String} (hc : column ∈ groupBy) {r s : Record} (hr : r ∈ g) (hs : s ∈ g) :
    r.cell column = s.cell column := by
  cases groupBy with
  | nil => cases hc
  | cons c cs =>
    obtain ⟨k, -, rfl⟩ := List.mem_map.1 hg
    have hrs : groupKey (c :: cs) r = groupKey (c :: cs) s :=
      (eq_of_beq (List.mem_filter.1 hr).2).trans (eq_of_beq (List.mem_filter.1 hs).2).symm
    exact List.map_eq_map_iff.1 hrs column hc

/-- No group is empty, if there are columns to group by. -/
theorem ne_nil_of_mem_partition {g : List Record} (hg : g ∈ partition groupBy records)
    (hc : groupBy ≠ []) : g ≠ [] := by
  cases groupBy with
  | nil => exact absurd rfl hc
  | cons c cs =>
    obtain ⟨k, hk, rfl⟩ := List.mem_map.1 hg
    obtain ⟨r, hr, rfl⟩ := List.mem_map.1 (List.mem_eraseDups.1 hk)
    exact List.ne_nil_of_mem (List.mem_filter.2 ⟨hr, BEq.rfl⟩)

end Groups

end LedgerQuery.Query
