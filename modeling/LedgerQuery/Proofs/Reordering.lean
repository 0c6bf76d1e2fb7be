import LedgerQuery.Proofs.Aggregate
import LedgerQuery.Proofs.ExactSums

/-!
# Aggregates of reordered groups

What an aggregate makes of a group does not depend on the order of its records, but for an average
of numbers that are rounded while they are added (`Aggregate.eval_of_perm`).  Totals of natural
numbers are the same in every order, wherever one gets too large first, and the least and the
greatest of some cells are the ones that no other lies beyond (`Aggregate.least_isLE`,
`Aggregate.isLE_greatest`).
-/

namespace LedgerQuery.Query

open Std
open Chain
open Number (Binary64)

namespace Aggregate

theorem eq_nil_iff_of_perm {α : Type} {as bs : List α} (h : as.Perm bs) : as = [] ↔ bs = [] := by
  rw [← List.length_eq_zero_iff, h.length_eq, List.length_eq_zero_iff]

/-! ## Least and greatest cells -/

/-- What is picked again and again lies before all that it was picked from. -/
theorem foldl_pick_isLE (cmp : Cell → Cell → Ordering) [TransCmp cmp] {pick : Cell → Cell → Cell}
    {a : Cell} {cells : List Cell} (hm : ∀ x y, pick x y = x ∨ pick x y = y)
    (hp : ∀ x ∈ a :: cells, ∀ y ∈ a :: cells,
      (cmp (pick x y) x).isLE ∧ (cmp (pick x y) y).isLE) :
    ∀ b ∈ a :: cells, (cmp (cells.foldl pick a) b).isLE := by
  induction cells generalizing a with
  | nil =>
    intro b hb
    rw [List.mem_singleton.1 hb]
    have same : cmp a a = .eq := ReflCmp.compare_self
    exact Ordering.isLE_of_eq_eq same
  | cons c cells ih =>
    have subset : pick a c :: cells ⊆ a :: c :: cells := by
      refine List.cons_subset.2 ⟨?_, fun x hx ↦ List.mem_cons_of_mem a (List.mem_cons_of_mem c hx)⟩
      rcases hm a c with h | h <;> rw [h] <;> simp
    have least := ih fun x hx y hy ↦ hp x (subset hx) y (subset hy)
    have picked := least (pick a c) List.mem_cons_self
    obtain ⟨first, second⟩ := hp a List.mem_cons_self c (List.mem_cons_of_mem a List.mem_cons_self)
    intro b hb
    rw [List.foldl_cons]
    rcases List.mem_cons.1 hb with rfl | hb
    · exact TransCmp.isLE_trans picked first
    · rcases List.mem_cons.1 hb with rfl | hb
      · exact TransCmp.isLE_trans picked second
      · exact least b (List.mem_cons_of_mem _ hb)

section Picked

variable {a b : Cell} {cells cells' : List Cell}

/-- Cells that are no doubles come before each other only if they are equal. -/
theorem eq_of_isLE (ha : a.isFloat = false) (hb : b.isFloat = false)
    (hab : (Cell.exact a b).isLE) (hba : (Cell.exact b a).isLE) : a = b := by
  have unmixed := Cell.unmixed_of_not_isFloat ha hb
  rw [← Cell.compare_eq_eq_iff unmixed, Cell.compare_eq_exact unmixed]
  exact OrientedCmp.isLE_antisymm hab hba

/-- A cell is as small as itself. -/
theorem exact_self_isLE (a : Cell) : (Cell.exact a a).isLE := by
  have same : Cell.exact a a = .eq := ReflCmp.compare_self
  exact Ordering.isLE_of_eq_eq same

theorem exact_isLE_of_gt (h : Cell.exact a b = .gt) : (Cell.exact b a).isLE := by
  have lt : Cell.exact b a = .lt := OrientedCmp.lt_of_gt h
  exact Ordering.isLE_of_eq_lt lt

/-- The least of some cells is as small as each of them. -/
theorem least_isLE (hc : ∀ a ∈ cells, a.isFloat = false) :
    ∀ b ∈ cells, (Cell.exact (least cells) b).isLE := by
  cases cells with
  | nil => exact fun b hb ↦ absurd hb List.not_mem_nil
  | cons a cells =>
    refine foldl_pick_isLE Cell.exact (fun x y ↦ (ite_eq_or_eq _ _ _).symm) fun x hx y hy ↦ ?_
    rw [Cell.compare_eq_exact (Cell.unmixed_of_not_isFloat (hc x hx) (hc y hy))]
    split
    · next h => exact ⟨exact_isLE_of_gt h, exact_self_isLE y⟩
    · next h => exact ⟨exact_self_isLE x, Ordering.isLE_iff_ne_gt.2 h⟩

/-- The greatest of some cells is as large as each of them. -/
theorem isLE_greatest (hc : ∀ a ∈ cells, a.isFloat = false) :
    ∀ b ∈ cells, (Cell.exact b (greatest cells)).isLE := by
  cases cells with
  | nil => exact fun b hb ↦ absurd hb List.not_mem_nil
  | cons a cells =>
    have : TransCmp fun a b ↦ Cell.exact b a := transCmp_on (fun a b ↦ Cell.exact b a) id
    refine foldl_pick_isLE (fun a b ↦ Cell.exact b a) (fun x y ↦ ite_eq_or_eq _ _ _)
      fun x hx y hy ↦ ?_
    rw [Cell.compare_eq_exact (Cell.unmixed_of_not_isFloat (hc x hx) (hc y hy))]
    split
    · next h => exact ⟨exact_self_isLE x, exact_isLE_of_gt h⟩
    · next h => exact ⟨Ordering.isLE_iff_ne_gt.2 h, exact_self_isLE y⟩

/-- The least of some cells does not depend on their order, if there is no float. -/
theorem least_eq_of_perm (h : cells.Perm cells') (hc : ∀ a ∈ cells, a.isFloat = false) :
    least cells = least cells' := by
  by_cases empty : cells = []
  · subst empty
    rw [h.nil_eq]
  · have hc' : ∀ a ∈ cells', a.isFloat = false := fun a ha ↦ hc a (h.mem_iff.2 ha)
    have mem : least cells ∈ cells' := h.mem_iff.1 (least_mem empty)
    have mem' : least cells' ∈ cells :=
      h.mem_iff.2 (least_mem fun empty' ↦ empty ((eq_nil_iff_of_perm h).2 empty'))
    exact eq_of_isLE (hc' _ mem) (hc _ mem') (least_isLE hc _ mem') (least_isLE hc' _ mem)

/-- The greatest of some cells does not depend on their order, if there is no float. -/
theorem greatest_eq_of_perm (h : cells.Perm cells') (hc : ∀ a ∈ cells, a.isFloat = false) :
    greatest cells = greatest cells' := by
  by_cases empty : cells = []
  · subst empty
    rw [h.nil_eq]
  · have hc' : ∀ a ∈ cells', a.isFloat = false := fun a ha ↦ hc a (h.mem_iff.2 ha)
    have mem : greatest cells ∈ cells' := h.mem_iff.1 (greatest_mem empty)
    have mem' : greatest cells' ∈ cells :=
      h.mem_iff.2 (greatest_mem fun empty' ↦ empty ((eq_nil_iff_of_perm h).2 empty'))
    exact eq_of_isLE (hc' _ mem) (hc _ mem') (isLE_greatest hc' _ mem) (isLE_greatest hc _ mem')

end Picked

/-! ## Groups -/

/-- Whether the cell of a group under a name comes out the same in whichever order its records are
read: an average of numbers that are rounded while they are added does not. -/
def Settled (g : List Record) (name : String) : Prop :=
  ∀ column, name = title ⟨.avg, some column⟩ → Binary64.Unrounded (numbersOf (values column g))

variable {g g' : List Record}

/-- The columns of a table are settled in every group. -/
theorem settled_of_mem_columns {t : Table} {name : String} (h : name ∈ t.columns) :
    Settled g name :=
  fun _ hn ↦ absurd (hn ▸ h) (title_not_mem_columns t _)

/-- A call is settled in a group unless it averages numbers whose sum is rounded. -/
theorem settled_title_iff {t : Table} {summary : Summary} {column : String}
    (h : column ∈ t.columns) :
    Settled g (title ⟨summary, some column⟩) ↔
      (summary = .avg → Binary64.Unrounded (numbersOf (values column g))) := by
  constructor
  · rintro settled rfl
    exact settled column rfl
  · intro unrounded column' hn
    have known : Known t ⟨summary, some column⟩ := by
      rintro _ ⟨⟩
      exact h
    obtain ⟨hs, hc⟩ := parts_of_title_eq known hn
    obtain rfl : column = column' := hc
    exact unrounded hs

/-- Groups with the same records have the same values. -/
theorem values_perm (h : g.Perm g') (column : String) :
    (values column g).Perm (values column g') :=
  (h.filterMap _).filter _

/-- Where an aggregate can be computed over a group, it can be computed over the same records in
another order, and it is the same unless it is an average of rounded numbers. -/
theorem eval_of_perm {a : Aggregate} {v : Cell} (h : g.Perm g') (hv : a.eval g = .ok v) :
    ∃ v', a.eval g' = .ok v' ∧ (Settled g a.title → v' = v) := by
  obtain ⟨summary, column⟩ := a
  cases column with
  | none =>
    cases hv
    exact ⟨_, rfl, fun _ ↦ by rw [h.length_eq]⟩
  | some column =>
    have cells := values_perm h column
    have numbers : (numbersOf (values column g)).Perm (numbersOf (values column g')) :=
      cells.filterMap _
    have proper : Proper (values column g) := fun a ↦ mem_values
    have proper' : Proper (values column g') := fun a ↦ mem_values
    have noFloat : ∀ a ∈ values column g, a.isFloat = false := fun a ha ↦ (mem_values ha).1
    cases summary with
    | count =>
      cases hv
      exact ⟨_, rfl, fun _ ↦ by rw [cells.length_eq]⟩
    | sum =>
      obtain ⟨ht, small, hv⟩ := (sum_eq_ok_iff proper).1 hv
      refine ⟨v, (sum_eq_ok_iff proper').2 ⟨fun s hs ↦ ht s (cells.mem_iff.2 hs), ?_, ?_⟩,
        fun _ ↦ rfl⟩
      · rwa [← numbers.length_eq, ← numbers.sum_nat]
      · rw [hv, numbers.sum_nat]
        simp only [eq_nil_iff_of_perm numbers]
    | avg =>
      obtain ⟨ht, hv⟩ := (average_eq_ok_iff proper).1 hv
      refine ⟨_, (average_eq_ok_iff proper').2 ⟨fun s hs ↦ ht s (cells.mem_iff.2 hs), rfl⟩,
        fun settled ↦ ?_⟩
      have unrounded : Binary64.Unrounded (numbersOf (values column g)) := settled column rfl
      rw [hv, unrounded.foldl_add, (unrounded.of_perm numbers).foldl_add, numbers.length_eq,
        numbers.sum_nat]
      simp only [eq_nil_iff_of_perm numbers]
    | min =>
      cases hv
      exact ⟨_, rfl, fun _ ↦ (least_eq_of_perm cells noFloat).symm⟩
    | max =>
      cases hv
      exact ⟨_, rfl, fun _ ↦ (greatest_eq_of_perm cells noFloat).symm⟩

end Aggregate

end LedgerQuery.Query
