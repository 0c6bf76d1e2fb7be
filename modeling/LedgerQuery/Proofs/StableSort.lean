import Mathlib.Data.List.Basic

/-!
# Stable sorting

What it means that a list is another one put in order by a comparison, elements that compare equal
staying in their order (`StablySorted`).  There is only one such list (`StablySorted.unique`), and
merge sort gives it (`stablySorted_mergeSort`).
-/

namespace LedgerQuery

open Std

/-- `bs` is `as` in the order of a comparison; elements that compare equal stand in `bs` as they
stand in `as`. -/
structure StablySorted {α : Type} (cmp : α → α → Ordering) (as bs : List α) : Prop where
  perm : bs.Perm as
  sorted : bs.Pairwise fun a b ↦ (cmp a b).isLE
  stable : ∀ a ∈ as, bs.filter (fun b ↦ cmp a b == .eq) = as.filter fun b ↦ cmp a b == .eq

namespace StablySorted

variable {α β : Type} {cmp : α → α → Ordering} {as bs cs : List α}

theorem mem_iff (h : StablySorted cmp as bs) {a : α} : a ∈ bs ↔ a ∈ as := h.perm.mem_iff

theorem map {f : α → β} {cmp : β → β → Ordering}
    (h : StablySorted (fun a b ↦ cmp (f a) (f b)) as bs) :
    StablySorted cmp (as.map f) (bs.map f) where
  perm := h.perm.map f
  sorted := List.pairwise_map.2 h.sorted
  stable b hb := by
    obtain ⟨a, ha, rfl⟩ := List.mem_map.1 hb
    rw [List.filter_map, List.filter_map]
    exact congrArg (List.map f) (h.stable a ha)

/-! ## Uniqueness -/

variable [OrientedCmp cmp]

/-- The first element is the only thing that two stably sorted lists could differ in. -/
theorem head_eq {b c : α} (hb : (b :: bs).Pairwise fun a b ↦ (cmp a b).isLE)
    (hc : (c :: cs).Pairwise fun a b ↦ (cmp a b).isLE) (hp : (b :: bs).Perm (c :: cs))
    (hs : ∀ a ∈ b :: bs, (b :: bs).filter (fun x ↦ cmp a x == .eq) =
      (c :: cs).filter fun x ↦ cmp a x == .eq) : b = c := by
  have le_of_mem : ∀ {x : α} {xs : List α}, (x :: xs).Pairwise (fun a b ↦ (cmp a b).isLE) →
      ∀ y ∈ x :: xs, (cmp x y).isLE := by
    intro x xs h y hy
    rcases List.mem_cons.1 hy with rfl | hy
    · have hy : cmp y y = .eq := ReflCmp.compare_self
      rw [hy]; rfl
    · exact List.rel_of_pairwise_cons h hy
  have hbc : cmp b c = .eq :=
    OrientedCmp.isLE_antisymm (le_of_mem hb c (hp.mem_iff.2 List.mem_cons_self))
      (le_of_mem hc b (hp.mem_iff.1 List.mem_cons_self))
  have h := hs b List.mem_cons_self
  have hbb : cmp b b = .eq := ReflCmp.compare_self
  rw [List.filter_cons_of_pos (by rw [hbb]; rfl), List.filter_cons_of_pos (by rw [hbc]; rfl)] at h
  exact (List.cons.inj h).1

/-- A list can be put in order in one way only. -/
theorem unique (hb : StablySorted cmp as bs) (hc : StablySorted cmp as cs) : bs = cs := by
  have main : ∀ {bs cs : List α}, bs.Pairwise (fun a b ↦ (cmp a b).isLE) →
      cs.Pairwise (fun a b ↦ (cmp a b).isLE) → bs.Perm cs →
      (∀ a ∈ bs, bs.filter (fun x ↦ cmp a x == .eq) = cs.filter fun x ↦ cmp a x == .eq) →
      bs = cs := by
    intro bs
    induction bs with
    | nil => intro cs _ _ hp _; exact hp.nil_eq
    | cons b bs ih =>
      intro cs hb hc hp hs
      cases cs with
      | nil => exact absurd hp.eq_nil (List.cons_ne_nil b bs)
      | cons c cs =>
        obtain rfl := head_eq hb hc hp hs
        refine congrArg (b :: ·) (ih hb.of_cons hc.of_cons hp.cons_inv fun a ha ↦ ?_)
        have h := hs a (List.mem_cons_of_mem b ha)
        rw [List.filter_cons, List.filter_cons] at h
        split at h
        · exact (List.cons.inj h).2
        · exact h
  apply main hb.sorted hc.sorted (hb.perm.trans hc.perm.symm)
  intro a ha
  rw [hb.stable a (hb.mem_iff.1 ha), hc.stable a (hb.mem_iff.1 ha)]

end StablySorted

/-! ## Merge sort -/

section MergeSort

variable {α : Type} {cmp : α → α → Ordering}

theorem stablySorted_mergeSort [TransCmp cmp] (as : List α) :
    StablySorted cmp as (as.mergeSort fun a b ↦ (cmp a b).isLE) := by
  have trans : ∀ a b c, (cmp a b).isLE → (cmp b c).isLE → (cmp a c).isLE :=
    fun _ _ _ ↦ TransCmp.isLE_trans
  have total : ∀ a b, (cmp a b).isLE || (cmp b a).isLE := by
    intro a b
    have hs : cmp b a = (cmp a b).swap := OrientedCmp.eq_swap
    rw [hs]
    cases cmp a b <;> rfl
  refine ⟨List.mergeSort_perm _ _, List.pairwise_mergeSort trans total as, fun a _ ↦ ?_⟩
  -- The elements equal to `a` are a sorted part of `as`, so they stand alike in the sorted list.
  have hp : (as.filter fun b ↦ cmp a b == .eq).Pairwise fun b c ↦ (cmp b c).isLE := by
    apply List.pairwise_of_forall_mem_list
    intro b hb c hc
    have hb := eq_of_beq (List.mem_filter.1 hb).2
    have hc := eq_of_beq (List.mem_filter.1 hc).2
    exact Ordering.isLE_of_eq_eq (TransCmp.eq_trans (OrientedCmp.eq_symm hb) hc)
  have hs := (List.sublist_mergeSort trans total hp List.filter_sublist).filter
    fun b ↦ cmp a b == .eq
  simp only [List.filter_filter, Bool.and_self] at hs
  exact (hs.eq_of_length ((List.mergeSort_perm as _).filter _).length_eq.symm).symm

/-- The comparison has to be an order only among the elements of the list. -/
theorem stablySorted_mergeSort_of_mem (as : List α)
    (h : TransCmp fun a b : {a // a ∈ as} ↦ cmp a.1 b.1) :
    StablySorted cmp as (as.mergeSort fun a b ↦ (cmp a b).isLE) := by
  have hs : StablySorted (fun a b : {a // a ∈ as} ↦ cmp a.1 b.1) as.attach _ :=
    stablySorted_mergeSort as.attach
  replace hs := hs.map
  rwa [List.attach_map_subtype_val,
    List.map_mergeSort (s := fun a b ↦ (cmp a b).isLE) fun _ _ _ _ ↦ rfl,
    List.attach_map_subtype_val] at hs

end MergeSort

end LedgerQuery
