import LedgerQuery.Proofs.Combine
import LedgerQuery.Proofs.Walk

/-!
# Regrouping conditions

A combination of records is known by its identities in their order and by the record that each of
them stands for (`ext_of_lastWith`).  The laws of intersections and unions are read off both: they
are those of sets, although an intersection takes places from one list and records from the other,
and a union prefers the first list.  Only an intersection with a union stands in another order than
the union of the intersections (`intersect_union_perm`).  So a chain of one connective can be
regrouped without a change to its answer or to its lookups (`evaluate_regroup`).
-/

namespace LedgerQuery.Query

open Chain
open Node (Client)

/-! ## Combinations by their identities -/

section Laws

variable {x y z : List Record} {k : String}

/-- Lists in which no identity stands twice are equal if they have the same identities in the same
order and the same records for them. -/
theorem ext_of_lastWith (hx : (x.map Record.identity).Nodup) (hy : (y.map Record.identity).Nodup)
    (hk : x.map Record.identity = y.map Record.identity) (hl : ∀ k, lastWith x k = lastWith y k) :
    x = y := by
  apply List.map_injective_iff.2 fun _ _ ↦ Option.some.inj
  calc x.map some
      = (x.map Record.identity).map (lastWith x) := map_some_eq_lastWith hx
    _ = (y.map Record.identity).map (lastWith y) := by rw [hk, funext hl]
    _ = y.map some := (map_some_eq_lastWith hy).symm

/-- Lists in which no identity stands twice hold the same records if identities stand for the same
records in them. -/
theorem perm_of_lastWith (hx : (x.map Record.identity).Nodup) (hy : (y.map Record.identity).Nodup)
    (hl : ∀ k, lastWith x k = lastWith y k) : x.Perm y := by
  refine (List.perm_ext_iff_of_nodup hx.of_map hy.of_map).2 fun r ↦ ?_
  have mem : ∀ {rs : List Record}, (rs.map Record.identity).Nodup →
      (r ∈ rs ↔ lastWith rs r.identity = some r) := by
    intro rs h
    rw [lastWith_of_nodup h, eq_self_iff_true, and_true]
  rw [mem hx, mem hy, hl]

theorem contains_identities_intersect :
    ((intersect x y).map Record.identity).contains k =
      ((x.map Record.identity).contains k && (y.map Record.identity).contains k) := by
  rw [Bool.eq_iff_iff, Bool.and_eq_true, List.contains_iff_mem, List.contains_iff_mem,
    List.contains_iff_mem, mem_identities_intersect]

theorem contains_identities_union :
    ((union x y).map Record.identity).contains k =
      ((x.map Record.identity).contains k || (y.map Record.identity).contains k) := by
  rw [Bool.eq_iff_iff, Bool.or_eq_true, List.contains_iff_mem, List.contains_iff_mem,
    List.contains_iff_mem, mem_identities_union]

/-- The identities of a combination stand once. -/
theorem eraseDups_identities_intersect (x y : List Record) :
    ((intersect x y).map Record.identity).eraseDups =
      (x.map Record.identity).eraseDups.filter fun k ↦ (y.map Record.identity).contains k := by
  rw [Keyed.eraseDups_of_nodup (nodup_intersect x y), identities_intersect]

theorem eraseDups_identities_union (x y : List Record) :
    ((union x y).map Record.identity).eraseDups =
      (x.map Record.identity).eraseDups ++
        (y.map Record.identity).eraseDups.filter fun k ↦ !(x.map Record.identity).contains k := by
  rw [Keyed.eraseDups_of_nodup (nodup_union x y), identities_union]

/-! ## Laws -/

theorem intersect_assoc (x y z : List Record) :
    intersect (intersect x y) z = intersect x (intersect y z) := by
  refine ext_of_lastWith (nodup_intersect _ _) (nodup_intersect _ _) ?_ fun k ↦ ?_
  · rw [identities_intersect (intersect x y), eraseDups_identities_intersect,
      identities_intersect x, List.filter_filter]
    refine List.filter_congr fun k _ ↦ ?_
    rw [contains_identities_intersect, Bool.and_comm]
  · simp only [lastWith_intersect, mem_identities_intersect, ite_and]

theorem union_assoc (x y z : List Record) : union (union x y) z = union x (union y z) := by
  refine ext_of_lastWith (nodup_union _ _) (nodup_union _ _) ?_ fun k ↦ ?_
  · rw [identities_union (union x y), eraseDups_identities_union, identities_union x (union y z),
      eraseDups_identities_union, List.filter_append, List.filter_filter, List.append_assoc]
    refine congrArg _ (congrArg _ (List.filter_congr fun k _ ↦ ?_))
    rw [contains_identities_union, Bool.not_or]
  · simp only [lastWith_union, Option.or_assoc]

theorem combine_assoc (op : Connective) (x y z : List Record) :
    combine op (combine op x y) z = combine op x (combine op y z) := by
  cases op with
  | and => exact intersect_assoc x y z
  | or => exact union_assoc x y z

theorem lastWith_nil (k : String) : lastWith [] k = none := rfl

/-- A list without its repetitions: each identity once, in its first place and with its last
record. -/
theorem union_nil (x : List Record) :
    union x [] = (x.map Record.identity).eraseDups.filterMap (lastWith x) := by
  have listed : (union x []).map some = (x.map Record.identity).eraseDups.map (lastWith x) := by
    rw [map_some_union]
    exact List.append_nil _
  calc union x []
      = ((union x []).map some).filterMap id := by
        rw [List.filterMap_map]
        exact List.filterMap_some.symm
    _ = (x.map Record.identity).eraseDups.filterMap (lastWith x) := by
        rw [listed, List.filterMap_map, Function.id_comp]

theorem union_intersect_self (x y : List Record) : union x (intersect x y) = union x [] := by
  refine ext_of_lastWith (nodup_union _ _) (nodup_union _ _) ?_ fun k ↦ ?_
  · rw [identities_union x, identities_union x [], eraseDups_identities_intersect,
      List.filter_filter]
    refine congrArg _ (List.filter_eq_nil_iff.2 fun k hk h ↦ ?_)
    rw [List.contains_iff_mem.2 (List.mem_eraseDups.1 hk)] at h
    cases h
  · rw [lastWith_union, lastWith_union, lastWith_intersect, lastWith_nil, Option.or_none]
    split
    · next hk =>
      obtain ⟨r, hr⟩ := Option.isSome_iff_exists.1 (lastWith_isSome.2 hk)
      rw [hr, Option.some_or]
    · exact Option.or_none

theorem intersect_union_self (x y : List Record) : intersect x (union x y) = union x [] := by
  refine ext_of_lastWith (nodup_intersect _ _) (nodup_union _ _) ?_ fun k ↦ ?_
  · rw [identities_intersect x, identities_union x []]
    have all : ∀ k ∈ (x.map Record.identity).eraseDups,
        ((union x y).map Record.identity).contains k = true := by
      intro k hk
      rw [contains_identities_union, List.contains_iff_mem.2 (List.mem_eraseDups.1 hk),
        Bool.true_or]
    rw [List.filter_eq_self.2 all]
    exact (List.append_nil _).symm
  · rw [lastWith_intersect, lastWith_union, lastWith_union, lastWith_nil, Option.or_none]
    split
    · next hk =>
      obtain ⟨r, hr⟩ := Option.isSome_iff_exists.1 (lastWith_isSome.2 hk)
      rw [hr, Option.some_or]
    · next hk => exact (lastWith_eq_none.2 hk).symm

theorem union_intersect (x y z : List Record) :
    union x (intersect y z) = intersect (union x y) (union x z) := by
  refine ext_of_lastWith (nodup_union _ _) (nodup_intersect _ _) ?_ fun k ↦ ?_
  · rw [identities_union x, identities_intersect (union x y), eraseDups_identities_intersect,
      eraseDups_identities_union, List.filter_append]
    congr 1
    · refine (List.filter_eq_self.2 fun k hk ↦ ?_).symm
      rw [contains_identities_union, List.contains_iff_mem.2 (List.mem_eraseDups.1 hk),
        Bool.true_or]
    · rw [List.filter_filter, List.filter_filter]
      refine List.filter_congr fun k _ ↦ ?_
      rw [contains_identities_union]
      cases (x.map Record.identity).contains k <;> simp
  · simp only [lastWith_intersect, lastWith_union, mem_identities_union]
    by_cases hx : k ∈ x.map Record.identity
    · obtain ⟨r, hr⟩ := Option.isSome_iff_exists.1 (lastWith_isSome.2 hx)
      simp only [hr, Option.some_or, hx, true_or, if_true]
    · simp only [lastWith_eq_none.2 hx, Option.none_or, hx, false_or]

theorem intersect_union_perm (x y z : List Record) :
    (intersect x (union y z)).Perm (union (intersect x y) (intersect x z)) := by
  refine perm_of_lastWith (nodup_intersect _ _) (nodup_union _ _) fun k ↦ ?_
  simp only [lastWith_intersect, lastWith_union]
  split <;> rfl

/-- The lists of a union can be exchanged, if no identity stands for different records in them. -/
theorem union_perm_comm (h : ∀ r ∈ x, ∀ r' ∈ y, r.identity = r'.identity → r = r') :
    (union x y).Perm (union y x) := by
  refine perm_of_lastWith (nodup_union _ _) (nodup_union _ _) fun k ↦ ?_
  rw [lastWith_union, lastWith_union]
  cases hx : lastWith x k with
  | none => rw [Option.none_or, Option.or_none]
  | some r =>
    cases hy : lastWith y k with
    | none => rw [Option.or_none, Option.none_or]
    | some r' =>
      rw [h r (mem_of_lastWith hx) r' (mem_of_lastWith hy)
        ((identity_of_lastWith hx).trans (identity_of_lastWith hy).symm)]

end Laws

/-! ## Conditions -/

theorem evaluate_assoc {σ : Type} {c : Client σ} {t : Table} (op : Connective) (p q r : Predicate)
    (s : σ) :
    evaluate c t (.logical op [.logical op [p, q], r]) s =
      evaluate c t (.logical op [p, .logical op [q, r]]) s := by
  rw [evaluate_pair, evaluate_pair, evaluate_pair]
  rcases evaluate c t p s with ⟨_ | x, s⟩
  · rfl
  · dsimp only
    rw [evaluate_pair]
    rcases evaluate c t q s with ⟨_ | y, s⟩
    · rfl
    · dsimp only
      rcases evaluate c t r s with ⟨_ | z, s⟩
      · rfl
      · exact congrArg (fun rs ↦ (Except.ok rs, s)) (combine_assoc op x y z)

/-- A chain of one connective gives the same answer, and asks the same lookups, in whichever way it
is grouped.  The connectives absorb each other and distribute over each other as those of sets do.
A list that is absorbed loses its repetitions: each identity keeps its first place and its last
record. -/
theorem evaluate_regroup {σ : Type} (c : Client σ) (t : Table) :
    (∀ (op : Connective) (p q r : Predicate) (s : σ),
      evaluate c t (.logical op [.logical op [p, q], r]) s =
        evaluate c t (.logical op [p, .logical op [q, r]]) s ∧
      evaluate c.recorded t (.logical op [.logical op [p, q], r]) (s, []) =
        evaluate c.recorded t (.logical op [p, .logical op [q, r]]) (s, [])) ∧
    ∀ x y z : List Record,
      combine .or x [] =
        (x.map Record.identity).eraseDups.filterMap (fun k ↦ x.findRev? (·.identity == k)) ∧
      combine .or x (combine .and x y) = combine .or x [] ∧
      combine .and x (combine .or x y) = combine .or x [] ∧
      combine .or x (combine .and y z) = combine .and (combine .or x y) (combine .or x z) ∧
      (combine .and x (combine .or y z)).Perm
        (combine .or (combine .and x y) (combine .and x z)) := by
  refine ⟨fun op p q r s ↦ ⟨evaluate_assoc op p q r s, evaluate_assoc op p q r (s, [])⟩,
    fun x y z ↦ ⟨?_, union_intersect_self x y, intersect_union_self x y, union_intersect x y z,
      intersect_union_perm x y z⟩⟩
  rw [← lastWith_eq]
  exact union_nil x

end LedgerQuery.Query
