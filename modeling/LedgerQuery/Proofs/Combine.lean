import LedgerQuery.Proofs.Keyed
import LedgerQuery.Query.Filter

/-!
# Combining records by their identities

Which identities a combination has, and in which order: those of an intersection are the identities
of the first list that also stand in the second, those of a union the identities of the first list
and then the new ones of the second.  An identity stands for the last record with it (`lastWith`),
in an intersection for that of the second list (`lastWith_intersect`) and in a union for that of the
first list that has it (`lastWith_union`).  Both together are the list of a combination
(`combine_listed`), although an intersection empties the map of the second list while it goes
through the first.  Where no identity stands twice in a list, the combinations hold the records that
a union and an intersection of sets would hold.
-/

namespace LedgerQuery.Query

open Chain

variable {first second rs : List Record} {r : Record}

theorem keys_byIdentity (rs : List Record) :
    (byIdentity rs).map Prod.fst = (rs.map Record.identity).eraseDups :=
  Keyed.keys_index Record.identity rs

/-- The records that are filed have the identities that there are. -/
theorem mem_keys_byIdentity {k : String} :
    k ∈ (byIdentity rs).map Prod.fst ↔ k ∈ rs.map Record.identity := by
  rw [keys_byIdentity, List.mem_eraseDups]

/-- An intersection goes through the identities of the first list. -/
theorem intersect_eq (first second : List Record) :
    intersect first second =
      (first.map Record.identity).eraseDups.filterMap fun k ↦ (byIdentity second).lookup k := by
  rw [intersect, keys_byIdentity]
  exact Keyed.takeOut_eq_filterMap (Keyed.nodup_eraseDups _)
    (keys_byIdentity second ▸ Keyed.nodup_eraseDups _)

/-! ## Identities -/

/-- The record that is filed under an identity has this identity. -/
theorem map_lookup_byIdentity (rs : List Record) (k : String) :
    ((byIdentity rs).lookup k).map Record.identity =
      Option.guard (fun k ↦ (rs.map Record.identity).contains k) k := by
  cases hl : (byIdentity rs).lookup k with
  | some r =>
    have hk : k ∈ rs.map Record.identity :=
      Keyed.lookup_index_isSome.1 (Option.isSome_iff_exists.2 ⟨r, hl⟩)
    rw [Option.map_some, (Keyed.of_lookup_index hl).2,
      Option.guard_pos (List.contains_iff_mem.2 hk)]
  | none =>
    have hk : k ∉ rs.map Record.identity := fun hk ↦
      Option.isSome_iff_ne_none.1 (Keyed.lookup_index_isSome.2 hk) hl
    rw [Option.map_none, eq_comm, Option.guard_eq_none_iff]
    exact Bool.eq_false_iff.2 fun h ↦ hk (List.contains_iff_mem.1 h)

/-- The identities of both lists are left by AND, in the order of the first list. -/
theorem identities_intersect (first second : List Record) :
    (intersect first second).map Record.identity =
      (first.map Record.identity).eraseDups.filter fun k ↦
        (second.map Record.identity).contains k := by
  rw [intersect_eq, List.map_filterMap, funext (map_lookup_byIdentity second),
    List.filterMap_eq_filter]

/-- AND keeps an identity if and only if both lists have it. -/
theorem mem_identities_intersect {k : String} :
    k ∈ (intersect first second).map Record.identity ↔
      k ∈ first.map Record.identity ∧ k ∈ second.map Record.identity := by
  rw [identities_intersect, List.mem_filter, List.mem_eraseDups, List.contains_iff_mem]

/-- Records that are filed under some identities have these identities. -/
theorem identities_values {m : List (String × Record)} (h : ∀ p ∈ m, p ∈ byIdentity rs) :
    (m.map Prod.snd).map Record.identity = m.map Prod.fst := by
  rw [List.map_map]
  exact List.map_congr_left fun p hp ↦ (Keyed.mem_of_mem_index (h p hp)).2.symm

/-- The identities of either list are left by OR, those of the first list first. -/
theorem identities_union (first second : List Record) :
    (union first second).map Record.identity =
      (first.map Record.identity).eraseDups ++
        (second.map Record.identity).eraseDups.filter fun k ↦
          !(first.map Record.identity).contains k := by
  have hk : ∀ k, Keyed.has k (byIdentity first) = (first.map Record.identity).contains k := by
    intro k
    rw [Bool.eq_iff_iff, Keyed.has_iff, mem_keys_byIdentity, List.contains_iff_mem]
  rw [union, List.map_append, identities_values fun _ ↦ id, keys_byIdentity,
    identities_values fun _ hp ↦ (List.mem_filter.1 hp).1, ← keys_byIdentity second,
      List.filter_map]
  simp only [hk]
  rfl

/-- No identity stands twice in a combination. -/
theorem nodup_identities_combine (op : Connective) (first second : List Record) :
    ((combine op first second).map Record.identity).Nodup := by
  cases op with
  | and =>
    rw [combine, identities_intersect]
    exact (Keyed.nodup_eraseDups _).filter _
  | or =>
    rw [combine, identities_union]
    refine (Keyed.nodup_eraseDups _).append ((Keyed.nodup_eraseDups _).filter _) ?_
    intro k hf hs
    have hn := (List.mem_filter.1 hs).2
    rw [List.contains_iff_mem.2 (List.mem_eraseDups.1 hf)] at hn
    cases hn

/-! ## The record of an identity -/

/-- The last record with an identity. -/
def lastWith (rs : List Record) (k : String) : Option Record := (byIdentity rs).lookup k

/-- Of the records of one identity it is the last that is filed. -/
theorem lastWith_eq_findRev? (rs : List Record) (k : String) :
    lastWith rs k = rs.findRev? (·.identity == k) := by
  rw [lastWith, byIdentity, Keyed.lookup_index, List.findRev?_eq_find?_reverse]
  exact congrArg (rs.reverse.find? ·) (funext fun r ↦ BEq.comm)

theorem lastWith_eq (rs : List Record) : lastWith rs = fun k ↦ rs.findRev? (·.identity == k) :=
  funext (lastWith_eq_findRev? rs)

/-- There is a last record of an identity that a list has. -/
theorem lastWith_isSome {k : String} :
    (lastWith rs k).isSome = true ↔ k ∈ rs.map Record.identity :=
  Keyed.lookup_index_isSome

theorem lastWith_eq_none {k : String} : lastWith rs k = none ↔ k ∉ rs.map Record.identity := by
  rw [← lastWith_isSome, Option.not_isSome_iff_eq_none]

theorem identity_of_lastWith {k : String} (h : lastWith rs k = some r) : r.identity = k :=
  (Keyed.of_lookup_index h).2

theorem mem_of_lastWith {k : String} (h : lastWith rs k = some r) : r ∈ rs :=
  (Keyed.of_lookup_index h).1

/-- In a list without repeated identities, the record of an identity is the one that it has. -/
theorem lastWith_of_nodup (h : (rs.map Record.identity).Nodup) {k : String} :
    lastWith rs k = some r ↔ r ∈ rs ∧ r.identity = k :=
  Keyed.lookup_index_of_nodup h

/-- The values that a map of records keeps, as far as their identities are wanted. -/
theorem mem_values_iff (p : String → Bool) :
    r ∈ ((byIdentity rs).filter fun q ↦ p q.1).map Prod.snd ↔
      lastWith rs r.identity = some r ∧ p r.identity = true := by
  have hn : ((byIdentity rs).map Prod.fst).Nodup := keys_byIdentity rs ▸ Keyed.nodup_eraseDups _
  rw [lastWith, Keyed.lookup_eq_some_iff_mem hn, List.mem_map]
  constructor
  · rintro ⟨⟨j, s⟩, hm, rfl⟩
    obtain ⟨hm, hp⟩ := List.mem_filter.1 hm
    obtain rfl : j = s.identity := (Keyed.mem_of_mem_index hm).2
    exact ⟨hm, hp⟩
  · rintro ⟨hm, hp⟩
    exact ⟨(r.identity, r), List.mem_filter.2 ⟨hm, hp⟩, rfl⟩

/-- AND repeats no identity. -/
theorem nodup_intersect (first second : List Record) :
    ((intersect first second).map Record.identity).Nodup :=
  nodup_identities_combine .and first second

/-- OR repeats no identity. -/
theorem nodup_union (first second : List Record) :
    ((union first second).map Record.identity).Nodup :=
  nodup_identities_combine .or first second

/-- An intersection takes its records from the second list. -/
theorem lastWith_intersect (first second : List Record) (k : String) :
    lastWith (intersect first second) k =
      if k ∈ first.map Record.identity then lastWith second k else none := by
  ext r
  rw [lastWith_of_nodup (nodup_intersect first second), intersect_eq, List.mem_filterMap]
  constructor
  · rintro ⟨⟨j, hj, hr⟩, rfl⟩
    obtain rfl : r.identity = j := identity_of_lastWith hr
    rwa [if_pos (List.mem_eraseDups.1 hj)]
  · intro hr
    split at hr
    · next hk => exact ⟨⟨k, List.mem_eraseDups.2 hk, hr⟩, identity_of_lastWith hr⟩
    · cases hr

/-- A union takes records from the second list only for identities that the first does not have. -/
theorem lastWith_union (first second : List Record) (k : String) :
    lastWith (union first second) k = (lastWith first k).or (lastWith second k) := by
  have mem_first : ∀ {r : Record}, r ∈ (byIdentity first).map Prod.snd ↔
      lastWith first r.identity = some r := by
    intro r
    rw [← List.filter_true (byIdentity first), mem_values_iff fun _ ↦ true, eq_self_iff_true,
      and_true]
  have new : ∀ k, (!Keyed.has k (byIdentity first)) = true ↔ lastWith first k = none := by
    intro k
    rw [Bool.not_eq_true', Keyed.has, Option.isSome_eq_false_iff, Option.isNone_iff_eq_none,
      lastWith]
  ext r
  rw [lastWith_of_nodup (nodup_union first second), union, List.mem_append, mem_first,
    mem_values_iff fun k ↦ !Keyed.has k (byIdentity first), new, Option.or_eq_some_iff]
  constructor
  · rintro ⟨hr | ⟨hr, hn⟩, rfl⟩
    · exact .inl hr
    · exact .inr ⟨hn, hr⟩
  · rintro (hr | ⟨hn, hr⟩)
    · obtain rfl := identity_of_lastWith hr
      exact ⟨.inl hr, rfl⟩
    · obtain rfl := identity_of_lastWith hr
      exact ⟨.inr ⟨hr, hn⟩, rfl⟩

/-- OR keeps an identity if and only if one of the lists has it. -/
theorem mem_identities_union {k : String} :
    k ∈ (union first second).map Record.identity ↔
      k ∈ first.map Record.identity ∨ k ∈ second.map Record.identity := by
  rw [← lastWith_isSome, ← lastWith_isSome, ← lastWith_isSome, lastWith_union, Option.isSome_or,
    Bool.or_eq_true]

/-- Combining makes no records up. -/
theorem mem_of_mem_combine {op : Connective} (h : r ∈ combine op first second) :
    r ∈ first ∨ r ∈ second := by
  have found : lastWith (combine op first second) r.identity = some r :=
    (lastWith_of_nodup (nodup_identities_combine op first second)).2 ⟨h, rfl⟩
  cases op with
  | and =>
    rw [combine, lastWith_intersect, Option.ite_none_right_eq_some] at found
    exact .inr (mem_of_lastWith found.2)
  | or =>
    rw [combine, lastWith_union, Option.or_eq_some_iff] at found
    rcases found with hf | ⟨-, hs⟩
    · exact .inl (mem_of_lastWith hf)
    · exact .inr (mem_of_lastWith hs)

/-! ## Records -/

/-- AND keeps the records of the second list that the first list has too. -/
theorem mem_intersect (hs : (second.map Record.identity).Nodup) :
    r ∈ intersect first second ↔ r ∈ second ∧ r.identity ∈ first.map Record.identity := by
  have found : r ∈ intersect first second ↔
      lastWith (intersect first second) r.identity = some r := by
    rw [lastWith_of_nodup (nodup_intersect first second), eq_self_iff_true, and_true]
  rw [found, lastWith_intersect, Option.ite_none_right_eq_some, lastWith_of_nodup hs,
    eq_self_iff_true, and_true, and_comm]

/-- OR keeps the records of the first list, and those of the second list that the first one
lacks. -/
theorem mem_union (hf : (first.map Record.identity).Nodup)
    (hs : (second.map Record.identity).Nodup) :
    r ∈ union first second ↔
      r ∈ first ∨ r ∈ second ∧ r.identity ∉ first.map Record.identity := by
  have found : r ∈ union first second ↔ lastWith (union first second) r.identity = some r := by
    rw [lastWith_of_nodup (nodup_union first second), eq_self_iff_true, and_true]
  rw [found, lastWith_union, Option.or_eq_some_iff, lastWith_eq_none, lastWith_of_nodup hf,
    lastWith_of_nodup hs, eq_self_iff_true, and_true, and_true, and_comm (a := r ∈ second)]

/-! ## The list of a combination -/

/-- A list in which no identity stands twice, read off its identities. -/
theorem map_some_eq_lastWith (h : (rs.map Record.identity).Nodup) :
    rs.map some = (rs.map Record.identity).map (lastWith rs) := by
  rw [List.map_map]
  exact List.map_congr_left fun r hr ↦ ((lastWith_of_nodup h).2 ⟨hr, rfl⟩).symm

/-- AND lists the last records of the second list, in the order of the first list. -/
theorem map_some_intersect (first second : List Record) :
    (intersect first second).map some =
      ((first.map Record.identity).eraseDups.filter fun k ↦
        (second.map Record.identity).contains k).map (lastWith second) := by
  rw [map_some_eq_lastWith (nodup_intersect first second), identities_intersect]
  refine List.map_congr_left fun k hk ↦ ?_
  have hf : k ∈ first.map Record.identity := List.mem_eraseDups.1 (List.mem_filter.1 hk).1
  rw [lastWith_intersect, if_pos hf]

/-- OR lists the last records of the first list, then those of the second list that remain. -/
theorem map_some_union (first second : List Record) :
    (union first second).map some =
      (first.map Record.identity).eraseDups.map (lastWith first) ++
        ((second.map Record.identity).eraseDups.filter fun k ↦
          !(first.map Record.identity).contains k).map (lastWith second) := by
  rw [map_some_eq_lastWith (nodup_union first second), identities_union, List.map_append]
  congr 1
  · refine List.map_congr_left fun k hk ↦ ?_
    obtain ⟨r, hr⟩ := Option.isSome_iff_exists.1 (lastWith_isSome.2 (List.mem_eraseDups.1 hk))
    rw [lastWith_union, hr, Option.some_or]
  · refine List.map_congr_left fun k hk ↦ ?_
    have new : k ∉ first.map Record.identity := by
      simpa only [Bool.not_eq_true', List.contains_eq_mem, decide_eq_false_iff_not] using
        (List.mem_filter.1 hk).2
    rw [lastWith_union, lastWith_eq_none.2 new, Option.none_or]

/-- An intersection lists each identity of the first list that the second has too, once and in the
order of first sight, as the last record of the second list with it.  A union lists each identity of
the first list in this order, as the last record of the first list with it, and then each one that
only the second list has, as the last record of the second.  No identity stands twice, and none is
lost. -/
theorem combine_listed (first second : List Record) :
    (combine .and first second).map some =
      ((first.map Record.identity).eraseDups.filter fun k ↦
        (second.map Record.identity).contains k).map
          (fun k ↦ second.findRev? (·.identity == k)) ∧
    (combine .or first second).map some =
      (first.map Record.identity).eraseDups.map (fun k ↦ first.findRev? (·.identity == k)) ++
        ((second.map Record.identity).eraseDups.filter fun k ↦
          !(first.map Record.identity).contains k).map
            (fun k ↦ second.findRev? (·.identity == k)) ∧
    (∀ op, ((combine op first second).map Record.identity).Nodup) ∧
    ∀ k,
      (k ∈ (combine .and first second).map Record.identity ↔
        k ∈ first.map Record.identity ∧ k ∈ second.map Record.identity) ∧
      (k ∈ (combine .or first second).map Record.identity ↔
        k ∈ first.map Record.identity ∨ k ∈ second.map Record.identity) := by
  rw [← lastWith_eq, ← lastWith_eq]
  exact ⟨map_some_intersect first second, map_some_union first second,
    fun op ↦ nodup_identities_combine op first second,
    fun k ↦ ⟨mem_identities_intersect, mem_identities_union⟩⟩

end LedgerQuery.Query
