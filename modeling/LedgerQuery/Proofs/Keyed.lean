import LedgerQuery.Keyed
import Mathlib.Data.List.Induction
import Mathlib.Data.List.Nodup

/-!
# Maps in the order of first sight

A map that is filled one pair after the other keeps its keys in the order in which they are first
seen.  Under each key stands the value that was given last (`Keyed.insert`), or all values in their
order (`Keyed.push`).  Both are read off the list of pairs: the keys are `List.eraseDups`, a value
is found from the end, and a group is a filter.  Values that are taken out leave the other pairs in
another order (`Keyed.swapErase`), but under the keys that they had (`Keyed.takeOut_eq_filterMap`).
-/

namespace LedgerQuery.Keyed

universe u v

variable {κ : Type u} {α : Type v} [BEq κ] [LawfulBEq κ]

/-! ## Lists without repetitions -/

/-- One more key is listed last, if it is not there yet. -/
theorem eraseDups_concat (ks : List κ) (k : κ) :
    (ks ++ [k]).eraseDups = if k ∈ ks then ks.eraseDups else ks.eraseDups ++ [k] := by
  rw [List.eraseDups_append]
  by_cases h : k ∈ ks
  · simp [List.removeAll, h]
  · simp [List.removeAll, h, List.eraseDups_cons]

theorem nodup_eraseDups (ks : List κ) : ks.eraseDups.Nodup := by
  induction ks using List.reverseRecOn with
  | nil => exact List.nodup_nil
  | append_singleton ks k ih =>
    rw [eraseDups_concat]
    split
    · exact ih
    · next h =>
      rw [← List.concat_eq_append, List.nodup_concat, List.mem_eraseDups]
      exact ⟨h, ih⟩

/-- Keys that stand once stay as they are. -/
theorem eraseDups_of_nodup {ks : List κ} (h : ks.Nodup) : ks.eraseDups = ks := by
  induction ks using List.reverseRecOn with
  | nil => rfl
  | append_singleton ks k ih =>
    rw [← List.concat_eq_append, List.nodup_concat] at h
    rw [eraseDups_concat, if_neg h.1, ih h.2]

/-! ## One value -/

/-- A map has a key if it is among its keys. -/
theorem has_iff {k : κ} {m : List (κ × α)} : has k m = true ↔ k ∈ m.map Prod.fst := by
  rw [has, List.lookup_isSome_iff, List.mem_map]
  constructor
  · rintro ⟨p, hp, hk⟩
    exact ⟨p, hp, (eq_of_beq hk).symm⟩
  · rintro ⟨p, hp, rfl⟩
    exact ⟨p, hp, BEq.rfl⟩

/-- A value that is inserted keeps the place of its key, or its key comes last. -/
theorem keys_insert (k : κ) (a : α) (m : List (κ × α)) :
    (insert k a m).map Prod.fst =
      if k ∈ m.map Prod.fst then m.map Prod.fst else m.map Prod.fst ++ [k] := by
  induction m with
  | nil => rfl
  | cons p m ih =>
    obtain ⟨l, b⟩ := p
    by_cases h : k = l
    · simp [insert, h]
    · simp only [insert, beq_eq_false_iff_ne.2 h, Bool.false_eq_true, if_false, List.map_cons, ih,
        List.mem_cons, h, false_or]
      split <;> rfl

/-- A value that is inserted is found under its key, and all others as before. -/
theorem lookup_insert (j k : κ) (a : α) (m : List (κ × α)) :
    (insert k a m).lookup j = if j == k then some a else m.lookup j := by
  by_cases h : j = k
  · rw [h, lookup_insert_self, if_pos BEq.rfl]
  · rw [lookup_insert_of_ne h, if_neg (by simpa using h)]

omit [LawfulBEq κ] in
/-- What is in a map after a value was inserted is this value or was there before. -/
theorem mem_of_mem_insert {k : κ} {a : α} {m : List (κ × α)} {p : κ × α} (h : p ∈ insert k a m) :
    p = (k, a) ∨ p ∈ m := by
  induction m with
  | nil => exact .inl (List.mem_singleton.1 h)
  | cons q m ih =>
    rw [insert] at h
    split at h
    · exact (List.mem_cons.1 h).imp_right (List.mem_cons_of_mem q)
    · rcases List.mem_cons.1 h with rfl | h
      · exact .inr List.mem_cons_self
      · exact (ih h).imp_right (List.mem_cons_of_mem q)

/-- The map that holds some pairs, a later value in the place of an earlier one. -/
def ofPairs (ps : List (κ × α)) : List (κ × α) := ps.foldl (fun m p ↦ insert p.1 p.2 m) []

omit [LawfulBEq κ] in
/-- One more pair is inserted into the map of the pairs before it. -/
theorem ofPairs_concat (ps : List (κ × α)) (p : κ × α) :
    ofPairs (ps ++ [p]) = insert p.1 p.2 (ofPairs ps) := by
  simp only [ofPairs, List.foldl_append, List.foldl_cons, List.foldl_nil]

omit [LawfulBEq κ] in
/-- A map holds no other pairs than those that it was made from. -/
theorem mem_of_mem_ofPairs {ps : List (κ × α)} {p : κ × α} (h : p ∈ ofPairs ps) : p ∈ ps := by
  induction ps using List.reverseRecOn with
  | nil => exact h
  | append_singleton ps q ih =>
    rw [ofPairs_concat] at h
    rcases mem_of_mem_insert h with rfl | h
    · exact List.mem_append_right ps (List.mem_singleton_self _)
    · exact List.mem_append_left _ (ih h)

/-- The keys of a map stand in the order in which they came first. -/
theorem keys_ofPairs (ps : List (κ × α)) :
    (ofPairs ps).map Prod.fst = (ps.map Prod.fst).eraseDups := by
  induction ps using List.reverseRecOn with
  | nil => rfl
  | append_singleton ps p ih =>
    rw [ofPairs_concat, keys_insert, ih, List.map_append, List.map_singleton, eraseDups_concat]
    simp only [List.mem_eraseDups]

/-- The value of a key is the last one that it was given. -/
theorem lookup_ofPairs (ps : List (κ × α)) (k : κ) :
    (ofPairs ps).lookup k = ps.reverse.lookup k := by
  induction ps using List.reverseRecOn with
  | nil => rfl
  | append_singleton ps p ih =>
    rw [ofPairs_concat, lookup_insert, ih, List.reverse_concat, List.lookup_cons]
    cases h : k == p.1 <;> rfl

/-- Where every key stands once, a value is found under its key and nowhere else. -/
theorem lookup_eq_some_iff_mem {m : List (κ × α)} (h : (m.map Prod.fst).Nodup) {k : κ} {a : α} :
    m.lookup k = some a ↔ (k, a) ∈ m := by
  induction m with
  | nil => simp
  | cons p m ih =>
    obtain ⟨l, b⟩ := p
    rw [List.map_cons, List.nodup_cons] at h
    rw [List.lookup_cons, List.mem_cons]
    by_cases hk : k = l
    · subst hk
      have hm : (k, a) ∉ m := fun hm ↦ h.1 (List.mem_map.2 ⟨(k, a), hm, rfl⟩)
      simp [hm, eq_comm]
    · simp [beq_eq_false_iff_ne.2 hk, hk, ih h.2]

/-- Pairs with different keys are all there. -/
theorem lookup_ofPairs_of_nodup {ps : List (κ × α)} (h : (ps.map Prod.fst).Nodup) {k : κ} {a : α} :
    (ofPairs ps).lookup k = some a ↔ (k, a) ∈ ps := by
  have hr : (ps.reverse.map Prod.fst).Nodup := by rwa [List.map_reverse, List.nodup_reverse]
  rw [lookup_ofPairs, lookup_eq_some_iff_mem hr, List.mem_reverse]

/-! ## The first value of a key -/

/-- The map that holds some pairs, a later value being dropped if its key has one. -/
def firsts (ps : List (κ × α)) : List (κ × α) := ps.foldl (fun m p ↦ insertNew p.1 p.2 m) []

omit [LawfulBEq κ] in
/-- One more pair comes into the map of first values if its key is new. -/
theorem firsts_concat (ps : List (κ × α)) (p : κ × α) :
    firsts (ps ++ [p]) = insertNew p.1 p.2 (firsts ps) := by
  simp only [firsts, List.foldl_append, List.foldl_cons, List.foldl_nil]

/-- A value for a new key comes last, and one for an old key changes nothing. -/
theorem keys_insertNew (k : κ) (a : α) (m : List (κ × α)) :
    (insertNew k a m).map Prod.fst =
      if k ∈ m.map Prod.fst then m.map Prod.fst else m.map Prod.fst ++ [k] := by
  simp only [insertNew, ← has_iff]
  split
  · rfl
  · rw [List.map_append, List.map_singleton]

/-- The keys of a map of first values stand in the order in which they came first. -/
theorem keys_firsts (ps : List (κ × α)) :
    (firsts ps).map Prod.fst = (ps.map Prod.fst).eraseDups := by
  induction ps using List.reverseRecOn with
  | nil => rfl
  | append_singleton ps p ih =>
    rw [firsts_concat, keys_insertNew, ih, List.map_append, List.map_singleton, eraseDups_concat]
    simp only [List.mem_eraseDups]

/-- The value of a key is the first one that it was given. -/
theorem lookup_firsts (ps : List (κ × α)) (k : κ) : (firsts ps).lookup k = ps.lookup k := by
  induction ps using List.reverseRecOn with
  | nil => rfl
  | append_singleton ps p ih =>
    rw [firsts_concat, insertNew, has, List.lookup_append, ← ih]
    split
    · next h =>
      obtain ⟨b, hb⟩ := Option.isSome_iff_exists.1 h
      by_cases hk : k = p.1
      · rw [hk, hb, Option.some_or]
      · rw [List.lookup_cons, beq_eq_false_iff_ne.2 hk]
        exact Option.or_none.symm
    · rw [List.lookup_append]

/-- A pair is in a map of first values if it is the first of its key. -/
theorem mem_firsts_iff {ps : List (κ × α)} {k : κ} {a : α} :
    (k, a) ∈ firsts ps ↔ ps.lookup k = some a := by
  rw [← lookup_eq_some_iff_mem (keys_firsts ps ▸ nodup_eraseDups _), lookup_firsts]

/-- A key is found at its place in the list, counted from the number of the first one. -/
theorem lookup_zipIdx (ks : List κ) (k : κ) (n : Nat) :
    (ks.zipIdx n).lookup k = (ks.idxOf? k).map (· + n) := by
  induction ks generalizing n with
  | nil => rfl
  | cons l ks ih =>
    rw [List.zipIdx_cons, List.lookup_cons, List.idxOf?_cons]
    by_cases h : k = l
    · simp [h]
    · rw [beq_eq_false_iff_ne.2 h, beq_eq_false_iff_ne.2 (Ne.symm h), ih]
      simp [Option.map_map, Function.comp_def, Nat.add_assoc, Nat.add_comm 1 n]

/-! ## All values of a key -/

/-- A value for a new key starts a group of its own, which comes last. -/
theorem push_of_not_mem {k : κ} {m : List (κ × List α)} (h : k ∉ m.map Prod.fst) (a : α) :
    push k a m = m ++ [(k, [a])] := by
  induction m with
  | nil => rfl
  | cons p m ih =>
    rw [List.map_cons, List.mem_cons, not_or] at h
    rw [push, beq_eq_false_iff_ne.2 h.1, if_neg Bool.false_ne_true, ih h.2, List.cons_append]

/-- A value for an old key comes last in the group of this key. -/
theorem push_map {k : κ} {ks : List κ} (hn : ks.Nodup) (hk : k ∈ ks) (f : κ → List α) (a : α) :
    push k a (ks.map fun l ↦ (l, f l)) =
      ks.map fun l ↦ (l, f l ++ if k == l then [a] else []) := by
  induction ks with
  | nil => cases hk
  | cons l ks ih =>
    rw [List.nodup_cons] at hn
    rw [List.map_cons, List.map_cons, push]
    by_cases h : k = l
    · subst h
      -- The other keys are different from this one.
      have hks : ks.map (fun l ↦ (l, f l ++ if k == l then [a] else [])) =
          ks.map fun l ↦ (l, f l) := by
        apply List.map_congr_left
        intro l hl
        have hkl : k ≠ l := fun h ↦ hn.1 (h ▸ hl)
        rw [beq_eq_false_iff_ne.2 hkl, if_neg Bool.false_ne_true, List.append_nil]
      rw [if_pos BEq.rfl, if_pos BEq.rfl, hks]
    · have hks : k ∈ ks := (List.mem_cons.1 hk).resolve_left h
      rw [beq_eq_false_iff_ne.2 h, if_neg Bool.false_ne_true, if_neg Bool.false_ne_true,
        List.append_nil, ih hn.2 hks]

/-- The groups stand in the order in which their keys are first seen, and the group of a key holds
the values with this key in their order. -/
theorem group_eq (key : α → κ) (as : List α) :
    group key as = (as.map key).eraseDups.map fun k ↦ (k, as.filter fun a ↦ key a == k) := by
  induction as using List.reverseRecOn with
  | nil => rfl
  | append_singleton as a ih =>
    have step : group key (as ++ [a]) = push (key a) a (group key as) := by
      simp only [group, List.foldl_append, List.foldl_cons, List.foldl_nil]
    have groups : ∀ k, (as ++ [a]).filter (fun b ↦ key b == k) =
        as.filter (fun b ↦ key b == k) ++ if key a == k then [a] else [] := by
      intro k
      rw [List.filter_append, List.filter_singleton]
      cases key a == k <;> rfl
    rw [step, ih, List.map_append, List.map_singleton, eraseDups_concat]
    simp only [groups]
    split
    · next h =>
      rw [push_map (nodup_eraseDups _) (List.mem_eraseDups.2 h)]
    · next h =>
      have hk : key a ∉ ((as.map key).eraseDups.map fun k ↦
          (k, as.filter fun b ↦ key b == k)).map Prod.fst := by
        rw [List.map_map, Function.comp_def, List.map_id', List.mem_eraseDups]
        exact h
      rw [push_of_not_mem hk, List.map_append, List.map_singleton]
      have old : ∀ k ∈ (as.map key).eraseDups, (key a == k) = false := by
        intro k hk
        exact beq_eq_false_iff_ne.2 fun hak ↦ h (hak ▸ List.mem_eraseDups.1 hk)
      have new : (as.filter fun b ↦ key b == key a) = [] := by
        rw [List.filter_eq_nil_iff]
        exact fun b hb hba ↦ h (List.mem_map.2 ⟨b, hb, eq_of_beq hba⟩)
      rw [new, if_pos BEq.rfl, List.nil_append]
      refine congrArg (· ++ [(key a, [a])]) (List.map_congr_left fun k hk ↦ ?_)
      rw [old k hk, if_neg Bool.false_ne_true, List.append_nil]

/-! ## Taking values out -/

/-- Taking away a key that is not there changes nothing. -/
theorem erase_of_not_mem {k : κ} {m : List (κ × α)} (h : k ∉ m.map Prod.fst) : erase k m = m := by
  rw [erase, List.filter_eq_self]
  intro p hp
  have hpk : p.1 ≠ k := fun hpk ↦ h (List.mem_map.2 ⟨p, hp, hpk⟩)
  simpa using hpk

/-- The place of a pair that is gone is filled from the end, so the others are moved but all
there. -/
theorem swapErase_perm {m : List (κ × α)} (h : (m.map Prod.fst).Nodup) (k : κ) :
    (swapErase k m).Perm (erase k m) := by
  induction m with
  | nil => exact .nil
  | cons p m ih =>
    obtain ⟨l, b⟩ := p
    rw [List.map_cons, List.nodup_cons] at h
    by_cases hk : k = l
    · subst hk
      have others : erase k ((k, b) :: m) = m := by
        rw [erase, List.filter_cons_of_neg (by simp)]
        exact erase_of_not_mem h.1
      have ends : m.dropLast ++ m.getLast?.toList = m := by
        cases hm : m.getLast? with
        | none => rw [List.getLast?_eq_none_iff.1 hm]; rfl
        | some q => exact List.dropLast_append_getLast? q hm
      rw [others, swapErase, if_pos BEq.rfl]
      calc (m.getLast?.toList ++ m.dropLast).Perm (m.dropLast ++ m.getLast?.toList) :=
            List.perm_append_comm
        _ = m := ends
    · have hl : (k == l) = false := beq_eq_false_iff_ne.2 hk
      rw [swapErase, hl, if_neg Bool.false_ne_true, erase,
        List.filter_cons_of_pos (by simpa using Ne.symm hk)]
      exact (ih h.2).cons (l, b)

/-- No key stands twice after one was taken away by a swap with the last. -/
theorem nodup_keys_swapErase {m : List (κ × α)} (h : (m.map Prod.fst).Nodup) (k : κ) :
    ((swapErase k m).map Prod.fst).Nodup := by
  rw [((swapErase_perm h k).map Prod.fst).nodup_iff]
  exact h.sublist (List.filter_sublist.map Prod.fst)

/-- The order of a map is not seen by those who look for its other keys. -/
theorem lookup_swapErase_of_ne {m : List (κ × α)} (h : (m.map Prod.fst).Nodup) {j k : κ}
    (hjk : j ≠ k) : (swapErase k m).lookup j = m.lookup j := by
  ext a
  rw [lookup_eq_some_iff_mem (nodup_keys_swapErase h k), (swapErase_perm h k).mem_iff, erase,
    List.mem_filter, lookup_eq_some_iff_mem h]
  simp [hjk]

/-- What is taken out under different keys is what the map holds under them at first: at each key,
the map still answers for the keys to come as it did before any was taken out. -/
theorem takeOut_eq_filterMap {ks : List κ} {m : List (κ × α)} (hk : ks.Nodup)
    (hm : (m.map Prod.fst).Nodup) : takeOut ks m = ks.filterMap fun k ↦ m.lookup k := by
  induction ks generalizing m with
  | nil => rfl
  | cons k ks ih =>
    rw [List.nodup_cons] at hk
    cases ha : m.lookup k with
    | none =>
      rw [List.filterMap_cons, takeOut, ha]
      exact ih hk.2 hm
    | some a =>
      have later : ∀ j ∈ ks, (swapErase k m).lookup j = m.lookup j := by
        intro j hj
        exact lookup_swapErase_of_ne hm fun hjk ↦ hk.1 (hjk ▸ hj)
      rw [List.filterMap_cons, takeOut, ha]
      calc a :: takeOut ks (swapErase k m)
          = a :: ks.filterMap fun j ↦ (swapErase k m).lookup j :=
            congrArg _ (ih hk.2 (nodup_keys_swapErase hm k))
        _ = a :: ks.filterMap fun j ↦ m.lookup j := congrArg _ (List.filterMap_congr later)

/-- The last pair has come to the front before it is looked for. -/
example : takeOut [1, 3, 2] [(1, 'a'), (2, 'b'), (3, 'c')] = ['a', 'c', 'b'] ∧
    swapErase 1 [(1, 'a'), (2, 'b'), (3, 'c')] = [(3, 'c'), (2, 'b')] := ⟨rfl, rfl⟩

/-! ## Values under keys of their own -/

/-- Where all keys are different, the last value with a key is the only one. -/
theorem find?_reverse_eq_some_iff {key : α → κ} {as : List α}
    (h : (as.map key).Nodup) {k : κ} {a : α} :
    (as.reverse.find? fun b ↦ k == key b) = some a ↔ a ∈ as ∧ key a = k := by
  constructor
  · intro hf
    have hk : (k == key a) = true := List.find?_some (p := fun b ↦ k == key b) hf
    exact ⟨List.mem_reverse.1 (List.mem_of_find?_eq_some hf), (eq_of_beq hk).symm⟩
  · rintro ⟨ha, rfl⟩
    have hs : (as.reverse.find? fun b ↦ key a == key b).isSome :=
      List.find?_isSome.2 ⟨a, List.mem_reverse.2 ha, BEq.rfl⟩
    obtain ⟨b, hb⟩ := Option.isSome_iff_exists.1 hs
    have hk : (key a == key b) = true := List.find?_some (p := fun b ↦ key a == key b) hb
    have hm : b ∈ as := List.mem_reverse.1 (List.mem_of_find?_eq_some hb)
    rw [hb, List.inj_on_of_nodup_map h hm ha (eq_of_beq hk).symm]

omit [LawfulBEq κ] in
/-- An index is a map of the values under their keys. -/
theorem index_eq_ofPairs (key : α → κ) (as : List α) :
    index key as = ofPairs (as.map fun a ↦ (key a, a)) := by
  rw [index, ofPairs, List.foldl_map]

omit [LawfulBEq κ] in
/-- What an index holds is one of the values, under its key. -/
theorem mem_of_mem_index {key : α → κ} {as : List α} {p : κ × α} (h : p ∈ index key as) :
    p.2 ∈ as ∧ p.1 = key p.2 := by
  rw [index_eq_ofPairs] at h
  obtain ⟨a, ha, rfl⟩ := List.mem_map.1 (mem_of_mem_ofPairs h)
  exact ⟨ha, rfl⟩

/-- Under a key stands the last value with this key. -/
theorem lookup_index (key : α → κ) (as : List α) (k : κ) :
    (index key as).lookup k = as.reverse.find? fun a ↦ k == key a := by
  have found (bs : List α) :
      (bs.map fun a ↦ (key a, a)).lookup k = bs.find? fun a ↦ k == key a := by
    induction bs with
    | nil => rfl
    | cons b bs ih =>
      rw [List.map_cons, List.lookup_cons, List.find?_cons, ih]
  rw [index_eq_ofPairs, lookup_ofPairs, ← List.map_reverse, found]

/-- The keys of an index stand in the order in which they came first. -/
theorem keys_index (key : α → κ) (as : List α) :
    (index key as).map Prod.fst = (as.map key).eraseDups := by
  rw [index_eq_ofPairs, keys_ofPairs, List.map_map]
  rfl

/-- An index finds something under the keys of its values and under no other ones. -/
theorem lookup_index_isSome {key : α → κ} {as : List α} {k : κ} :
    ((index key as).lookup k).isSome = true ↔ k ∈ as.map key := by
  rw [← List.mem_eraseDups, ← keys_index]
  exact has_iff

/-- What is found under a key is there and has that key. -/
theorem of_lookup_index {key : α → κ} {as : List α} {k : κ} {a : α}
    (h : (index key as).lookup k = some a) : a ∈ as ∧ key a = k := by
  obtain ⟨_, _, hm, -⟩ := List.lookup_eq_some_iff.1 h
  have hk : (k, a) ∈ index key as := by simp [hm]
  exact ⟨(mem_of_mem_index hk).1, (mem_of_mem_index hk).2.symm⟩

/-- Values with different keys are all there. -/
theorem lookup_index_of_nodup {key : α → κ} {as : List α} (h : (as.map key).Nodup) {k : κ}
    {a : α} : (index key as).lookup k = some a ↔ a ∈ as ∧ key a = k := by
  rw [index_eq_ofPairs, lookup_ofPairs_of_nodup (by rwa [List.map_map])]
  simp only [List.mem_map, Prod.mk.injEq]
  constructor
  · rintro ⟨b, hb, hk, rfl⟩
    exact ⟨hb, hk⟩
  · rintro ⟨ha, hk⟩
    exact ⟨a, ha, hk, rfl⟩

end LedgerQuery.Keyed
