import LedgerQuery.Json.Settled
import LedgerQuery.Proofs.Members

/-!
# Records read from their members

A record is spelled by members (`Shape.Spelled`) if there is one for each field, in the order of the
fields, each right for its field, and the fields together give the record.  Whatever the order of
its members, an object that spells a record is read as this record (`Shape.Spelled.read`), so also
after the members were sorted by their keys (`perm_sortMembers`).
-/

namespace LedgerQuery.Json

/-! ## Members in the order of their keys -/

theorem perm_insertSorted {k : String} {j : Json} {ms : List (String × Json)}
    (h : k ∉ ms.map Prod.fst) : (insertSorted k j ms).Perm ((k, j) :: ms) := by
  induction ms with
  | nil => exact .refl _
  | cons m ms ih =>
    obtain ⟨l, i⟩ := m
    rw [List.map_cons, List.mem_cons, not_or] at h
    have other : (k == l) = false := beq_eq_false_iff_ne.2 h.1
    rw [insertSorted]
    split
    · exact .refl _
    · rw [other, if_neg Bool.false_ne_true]
      exact ((ih h.2).cons (l, i)).trans (.swap _ _ _)

/-- No member is lost where no key stands twice. -/
theorem perm_sortMembers {ms : List (String × Json)} (h : (ms.map Prod.fst).Nodup) :
    (sortMembers ms).Perm ms := by
  induction ms using List.reverseRecOn with
  | nil => exact .refl _
  | append_singleton ms m ih =>
    rw [List.map_append, List.map_singleton, ← List.concat_eq_append, List.nodup_concat] at h
    have sorted := ih h.2
    have fresh : m.1 ∉ (sortMembers ms).map Prod.fst := fun hm ↦ h.1 ((sorted.map _).mem_iff.1 hm)
    rw [sortMembers, List.foldl_append]
    exact (perm_insertSorted fresh).trans
      ((sorted.cons m).trans (List.perm_append_singleton m ms).symm)

/-! ## Shapes -/

namespace Shape

variable {α β : Type} {name : String} {j : Json} {r : Json → Except Fault α} {a : α}

/-- The members that a record is written with, one for each field. -/
structure Spelled (s : Shape α) (ms : List (String × Json)) (a : α) : Prop where
  names : s.fields.map Field.name = ms.map Prod.fst
  accepted : ∀ f ∈ s.fields, ∃ m ∈ ms, f.name = m.1 ∧ f.check m.2 = .ok ()
  build : ∀ get : String → Option Json, (∀ m ∈ ms, get m.1 = some m.2) → s.build get = .ok a

namespace Spelled

theorem pure (a : α) : Spelled (Pure.pure a) [] a where
  names := rfl
  accepted _ hf := absurd hf List.not_mem_nil
  build _ _ := rfl

theorem seq {s : Shape (α → β)} {t : Shape α} {ms ns : List (String × Json)} {f : α → β}
    (hs : Spelled s ms f) (ht : Spelled t ns a) : Spelled (s <*> t) (ms ++ ns) (f a) where
  names := by
    rw [List.map_append, ← hs.names, ← ht.names]
    exact List.map_append
  accepted := by
    refine List.forall_mem_append.2 ⟨fun f hf ↦ ?_, fun f hf ↦ ?_⟩
    · obtain ⟨m, hm, passed⟩ := hs.accepted f hf
      exact ⟨m, List.mem_append_left ns hm, passed⟩
    · obtain ⟨m, hm, passed⟩ := ht.accepted f hf
      exact ⟨m, List.mem_append_right ms hm, passed⟩
  build get h := by
    obtain ⟨first, second⟩ := List.forall_mem_append.1 h
    simp only [Seq.seq, hs.build get first, ht.build get second, Except.map]

/-- A field by itself. -/
theorem field {s : Shape α} {required : Bool} (h : r j = .ok a)
    (hs : s.fields = [⟨name, required, fun j ↦ (r j).map fun _ ↦ ()⟩])
    (build : ∀ get : String → Option Json, get name = some j → s.build get = r j) :
    Spelled s [(name, j)] a where
  names := by rw [hs]; rfl
  accepted := by
    rw [hs, List.forall_mem_singleton]
    exact ⟨_, List.mem_singleton_self _, rfl, by simp only [h, Except.map]⟩
  build get hget := (build get (hget _ (List.mem_singleton_self _))).trans h

theorem required (h : r j = .ok a) : Spelled (.required name r) [(name, j)] a :=
  field h rfl fun get hget ↦ by simp only [Shape.required, hget]

theorem optional {default : α} (h : r j = .ok a) :
    Spelled (.optional name default r) [(name, j)] a :=
  field h rfl fun get hget ↦ by simp only [Shape.optional, hget]

variable {s : Shape α} {ms : List (String × Json)}

/-- A record is read from its members in any order. -/
theorem read (h : Spelled s ms a) (hk : (s.fields.map Field.name).Nodup)
    {ns : List (String × Json)} (hp : ns.Perm ms) (label : String) (origin : Origin) :
    s.read label origin (.object ns) = .ok a := by
  have hn : (ns.map Prod.fst).Nodup := (hp.map _).nodup_iff.2 (h.names ▸ hk)
  have get : ∀ m ∈ ms, ns.lookup m.1 = some m.2 := fun m hm ↦
    (Keyed.lookup_eq_some_iff_mem hn).2 (hp.mem_iff.2 hm)
  have holds : Holds (s.fields.map Field.name) (.object ns) fun name ↦ ns.lookup name :=
    holds_object hn fun m hm other ↦
      absurd (h.names ▸ List.mem_map_of_mem (hp.mem_iff.1 hm)) other
  have sufficient : Sufficient s.fields fun name ↦ ns.lookup name := by
    refine ⟨fun f hf _ ↦ ?_, fun f hf j hj ↦ ?_⟩
    · obtain ⟨m, hm, name, -⟩ := h.accepted f hf
      rw [name, get m hm]
      rfl
    · obtain ⟨m, hm, name, passed⟩ := h.accepted f hf
      rw [name, get m hm] at hj
      exact Option.some.inj hj ▸ passed
  rw [read_of_holds hk holds sufficient]
  exact h.build _ get

end Spelled

end Shape

end LedgerQuery.Json
