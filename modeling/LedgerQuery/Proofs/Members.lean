import LedgerQuery.Json.Shape
import LedgerQuery.Proofs.Keyed

/-!
# What a record is read from

A record is read from what a tree holds under the names of its fields (`Holds`): an object that has
each of them once at most, or an array with the values in the places of the fields.  If a shape
builds nothing where a field is missing or is not right (`Shape.Checks`), it reads a record exactly
if the record is built from what the tree holds (`Shape.Checks.read_eq_ok_iff`).  So the order in
which members are checked has no say in it.
-/

namespace LedgerQuery.Json

variable {α β : Type}

/-- A value of another kind is refused. -/
theorem mismatch_ne_ok {expected : String} {j : Json} {a : α} : mismatch expected j ≠ .ok a := by
  rw [mismatch]
  split <;> exact nofun

/-- A member that is right: its key is a text; if it is a field it has a value that is right for it,
and otherwise it is read to its end. -/
structure Passes (fields : List Field) (m : Option String × Json) : Prop where
  key : m.1 ≠ none
  check : ∀ f ∈ fields, m.1 = some f.name → f.check m.2 = .ok ()
  other : (∀ f ∈ fields, m.1 ≠ some f.name) → m.2.complete = true

/-- What a tree holds under some names. -/
inductive Holds (names : List String) : Json → (String → Option Json) → Prop
  /-- An object that has each name once at most, and whose other members are read to their end. -/
  | object {ms : List (Option String × Json)} (keys : ∀ m ∈ ms, m.1 ≠ none)
      (others : ∀ m ∈ ms, (∀ name ∈ names, m.1 ≠ some name) → m.2.complete = true)
      (once : ∀ name ∈ names, (ms.map Prod.fst).count (some name) ≤ 1) :
      Holds names (.obj ms true) fun name ↦ ms.lookup (some name)
  /-- An array with a value for some of the first names. -/
  | array {items : List Json} (length : items.length ≤ names.length) :
      Holds names (.arr items true) fun name ↦ (names.zip items).lookup name

/-- Members are found by their names alike when the names are marked as decoded. -/
theorem lookup_members (ms : List (String × Json)) (k : String) :
    (ms.map fun m ↦ (some m.1, m.2)).lookup (some k) = ms.lookup k := by
  induction ms with
  | nil => rfl
  | cons m ms ih =>
    rw [List.map_cons, List.lookup_cons, List.lookup_cons, ih]
    rfl

/-- An object whose keys are all different holds its members. -/
theorem holds_object {names : List String} {ms : List (String × Json)}
    (keys : (ms.map Prod.fst).Nodup) (others : ∀ m ∈ ms, m.1 ∉ names → m.2.complete = true) :
    Holds names (.object ms) fun name ↦ ms.lookup name := by
  have once : ((ms.map fun m ↦ (some m.1, m.2)).map Prod.fst).Nodup := by
    have some_keys := keys.map fun _ _ h ↦ Option.some.inj h
    rwa [List.map_map] at some_keys ⊢
  have holds :
      Holds names (.object ms) fun name ↦ (ms.map fun m ↦ (some m.1, m.2)).lookup (some name) :=
    .object (List.forall_mem_map.2 fun m hm ↦ nofun)
      (List.forall_mem_map.2 fun m hm other ↦ others m hm fun hname ↦ other m.1 hname rfl)
      fun name _ ↦ List.nodup_iff_count_le_one.1 once _
  rwa [funext (lookup_members ms)] at holds

/-- The fields have what they need: those that are required are there, and those that are there are
right. -/
structure Sufficient (fields : List Field) (get : String → Option Json) : Prop where
  present : ∀ f ∈ fields, f.required = true → (get f.name).isSome = true
  right : ∀ f ∈ fields, ∀ j, get f.name = some j → f.check j = .ok ()

namespace Shape

/-! ## Records built from their fields -/

section Build

variable {get : String → Option Json} {name : String} {r : Json → Except Fault α}

/-- Two shapes in a row read what each of them reads. -/
theorem build_seq_eq_ok_iff {s : Shape (α → β)} {t : Shape α} {b : β} :
    (s <*> t).build get = .ok b ↔ ∃ f a, s.build get = .ok f ∧ t.build get = .ok a ∧ f a = b := by
  simp only [Seq.seq]
  cases s.build get with
  | error e => exact iff_of_false nofun fun ⟨_, _, h, _⟩ ↦ nomatch h
  | ok f =>
    cases t.build get with
    | error e => exact iff_of_false nofun fun ⟨_, _, _, h, _⟩ ↦ nomatch h
    | ok a => simp [Except.map]

/-- A record of two fields is built from both of them. -/
theorem build_map_seq_eq_ok_iff {γ : Type} {f : α → β → γ} {s : Shape α} {t : Shape β} {c : γ} :
    (f <$> s <*> t).build get = .ok c ↔
      ∃ a b, s.build get = .ok a ∧ t.build get = .ok b ∧ f a b = c := by
  have first {g : β → γ} : (f <$> s).build get = .ok g ↔ ∃ a, s.build get = .ok a ∧ f a = g := by
    refine build_seq_eq_ok_iff.trans ⟨fun ⟨_, a, made, h, same⟩ ↦ ⟨a, h, ?_⟩, fun ⟨a, h, same⟩ ↦
      ⟨f, a, rfl, h, same⟩⟩
    cases made
    exact same
  rw [build_seq_eq_ok_iff]
  constructor
  · rintro ⟨g, b, hg, hb, same⟩
    obtain ⟨a, ha, rfl⟩ := first.1 hg
    exact ⟨a, b, ha, hb, same⟩
  · rintro ⟨a, b, ha, hb, same⟩
    exact ⟨f a, b, first.2 ⟨a, ha, rfl⟩, hb, same⟩

/-- A required member is read if it is there and can be read. -/
theorem build_required_eq_ok_iff {a : α} :
    (Shape.required name r).build get = .ok a ↔ ∃ j, get name = some j ∧ r j = .ok a := by
  simp only [Shape.required]
  cases get name <;> simp

end Build

/-! ## Shapes that check what they build from -/

/-- A shape that builds a record only if the fields have what they need. -/
def Checks (s : Shape α) : Prop := ∀ get a, s.build get = .ok a → Sufficient s.fields get

namespace Checks

variable {name : String} {r : Json → Except Fault α}

/-- A shape without members checks what it reads. -/
theorem pure (a : α) : Checks (Pure.pure a) := fun _ _ _ ↦
  ⟨fun _ hf ↦ absurd hf List.not_mem_nil, fun _ hf ↦ absurd hf List.not_mem_nil⟩

/-- Two shapes in a row check what they read. -/
theorem seq {s : Shape (α → β)} {t : Shape α} (hs : s.Checks) (ht : t.Checks) :
    (s <*> t).Checks := by
  intro get b h
  obtain ⟨f, a, first, second, -⟩ := build_seq_eq_ok_iff.1 h
  exact ⟨List.forall_mem_append.2 ⟨(hs get f first).present, (ht get a second).present⟩,
    List.forall_mem_append.2 ⟨(hs get f first).right, (ht get a second).right⟩⟩

/-- A required member is checked as it is read. -/
theorem required : (Shape.required name r).Checks := by
  intro get a h
  obtain ⟨j, found, read⟩ := build_required_eq_ok_iff.1 h
  refine ⟨List.forall_mem_singleton.2 fun _ ↦ by rw [found]; rfl,
    List.forall_mem_singleton.2 fun i hi ↦ ?_⟩
  cases found.symm.trans hi
  simp only [read, Except.map]

/-- A member with a default is checked as it is read. -/
theorem optional {default : α} : (Shape.optional name default r).Checks := by
  intro get a h
  refine ⟨List.forall_mem_singleton.2 nofun, List.forall_mem_singleton.2 fun j found ↦ ?_⟩
  simp only [Shape.optional, found] at h
  simp only [h, Except.map]

/-- A member that may be null is checked as it is read. -/
theorem nullable : (Shape.nullable name r).Checks := optional

end Checks

/-! ## Members -/

variable {fields : List Field} {f : Field} {seen : List String} {ms : List (Option String × Json)}
  {k : String} {j : Json}

/-- A field is found by its name, as no other field has it. -/
theorem find_field (hn : (fields.map Field.name).Nodup) (hf : f ∈ fields) :
    fields.find? (fun g ↦ g.name == f.name) = some f := by
  have there : (fields.find? fun g ↦ g.name == f.name).isSome :=
    List.find?_isSome.2 ⟨f, hf, beq_iff_eq.2 rfl⟩
  obtain ⟨g, found⟩ := Option.isSome_iff_exists.1 there
  have name : g.name = f.name := by simpa using List.find?_some found
  have same : g = f := List.inj_on_of_nodup_map hn (List.mem_of_find?_eq_some found) hf name
  rw [found, same]

/-- The member of a field passes if the field accepts its value. -/
theorem passes_field (hn : (fields.map Field.name).Nodup) (hf : f ∈ fields) :
    Passes fields (some f.name, j) ↔ f.check j = .ok () := by
  refine ⟨fun h ↦ h.check f hf rfl, fun h ↦ ⟨nofun, fun g hg same ↦ ?_, fun other ↦ ?_⟩⟩
  · have : g = f := List.inj_on_of_nodup_map hn hg hf (Option.some.inj same).symm
    exact this ▸ h
  · exact absurd rfl (other f hf)

/-- A member of no field passes if its value can be decoded at all. -/
theorem passes_other (other : ∀ f ∈ fields, some k ≠ some f.name) :
    Passes fields (some k, j) ↔ j.complete = true :=
  ⟨fun h ↦ h.other other, fun h ↦ ⟨nofun, fun f hf same ↦ absurd same (other f hf), fun _ ↦ h⟩⟩

/-- The member of a field is checked once, and must not come twice. -/
theorem checkMembers_field (hn : (fields.map Field.name).Nodup) (hf : f ∈ fields) :
    checkMembers fields seen ((some f.name, j) :: ms) = .ok () ↔
      f.check j = .ok () ∧ f.name ∉ seen ∧ checkMembers fields (f.name :: seen) ms = .ok () := by
  rw [checkMembers, find_field hn hf]
  dsimp only
  split
  · next repeated =>
    have : f.name ∈ seen := by simpa using repeated
    exact iff_of_false nofun fun h ↦ h.2.1 this
  · next fresh =>
    have : f.name ∉ seen := by simpa using fresh
    split
    · next passed => simp [passed, this]
    · next failed => simp [failed]

/-- The members of no field are only checked to be decodable. -/
theorem checkMembers_other (other : ∀ f ∈ fields, some k ≠ some f.name) :
    checkMembers fields seen ((some k, j) :: ms) = .ok () ↔
      j.complete = true ∧ checkMembers fields seen ms = .ok () := by
  have unknown : fields.find? (fun f ↦ f.name == k) = none := by
    rw [List.find?_eq_none]
    exact fun f hf same ↦ other f hf (congrArg some (beq_iff_eq.1 same).symm)
  rw [checkMembers, unknown]
  dsimp only
  split
  · next whole => simp [whole]
  · next broken => simp [broken]

/-- Members pass if each of them is right and no field is met twice. -/
theorem checkMembers_eq_ok_iff (hn : (fields.map Field.name).Nodup) :
    checkMembers fields seen ms = .ok () ↔
      (∀ m ∈ ms, Passes fields m) ∧
      ∀ f ∈ fields, (ms.map Prod.fst).count (some f.name) ≤ if f.name ∈ seen then 0 else 1 := by
  induction ms generalizing seen with
  | nil => simp [checkMembers]
  | cons m ms ih =>
    rw [List.forall_mem_cons, List.map_cons]
    obtain ⟨_ | k, j⟩ := m
    · exact iff_of_false nofun fun h ↦ h.1.1.key rfl
    · by_cases known : ∃ f ∈ fields, some k = some f.name
      · obtain ⟨f, hf, same⟩ := known
        cases same
        have once : (∀ g ∈ fields, (some f.name :: ms.map Prod.fst).count (some g.name) ≤
              if g.name ∈ seen then 0 else 1) ↔
            f.name ∉ seen ∧ ∀ g ∈ fields, (ms.map Prod.fst).count (some g.name) ≤
              if g.name ∈ f.name :: seen then 0 else 1 := by
          simp only [List.count_cons, beq_iff_eq, Option.some.injEq, List.mem_cons]
          grind
        rw [checkMembers_field hn hf, passes_field hn hf, once, ih]
        exact ⟨fun ⟨passed, fresh, others, rest⟩ ↦ ⟨⟨passed, others⟩, fresh, rest⟩,
          fun ⟨⟨passed, others⟩, fresh, rest⟩ ↦ ⟨passed, fresh, others, rest⟩⟩
      · have other : ∀ f ∈ fields, some k ≠ some f.name := fun f hf same ↦ known ⟨f, hf, same⟩
        have once : ∀ f ∈ fields, (some k :: ms.map Prod.fst).count (some f.name) =
            (ms.map Prod.fst).count (some f.name) := fun f hf ↦ List.count_cons_of_ne (other f hf)
        rw [checkMembers_other other, passes_other other, ih, and_assoc]
        refine and_congr_right fun _ ↦ and_congr_right fun _ ↦ forall₂_congr fun f hf ↦ ?_
        rw [once f hf]

/-- Where a key stands once, its member is the one that is found. -/
theorem lookup_of_count_le_one {κ : Type} [BEq κ] [LawfulBEq κ] {k : κ} {ms : List (κ × Json)}
    (once : (ms.map Prod.fst).count k ≤ 1) : ms.lookup k = some j ↔ (k, j) ∈ ms := by
  induction ms with
  | nil => simp
  | cons m ms ih =>
    obtain ⟨l, i⟩ := m
    rw [List.map_cons, List.count_cons] at once
    rw [List.lookup_cons, List.mem_cons]
    by_cases hk : k = l
    · subst hk
      have none : k ∉ ms.map Prod.fst := by
        rw [← List.count_eq_zero]
        simpa using once
      have : (k, j) ∉ ms := fun h ↦ none (List.mem_map_of_mem h)
      simp [this, eq_comm]
    · have : (ms.map Prod.fst).count k ≤ 1 := Nat.le_of_add_right_le once
      simp [beq_eq_false_iff_ne.2 hk, hk, ih this]

/-! ## Items -/

variable {items : List Json}

/-- The items of an array are checked by the fields in their order. -/
theorem checkItems_eq_ok_iff :
    checkItems fields items = .ok () ↔ ∀ p ∈ fields.zip items, p.1.check p.2 = .ok () := by
  induction fields generalizing items with
  | nil => simp [checkItems]
  | cons f fields ih =>
    cases items with
    | nil => simp [checkItems]
    | cons j items =>
      rw [checkItems, List.zip_cons_cons, List.forall_mem_cons]
      split
      · next passed => simp [passed, ih]
      · next failed => simp [failed]

/-- Names that are zipped with items are the first names, as many as there are items. -/
theorem map_fst_zip {κ : Type} (ks : List κ) (items : List Json) :
    (ks.zip items).map Prod.fst = ks.take items.length := by
  induction ks generalizing items with
  | nil => simp
  | cons k ks ih => cases items with
    | nil => rfl
    | cons j items =>
      rw [List.zip_cons_cons, List.map_cons, ih, List.length_cons, List.take_succ_cons]

/-- Under the name of a field stands the item in its place. -/
theorem lookup_zip (hn : (fields.map Field.name).Nodup) (hf : f ∈ fields) :
    ((fields.map Field.name).zip items).lookup f.name = some j ↔ (f, j) ∈ fields.zip items := by
  have named :
      (fields.map Field.name).zip items = (fields.zip items).map (Prod.map Field.name id) :=
    List.zip_map_left ..
  have keys : (((fields.map Field.name).zip items).map Prod.fst).Nodup :=
    map_fst_zip _ items ▸ hn.sublist (List.take_sublist ..)
  rw [Keyed.lookup_eq_some_iff_mem keys, named, List.mem_map]
  constructor
  · rintro ⟨⟨g, i⟩, hg, same⟩
    obtain ⟨name, rfl⟩ := Prod.mk.inj same
    have : g = f := List.inj_on_of_nodup_map hn (List.of_mem_zip hg).1 hf name
    exact this ▸ hg
  · exact fun h ↦ ⟨(f, j), h, rfl⟩

/-- A field past the last item has none. -/
theorem lookup_zip_of_mem_drop (hn : (fields.map Field.name).Nodup)
    (hf : f ∈ fields.drop items.length) :
    ((fields.map Field.name).zip items).lookup f.name = none := by
  rw [Option.eq_none_iff_forall_ne_some]
  intro j found
  have paired := (lookup_zip hn (List.mem_of_mem_drop hf)).1 found
  have early : f ∈ fields.take items.length := map_fst_zip fields items ▸ List.mem_map_of_mem paired
  rw [← List.take_append_drop items.length fields, List.map_append] at hn
  exact List.disjoint_of_nodup_append hn (List.mem_map_of_mem early) (List.mem_map_of_mem hf)

/-! ## Records -/

variable {s : Shape α} {label : String} {origin : Origin} {a : α}

/-- A record that is read is built from what the tree holds. -/
theorem exists_holds_of_read (hn : (s.fields.map Field.name).Nodup)
    (h : s.read label origin j = .ok a) :
    ∃ get, Holds (s.fields.map Field.name) j get ∧ s.build get = .ok a := by
  rw [Shape.read.eq_def] at h
  split at h
  · next ms closed =>
    split at h
    · cases h
    · next checked =>
      obtain ⟨passes, once⟩ := (checkMembers_eq_ok_iff hn).1 checked
      split at h
      · cases h
      · next whole =>
        obtain rfl : closed = true := by simpa using whole
        dsimp only at h
        split at h
        · cases h
        · exact ⟨_, .object (fun m hm ↦ (passes m hm).key)
            (fun m hm other ↦ (passes m hm).other fun f hf ↦ other f.name (List.mem_map_of_mem hf))
            (List.forall_mem_map.2 (by simpa using once)), h⟩
  · next items closed =>
    split at h
    · cases h
    · split at h
      · cases h
      · next short =>
        split at h
        · cases h
        · next whole =>
          obtain rfl : closed = true := by simpa using whole
          split at h
          · cases h
          · exact ⟨_, .array (by simpa using short), h⟩
  · exact absurd h mismatch_ne_ok

/-- Where the fields have what they need, the record is read. -/
theorem read_of_holds (hn : (s.fields.map Field.name).Nodup) {get : String → Option Json}
    (holds : Holds (s.fields.map Field.name) j get) (sufficient : Sufficient s.fields get) :
    s.read label origin j = s.build get := by
  cases holds with
  | @object ms keys others once =>
    have checked : checkMembers s.fields [] ms = .ok () := by
      rw [List.forall_mem_map] at once
      refine (checkMembers_eq_ok_iff hn).2
        ⟨fun m hm ↦ ⟨keys m hm, fun f hf name ↦ ?_, fun other ↦ ?_⟩, by simpa using once⟩
      · exact sufficient.right f hf m.2 ((lookup_of_count_le_one (once f hf)).2 (name ▸ hm))
      · refine others m hm fun name hname ↦ ?_
        obtain ⟨f, hf, rfl⟩ := List.mem_map.1 hname
        exact other f hf
    have present :
        s.fields.find? (fun f ↦ f.required && (ms.lookup (some f.name)).isNone) = none := by
      rw [List.find?_eq_none]
      intro f hf missing
      rw [Bool.and_eq_true, Option.isNone_iff_eq_none] at missing
      have there := sufficient.present f hf missing.1
      rw [missing.2] at there
      cases there
    rw [Shape.read, checked]
    simp only [Bool.not_true, Bool.false_eq_true, if_false, present]
  | @array items length =>
    rw [List.length_map] at length
    have checked : checkItems s.fields items = .ok () := by
      refine checkItems_eq_ok_iff.2 fun ⟨f, j⟩ hp ↦ ?_
      have hf := (List.of_mem_zip hp).1
      exact sufficient.right f hf j ((lookup_zip hn hf).2 hp)
    have present : (s.fields.drop items.length).findIdx? (fun f ↦ f.required) = none := by
      rw [List.findIdx?_eq_none_iff]
      intro f hf
      rw [← Bool.not_eq_true]
      intro required
      have there := sufficient.present f (List.mem_of_mem_drop hf) required
      rw [lookup_zip_of_mem_drop hn hf] at there
      cases there
    rw [Shape.read, checked]
    simp only [Nat.not_lt.2 length, Bool.not_true, Bool.false_eq_true, if_false, present]

/-- A record is read exactly if it is built from what the tree holds. -/
theorem Checks.read_eq_ok_iff (h : s.Checks) (hn : (s.fields.map Field.name).Nodup) :
    s.read label origin j = .ok a ↔
      ∃ get, Holds (s.fields.map Field.name) j get ∧ s.build get = .ok a := by
  refine ⟨exists_holds_of_read hn, fun ⟨get, holds, built⟩ ↦ ?_⟩
  rw [read_of_holds hn holds (h get a built), built]

end Shape

end LedgerQuery.Json
