import LedgerQuery.Proofs.Codec
import LedgerQuery.Proofs.Members

/-!
# Trees that are read alike

A block or a transaction is read along with its text or from a settled value.  What it is read from
are the values of its fields: two trees are read alike if these are (`alike_object`, `alike_list`),
where a value may be `null` in one of them and absent in the other if the field is optional
(`Close`).  All this is about sound trees (`Sound`), in which no key stands twice, numbers are in
range and strings are texts.
-/

namespace LedgerQuery

namespace Json

/-! ## Sound trees -/

/-- A tree of texts, numbers in range, lists and objects without repeated keys, with at most `depth`
lists and objects inside each other. -/
inductive Sound : (depth : Nat) → Json → Prop
  | null (depth : Nat) : Sound depth .null
  | bool (depth : Nat) (b : Bool) : Sound depth (.bool b)
  | num (depth : Nat) {n : Numeral} (range : n.value?.isSome = true) : Sound depth (.num n)
  | text (depth : Nat) (s : String) : Sound depth (.text s)
  | list {depth : Nat} {js : List Json} (items : ∀ j ∈ js, Sound depth j) :
      Sound (depth + 1) (.list js)
  | object {depth : Nat} {ms : List (String × Json)} (keys : (ms.map Prod.fst).Nodup)
      (members : ∀ m ∈ ms, Sound depth m.2) : Sound (depth + 1) (.object ms)

variable {depth : Nat}

theorem completeItems_iff {js : List Json} :
    completeItems js = true ↔ ∀ j ∈ js, j.complete = true := by
  induction js with
  | nil => simp [completeItems]
  | cons j js ih => rw [completeItems, Bool.and_eq_true, ih, List.forall_mem_cons]

theorem completeMembers_iff {ms : List (Option String × Json)} :
    completeMembers ms = true ↔ ∀ m ∈ ms, m.2.complete = true := by
  induction ms with
  | nil => simp [completeMembers]
  | cons m ms ih => rw [completeMembers, Bool.and_eq_true, ih, List.forall_mem_cons]

/-- A sound tree has no broken text in it. -/
theorem Sound.complete {j : Json} (h : Sound depth j) : j.complete = true := by
  induction h with
  | null => rw [Json.complete]
  | bool => rw [Json.complete]
  | num => rw [Json.complete]
  | text => rw [Json.text, Json.complete]
  | list _ ih => rw [Json.list, Json.complete, completeItems_iff.2 ih, Bool.and_self]
  | object _ _ ih =>
    rw [Json.object, Json.complete, completeMembers_iff.2 (List.forall_mem_map.2 ih), Bool.and_self]

/-- Objects are told apart by their members, although these are kept with optional names. -/
theorem object_injective : Function.Injective object := by
  intro ms ns same
  have pair : Function.Injective fun m : String × Json ↦ (some m.1, m.2) := by
    rintro ⟨k, j⟩ ⟨l, i⟩ h
    cases h
    rfl
  exact List.map_injective_iff.2 pair (Json.obj.inj same).1

theorem Sound.of_list {js : List Json} (h : Sound depth (.list js)) :
    ∃ d, depth = d + 1 ∧ ∀ j ∈ js, Sound d j := by
  cases h with
  | list items => exact ⟨_, rfl, items⟩

/-- An object is sound with members that are, of different names and one level below. -/
theorem Sound.of_object {ms : List (String × Json)} (h : Sound depth (.object ms)) :
    ∃ d, depth = d + 1 ∧ (ms.map Prod.fst).Nodup ∧ ∀ m ∈ ms, Sound d m.2 := by
  generalize hj : Json.object ms = j at h
  cases h with
  | object keys members =>
    cases object_injective hj
    exact ⟨_, rfl, keys, members⟩
  | _ => cases hj

end Json

/-! ## Kinds of records and their fields -/

namespace Chain

open Json (Shape Origin Sound)

/-- The records that a node tells of. -/
inductive Kind
  | block
  | transaction
deriving DecidableEq, Repr

namespace Kind

abbrev Record : Kind → Type
  | .block => Block
  | .transaction => Transaction

def shape : (k : Kind) → Origin → Shape k.Record
  | .block, origin => Block.shape origin
  | .transaction, _ => Transaction.shape

def read : (k : Kind) → Origin → Json → Except Json.Fault k.Record
  | .block => Block.ofJson
  | .transaction => Transaction.ofJson

/-- The fields that have to be there, and have a value. -/
def required : Kind → List String
  | .block => ["number", "hash", "parentHash", "sha3Uncles", "transactionsRoot", "stateRoot",
      "receiptsRoot", "miner", "difficulty", "extraData", "size", "gasLimit", "gasUsed",
      "timestamp"]
  | .transaction => ["hash", "nonce", "from", "value", "gas", "input"]

/-- The fields that may be absent, but have a value if they are there. -/
def lists : Kind → List String
  | .block => ["transactions", "uncles"]
  | .transaction => []

/-- The fields that may be absent or `null`. -/
def optional : Kind → List String
  | .block => ["nonce", "logsBloom", "totalDifficulty"]
  | .transaction => ["blockHash", "blockNumber", "transactionIndex", "to", "gasPrice"]

def names (k : Kind) : List String := (k.shape .text).fields.map Json.Field.name

/-- The fields of a shape are those of its kind, in the order in which they are read. -/
theorem names_eq (k : Kind) (origin : Origin) :
    (k.shape origin).fields.map Json.Field.name = k.names := by
  cases k <;> cases origin <;> rfl

theorem perm_names (k : Kind) : k.names.Perm (k.required ++ k.lists ++ k.optional) := by
  cases k <;> decide +kernel

theorem nodup_names (k : Kind) (origin : Origin) :
    ((k.shape origin).fields.map Json.Field.name).Nodup := by
  cases k
  · exact Block.nodup_fields origin
  · exact Transaction.nodup_fields

/-- The shapes of records check in every field what they read. -/
theorem checks (k : Kind) (origin : Origin) : (k.shape origin).Checks := by
  cases k with
  | block =>
    exact Shape.Checks.pure Block.mk
      |>.seq .required |>.seq .required |>.seq .required |>.seq .nullable |>.seq .required
      |>.seq .nullable |>.seq .required |>.seq .required |>.seq .required |>.seq .required
      |>.seq .required |>.seq .nullable |>.seq .required |>.seq .required |>.seq .required
      |>.seq .required |>.seq .required |>.seq .optional |>.seq .optional
  | transaction =>
    exact Shape.Checks.pure Transaction.mk
      |>.seq .required |>.seq .required |>.seq .nullable |>.seq .nullable |>.seq .nullable
      |>.seq .required |>.seq .nullable |>.seq .required |>.seq .required |>.seq .nullable
      |>.seq .required

/-- A record is read from a tree that holds its fields, and in no other way. -/
theorem read_eq_ok_iff {k : Kind} {origin : Origin} {j : Json} {a : k.Record} :
    k.read origin j = .ok a ↔
      ∃ get, Json.Holds k.names j get ∧ (k.shape origin).build get = .ok a := by
  rw [← k.names_eq origin]
  cases k with
  | block => exact (checks .block origin).read_eq_ok_iff (nodup_names .block origin)
  | transaction =>
    exact (checks .transaction origin).read_eq_ok_iff (nodup_names .transaction origin)

end Kind

/-! ## What a value stands for -/

/-- What a value in a tree is there for. -/
inductive Role
  | record (k : Kind)
  | transactions
  | other
deriving DecidableEq, Repr

namespace Role

def names : Role → List String
  | .record k => k.names
  | .transactions | .other => []

def optional : Role → List String
  | .record k => k.optional
  | .transactions | .other => []

/-- What the member of an object is there for. -/
def member : Role → String → Role
  | .record .block, "transactions" => .transactions
  | _, _ => .other

/-- What an item of a list is there for.  A record may be a list of the values of its fields. -/
def item : Role → Nat → Role
  | .record k, i => (k.names[i]?.map (Role.record k).member).getD .other
  | .transactions, _ => .record .transaction
  | .other, _ => .other

end Role

/-! ## Values that are read alike -/

/-- Two values are read alike, in whatever way they are read where they stand. -/
def Alike : Role → Json → Json → Prop
  | .record k, j, j' => ∀ o o', (k.read o j).toOption = (k.read o' j').toOption
  | .transactions, j, j' => ∀ o o', (Json.readList (Transaction.ofJson o) j).toOption =
      (Json.readList (Transaction.ofJson o') j').toOption
  | .other, j, j' => (j = .null ↔ j' = .null) ∧
      (Json.readText j).toOption = (Json.readText j').toOption ∧
      (Json.readList Json.readText j).toOption = (Json.readList Json.readText j').toOption

/-- What two records have under a name is read alike. -/
inductive Close (role : Role) (name : String) : Option Json → Option Json → Prop
  | none : Close role name none none
  | some {j j' : Json} (alike : Alike (role.member name) j j') : Close role name (some j) (some j')
  | absent (optional : name ∈ role.optional) : Close role name none (some .null)

section Agree

variable {α β : Type}

theorem toOption_map {ε : Type} (f : α → β) (x : Except ε α) :
    (x.map f).toOption = x.toOption.map f := by
  cases x <;> rfl

theorem toOption_eq_some_iff {ε : Type} {x : Except ε α} {a : α} :
    x.toOption = some a ↔ x = .ok a := by
  cases x <;> simp [Except.toOption]

/-- Two shapes build the same record, or neither does, each from its own values. -/
def Agree (s s' : Shape α) (get get' : String → Option Json) : Prop :=
  (s.build get).toOption = (s'.build get').toOption

variable {get get' : String → Option Json} {name : String} {role : Role}
    {r r' : Json → Except Json.Fault α}

namespace Agree

theorem pure (a : α) : Agree (Pure.pure a) (Pure.pure a) get get' := rfl

/-- Readers that agree in both of their parts agree. -/
theorem seq {s s' : Shape (α → β)} {t t' : Shape α} (hs : Agree s s' get get')
    (ht : Agree t t' get get') :
    Agree (s <*> t) (s' <*> t') get get' := by
  have build (s : Shape (α → β)) (t : Shape α) (get : String → Option Json) :
      ((s <*> t).build get).toOption =
        (s.build get).toOption.bind fun f ↦ (t.build get).toOption.map f := by
    simp only [Seq.seq]
    cases s.build get with
    | error e => rfl
    | ok f => exact toOption_map f _
  rw [Agree, build, build, hs, ht]

/-- A required field that has the same outcome on both sides is read alike. -/
theorem required (close : Close role name (get name) (get' name)) (always : name ∉ role.optional)
    (same : ∀ j j', Alike (role.member name) j j' → (r j).toOption = (r' j').toOption) :
    Agree (.required name r) (.required name r') get get' := by
  simp only [Agree, Shape.required]
  generalize get name = v, get' name = v' at close
  cases close with
  | none => rfl
  | some alike => exact same _ _ alike
  | absent optional => exact absurd optional always

/-- A field with a default is read alike where it is there on both sides or on neither. -/
theorem optional {default : α} (close : Close role name (get name) (get' name))
    (always : name ∉ role.optional)
    (same : ∀ j j', Alike (role.member name) j j' → (r j).toOption = (r' j').toOption) :
    Agree (.optional name default r) (.optional name default r') get get' := by
  simp only [Agree, Shape.optional]
  generalize get name = v, get' name = v' at close
  cases close with
  | none => rfl
  | some alike => exact same _ _ alike
  | absent optional => exact absurd optional always

theorem readNullable_toOption (r : Json → Except Json.Fault α) {j : Json} (h : j ≠ .null) :
    (Json.readNullable r j).toOption = (r j).toOption.map some := by
  rw [Json.readNullable]
  · exact toOption_map some _
  · exact h

/-- A field that may be absent or `null` is read alike, as either means that it is not there. -/
theorem nullable (close : Close role name (get name) (get' name))
    (other : role.member name = .other)
    (same : ∀ j j', Alike .other j j' → (r j).toOption = (r j').toOption) :
    Agree (.nullable name r) (.nullable name r) get get' := by
  simp only [Agree, Shape.nullable, Shape.optional]
  generalize get name = v, get' name = v' at close
  cases close with
  | none => rfl
  | absent optional => rfl
  | @some j j' alike =>
    rw [other] at alike
    by_cases null : j = .null
    · rw [null, alike.1.1 null]
    · rw [readNullable_toOption r null, readNullable_toOption r (mt alike.1.2 null),
        same j j' alike]

end Agree

end Agree

theorem Alike.readText {j j' : Json} (h : Alike .other j j') :
    (Json.readText j).toOption = (Json.readText j').toOption := h.2.1

/-- A quantity is the same in texts that are alike. -/
theorem Alike.quantity {j j' : Json} (width : Nat) (h : Alike .other j j') :
    (Quantity.ofJson width j).toOption = (Quantity.ofJson width j').toOption := by
  have read (j : Json) : (Quantity.ofJson width j).toOption =
      (Json.readText j).toOption.bind fun raw ↦ (Quantity.read width raw).toOption := by
    rw [Quantity.ofJson]
    cases Json.readText j with
    | error e => rfl
    | ok raw =>
      dsimp only [Except.toOption, Option.bind]
      cases Quantity.read width raw <;> rfl
  rw [read, read, h.readText]

/-- Records are built alike from fields that are read alike. -/
theorem agree_shape (k : Kind) {get get' : String → Option Json}
    (h : ∀ name ∈ k.names, Close (.record k) name (get name) (get' name)) (o o' : Origin) :
    Agree (k.shape o) (k.shape o') get get' := by
  have always {name : String} (hn : name ∈ k.required ++ k.lists) :
      Close (.record k) name (get name) (get' name) ∧ name ∉ k.optional := by
    have nodup := k.perm_names.nodup_iff.1 (k.nodup_names .text)
    exact ⟨h name (k.perm_names.mem_iff.2 (List.mem_append_left _ hn)),
      fun hopt ↦ List.disjoint_of_nodup_append nodup hn hopt⟩
  have text {name : String} (hn : name ∈ k.required ++ k.lists)
      (other : (Role.record k).member name = .other) :
      Agree (.required name Json.readText) (.required name Json.readText) get get' :=
    Agree.required (always hn).1 (always hn).2 fun j j' alike ↦
      (other ▸ alike : Alike .other j j').readText
  have quantity (width : Nat) {name : String} (hn : name ∈ k.required ++ k.lists)
      (other : (Role.record k).member name = .other) :
      Agree (.required name (Quantity.ofJson width)) (.required name (Quantity.ofJson width))
        get get' :=
    Agree.required (always hn).1 (always hn).2 fun j j' alike ↦
      (other ▸ alike : Alike .other j j').quantity width
  have text? {name : String} (hn : name ∈ k.optional)
      (other : (Role.record k).member name = .other) :
      Agree (.nullable name Json.readText) (.nullable name Json.readText) get get' :=
    Agree.nullable (h name (k.perm_names.mem_iff.2 (List.mem_append_right _ hn))) other
      fun j j' ↦ Alike.readText
  have quantity? (width : Nat) {name : String} (hn : name ∈ k.optional)
      (other : (Role.record k).member name = .other) :
      Agree (.nullable name (Quantity.ofJson width)) (.nullable name (Quantity.ofJson width))
        get get' :=
    Agree.nullable (h name (k.perm_names.mem_iff.2 (List.mem_append_right _ hn))) other
      fun j j' ↦ Alike.quantity width
  cases k with
  | transaction =>
    exact Agree.pure Transaction.mk
      |>.seq (text (by decide) rfl) |>.seq (quantity 64 (by decide) rfl)
      |>.seq (text? (by decide) rfl) |>.seq (quantity? 64 (by decide) rfl)
      |>.seq (quantity? 64 (by decide) rfl) |>.seq (text (by decide) rfl)
      |>.seq (text? (by decide) rfl) |>.seq (quantity 128 (by decide) rfl)
      |>.seq (quantity 64 (by decide) rfl) |>.seq (quantity? 128 (by decide) rfl)
      |>.seq (text (by decide) rfl)
  | block =>
    have transactions : Agree (.optional "transactions" [] (Json.readList (Transaction.ofJson o)))
        (.optional "transactions" [] (Json.readList (Transaction.ofJson o'))) get get' :=
      Agree.optional (always (by decide)).1 (always (by decide)).2 fun j j' alike ↦ alike o o'
    have uncles : Agree (.optional "uncles" [] (Json.readList Json.readText))
        (.optional "uncles" [] (Json.readList Json.readText)) get get' :=
      Agree.optional (always (by decide)).1 (always (by decide)).2 fun j j' alike ↦ alike.2.2
    exact Agree.pure Block.mk
      |>.seq (quantity 64 (by decide) rfl) |>.seq (text (by decide) rfl)
      |>.seq (text (by decide) rfl) |>.seq (text? (by decide) rfl)
      |>.seq (text (by decide) rfl) |>.seq (text? (by decide) rfl)
      |>.seq (text (by decide) rfl) |>.seq (text (by decide) rfl)
      |>.seq (text (by decide) rfl) |>.seq (text (by decide) rfl)
      |>.seq (quantity 128 (by decide) rfl) |>.seq (quantity? 128 (by decide) rfl)
      |>.seq (text (by decide) rfl) |>.seq (quantity 64 (by decide) rfl)
      |>.seq (quantity 64 (by decide) rfl) |>.seq (quantity 64 (by decide) rfl)
      |>.seq (quantity 64 (by decide) rfl) |>.seq transactions |>.seq uncles

/-! ## Objects, lists and leaves that are read alike -/

section Trees

variable {k : Kind} {role : Role} {o : Origin} {j j' : Json} {depth depth' : Nat}

/-- Reading a tree is building its shape, if a tree holds its fields in one way. -/
theorem read_toOption {get : String → Option Json}
    (h : ∀ g, Json.Holds k.names j g ↔ g = get) :
    (k.read o j).toOption = ((k.shape o).build get).toOption := by
  ext a
  rw [toOption_eq_some_iff, toOption_eq_some_iff, Kind.read_eq_ok_iff]
  simp only [h, exists_eq_left]

/-- An object is read by the names of its members. -/
theorem read_object {ms : List (String × Json)} (h : Sound depth (.object ms)) :
    (k.read o (.object ms)).toOption = ((k.shape o).build fun name ↦ ms.lookup name).toOption := by
  obtain ⟨d, -, keys, members⟩ := h.of_object
  refine read_toOption fun g ↦ ⟨fun holds ↦ ?_, ?_⟩
  · cases holds with
    | object => exact funext (Json.lookup_members ms)
  · rintro rfl
    exact Json.holds_object keys fun m hm _ ↦ (members m hm).complete

/-- A list is read by the places of its items, if it has not more of them than there are fields. -/
theorem read_list (js : List Json) :
    (k.read o (.list js)).toOption =
      if js.length ≤ k.names.length then
        ((k.shape o).build fun name ↦ (k.names.zip js).lookup name).toOption
      else none := by
  split
  · next short =>
    refine read_toOption fun g ↦ ⟨fun holds ↦ ?_, ?_⟩
    · cases holds with
      | array _ => rfl
    · rintro rfl
      exact .array short
  · next long =>
    cases read : k.read o (.list js) with
    | error e => rfl
    | ok a =>
      obtain ⟨get, holds, -⟩ := Kind.read_eq_ok_iff.1 read
      cases holds with
      | array short => exact absurd short long

/-- A value that is neither a list nor an object is read alike in all ways. -/
theorem alike_leaf (list : ∀ items closed, j ≠ .arr items closed)
    (object : ∀ ms closed, j ≠ .obj ms closed) : Alike role j j := by
  have read (o : Origin) (k : Kind) : (k.read o j).toOption = none := by
    cases read : k.read o j with
    | error e => rfl
    | ok a =>
      obtain ⟨get, holds, -⟩ := Kind.read_eq_ok_iff.1 read
      cases holds with
      | object => exact absurd rfl (object _ _)
      | array => exact absurd rfl (list _ _)
  cases role with
  | record k => exact fun o o' ↦ (read o k).trans (read o' k).symm
  | transactions =>
    intro o o'
    rw [Json.readList, Json.readList]
    · exact list
    · exact list
  | other => exact ⟨.rfl, rfl, rfl⟩

section Items

variable {α : Type} {r r' : Json → Except Json.Fault α} {js js' : List Json}

theorem mapM_cons_toOption (r : Json → Except Json.Fault α) (j : Json) (js : List Json) :
    ((j :: js).mapM r).toOption =
      (r j).toOption.bind fun a ↦ (js.mapM r).toOption.map (a :: ·) := by
  rw [List.mapM_cons]
  cases r j with
  | error e => rfl
  | ok a => exact toOption_map (a :: ·) (js.mapM r)

/-- Lists are read alike if their items are, place by place. -/
theorem mapM_toOption (length : js.length = js'.length)
    (h : ∀ (i : Nat) (j j' : Json), js[i]? = some j → js'[i]? = some j' →
      (r j).toOption = (r' j').toOption) :
    (js.mapM r).toOption = (js'.mapM r').toOption := by
  induction js generalizing js' with
  | nil => cases js' with
    | nil => rfl
    | cons j' js' => cases length
  | cons j js ih => cases js' with
    | nil => cases length
    | cons j' js' =>
      have head := h 0 j j' rfl rfl
      have tail := ih (Nat.succ.inj length) fun i ↦ h (i + 1)
      rw [mapM_cons_toOption, mapM_cons_toOption, head, tail]

/-- A list is not read if one of its items is not. -/
theorem mapM_toOption_eq_none (there : j ∈ js) (h : (r j).toOption = none) :
    (js.mapM r).toOption = none := by
  induction there with
  | head js => rw [mapM_cons_toOption, h, Option.bind_none]
  | tail i _ ih =>
    rw [mapM_cons_toOption, ih]
    cases (r i).toOption <;> rfl

theorem readList_toOption (r : Json → Except Json.Fault α) (js : List Json) :
    (Json.readList r (.list js)).toOption = (js.mapM r).toOption := by
  rw [Json.list, Json.readList]
  cases js.mapM r <;> rfl

end Items

/-- Names that are matched with items in order are looked up by their place. -/
theorem lookup_zip_eq {κ : Type} [BEq κ] [LawfulBEq κ] (ks : List κ) (js : List Json) (k : κ) :
    (ks.zip js).lookup k = (ks.idxOf? k).bind fun i ↦ js[i]? := by
  induction ks generalizing js with
  | nil => rfl
  | cons l ks ih =>
    cases js with
    | nil => simp
    | cons j js =>
      rw [List.zip_cons_cons, List.lookup_cons, List.idxOf?_cons]
      by_cases h : k = l
      · simp [h]
      · rw [beq_eq_false_iff_ne.2 h, beq_eq_false_iff_ne.2 (Ne.symm h), ih]
        simp [Option.bind_map]

/-- Lists whose items are read alike are read alike. -/
theorem alike_list {js js' : List Json} (length : js.length = js'.length)
    (items : ∀ (i : Nat) (j j' : Json), js[i]? = some j → js'[i]? = some j' →
      Alike (role.item i) j j') :
    Alike role (.list js) (.list js') := by
  cases role with
  | record k =>
    intro o o'
    have close : ∀ name ∈ k.names,
        Close (.record k) name ((k.names.zip js).lookup name) ((k.names.zip js').lookup name) := by
      intro name hname
      rw [lookup_zip_eq, lookup_zip_eq]
      obtain ⟨i, hi⟩ := Option.isSome_iff_exists.1 (List.isSome_idxOf?.2 hname)
      have place : k.names[i]? = some name := by
        obtain ⟨bound, found, -⟩ := List.idxOf?_eq_some_iff.1 hi
        rw [List.getElem?_eq_getElem bound, found]
      have item : (Role.record k).item i = (Role.record k).member name := by
        rw [Role.item, place]
        rfl
      rw [hi, Option.bind_some, Option.bind_some]
      by_cases bound : i < js.length
      · have bound' := length ▸ bound
        have alike := items i _ _ (List.getElem?_eq_getElem bound) (List.getElem?_eq_getElem bound')
        rw [List.getElem?_eq_getElem bound, List.getElem?_eq_getElem bound']
        exact .some (item ▸ alike)
      · rw [List.getElem?_eq_none (Nat.le_of_not_lt bound),
          List.getElem?_eq_none (length ▸ Nat.le_of_not_lt bound)]
        exact .none
    rw [read_list, read_list, ← length, agree_shape k close o o']
  | transactions =>
    intro o o'
    rw [readList_toOption, readList_toOption]
    exact mapM_toOption length fun i j j' hj hj' ↦ items i j j' hj hj' o o'
  | other =>
    refine ⟨iff_of_false nofun nofun, rfl, ?_⟩
    rw [readList_toOption, readList_toOption]
    exact mapM_toOption length fun i j j' hj hj' ↦ (items i j j' hj hj').readText

/-- Objects whose fields are read alike are read alike. -/
theorem alike_object {ms ns : List (String × Json)} (hm : Sound depth (.object ms))
    (hn : Sound depth' (.object ns))
    (members : ∀ name ∈ role.names, Close role name (ms.lookup name) (ns.lookup name)) :
    Alike role (.object ms) (.object ns) := by
  cases role with
  | record k =>
    intro o o'
    rw [read_object hm, read_object hn, agree_shape k members o o']
  | transactions => exact fun o o' ↦ rfl
  | other => exact ⟨iff_of_false nofun nofun, rfl, rfl⟩

/-- A sound tree is alike to itself. -/
theorem alike_refl (h : Sound depth j) (role : Role) : Alike role j j := by
  induction h generalizing role with
  | null => exact alike_leaf nofun nofun
  | bool => exact alike_leaf nofun nofun
  | num => exact alike_leaf nofun nofun
  | text => exact alike_leaf nofun nofun
  | list items ih =>
    refine alike_list rfl fun i j j' hj hj' ↦ ?_
    cases hj.symm.trans hj'
    exact ih j (List.mem_of_getElem? hj) _
  | @object d ms keys members ih =>
    refine alike_object (.object keys members) (.object keys members) fun name _ ↦ ?_
    cases found : ms.lookup name with
    | none => exact .none
    | some j => exact .some (ih (name, j) ((Keyed.lookup_eq_some_iff_mem keys).1 found) _)

end Trees

end Chain

end LedgerQuery
