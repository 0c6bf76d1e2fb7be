import LedgerQuery.Node.Lookup
import LedgerQuery.Proofs.Alike
import LedgerQuery.Proofs.JsonText
import Mathlib.Logic.Relation

/-!
# Records whose keys are in any order

A tree may be edited in what a record does not look at: the keys of an object are put in another
order, members that are no fields are added or dropped, and `null` is written for a value that is
absent (`Edit`).  Neither this nor settling the tree, which sorts all its keys, changes what is read
(`Edit.alike`, `Sound.settle_alike`), so a record is read from all these trees and in both ways, or
from none of them (`decode_invariant`).  It is read from none if a field is missing or `null` that
has to have a value (`Faulty`).
-/

namespace LedgerQuery.Chain

open Json (Shape Origin Sound)

variable {k : Kind} {role : Role} {j j' : Json} {depth depth' : Nat}

/-! ## Edits -/

/-- A change of a value in what is not looked at. -/
inductive Edit : Role → Json → Json → Prop
  /-- The keys of an object are put in another order. -/
  | permute {role : Role} {ms ns : List (String × Json)} (perm : ms.Perm ns) :
      Edit role (.object ms) (.object ns)
  /-- A member is added that is no field. -/
  | unknown {role : Role} {name : String} (j : Json) {ms : List (String × Json)}
      (other : name ∉ role.names) : Edit role (.object ms) (.object ((name, j) :: ms))
  /-- A field that may be absent is added as `null`. -/
  | absent {role : Role} {name : String} {ms : List (String × Json)}
      (optional : name ∈ role.optional) :
      Edit role (.object ms) (.object ((name, .null) :: ms))
  /-- The value of a member is changed. -/
  | member {role : Role} {name : String} {j j' : Json} (before after : List (String × Json))
      (inside : Edit (role.member name) j j') :
      Edit role (.object (before ++ (name, j) :: after)) (.object (before ++ (name, j') :: after))
  /-- An item of a list is changed. -/
  | item {role : Role} {j j' : Json} (before after : List Json)
      (inside : Edit (role.item before.length) j j') :
      Edit role (.list (before ++ j :: after)) (.list (before ++ j' :: after))

theorem close_refl {ms : List (String × Json)} (h : Sound depth (.object ms)) (name : String) :
    Close role name (ms.lookup name) (ms.lookup name) := by
  obtain ⟨d, -, keys, members⟩ := h.of_object
  cases found : ms.lookup name with
  | none => exact .none
  | some j =>
    exact .some (alike_refl (members (name, j) ((Keyed.lookup_eq_some_iff_mem keys).1 found)) _)

theorem lookup_perm {ms ns : List (String × Json)} (keys : (ms.map Prod.fst).Nodup) (h : ms.Perm ns)
    (name : String) : ms.lookup name = ns.lookup name := by
  have keys' : (ns.map Prod.fst).Nodup := (h.map _).nodup_iff.1 keys
  ext j
  rw [Keyed.lookup_eq_some_iff_mem keys, Keyed.lookup_eq_some_iff_mem keys', h.mem_iff]

/-- An edit of a sound tree that leaves it sound does not change how it is read. -/
theorem Edit.alike (edit : Edit role j j') (h : Sound depth j) (h' : Sound depth' j') :
    Alike role j j' := by
  induction edit generalizing depth depth' with
  | permute perm =>
    obtain ⟨-, -, keys, -⟩ := h.of_object
    refine alike_object h h' fun name _ ↦ ?_
    rw [← lookup_perm keys perm]
    exact close_refl h name
  | @unknown role name j ms other =>
    refine alike_object h h' fun field hfield ↦ ?_
    have different : field ≠ name := fun same ↦ other (same ▸ hfield)
    rw [List.lookup_cons, beq_eq_false_iff_ne.2 different]
    exact close_refl h field
  | @absent role name ms optional =>
    obtain ⟨-, -, keys, -⟩ := h'.of_object
    refine alike_object h h' fun field _ ↦ ?_
    rw [List.lookup_cons]
    by_cases same : field = name
    · subst same
      have fresh : ms.lookup field = none := by
        rw [List.map_cons, List.nodup_cons] at keys
        rw [List.lookup_eq_none_iff]
        exact fun m hm ↦ bne_iff_ne.2 fun same ↦ keys.1 (List.mem_map.2 ⟨m, hm, same.symm⟩)
      rw [fresh, BEq.rfl]
      exact .absent optional
    · rw [beq_eq_false_iff_ne.2 same]
      exact close_refl h field
  | @member role name j j' before after inside ih =>
    obtain ⟨d, -, -, members⟩ := h.of_object
    obtain ⟨d', -, -, members'⟩ := h'.of_object
    have alike := ih (members (name, j) (by simp)) (members' (name, j') (by simp))
    refine alike_object h h' fun field _ ↦ ?_
    have unchanged := @close_refl role _ _ h field
    rw [List.lookup_append, List.lookup_cons] at unchanged ⊢
    rw [List.lookup_append, List.lookup_cons]
    generalize before.lookup field = found at unchanged ⊢
    cases found with
    | some i => exact unchanged
    | none =>
      by_cases same : field = name
      · subst same
        rw [BEq.rfl]
        exact .some alike
      · rw [beq_eq_false_iff_ne.2 same] at unchanged ⊢
        exact unchanged
  | @item role j j' before after inside ih =>
    obtain ⟨d, -, items⟩ := h.of_list
    obtain ⟨d', -, items'⟩ := h'.of_list
    have alike := ih (items j (by simp)) (items' j' (by simp))
    refine alike_list (by simp) fun i a a' ha ha' ↦ ?_
    have sound := items a (List.mem_of_getElem? ha)
    rw [List.getElem?_append, List.getElem?_cons] at ha ha'
    by_cases early : i < before.length
    · rw [if_pos early] at ha ha'
      cases ha.symm.trans ha'
      exact alike_refl sound _
    · rw [if_neg early] at ha ha'
      by_cases here : i - before.length = 0
      · rw [if_pos here] at ha ha'
        cases ha
        cases ha'
        obtain rfl : i = before.length := by omega
        exact alike
      · rw [if_neg here] at ha ha'
        cases ha.symm.trans ha'
        exact alike_refl sound _

/-! ## Settled trees -/

theorem lookup_map (ms : List (String × Json)) (g : String × Json → Json) (name : String) :
    (ms.map fun m ↦ (m.1, g m)).lookup name = (ms.lookup name).map fun j ↦ g (name, j) := by
  induction ms with
  | nil => rfl
  | cons m ms ih =>
    rw [List.map_cons, List.lookup_cons, List.lookup_cons, ih]
    by_cases same : name = m.1
    · rw [same, BEq.rfl]
      rfl
    · rw [beq_eq_false_iff_ne.2 same]

/-- A sound tree is settled, and what it is settled into is read as the tree is. -/
theorem settle_alike (h : Sound depth j) :
    ∃ v, j.settle depth = some v ∧ Sound depth v ∧ ∀ role, Alike role j v := by
  have : Nonempty Json := ⟨.null⟩
  induction h with
  | null d => exact ⟨_, by rw [Json.settle], .null d, alike_refl (.null d)⟩
  | bool d b => exact ⟨_, by rw [Json.settle], .bool d b, alike_refl (.bool d b)⟩
  | num d range =>
    exact ⟨_, by rw [Json.settle, if_pos range], .num d range, alike_refl (.num d range)⟩
  | text d s => exact ⟨_, by rw [Json.text, Json.settle], .text d s, alike_refl (.text d s)⟩
  | @list d js items ih =>
    choose! g settled sound alike using ih
    have all : Json.settleItems d js = some (js.map g) := by
      simpa using Json.settleItems_map (f := id) settled
    refine ⟨.list (js.map g), Json.settle_list all, .list (List.forall_mem_map.2 sound),
      fun role ↦ ?_⟩
    refine alike_list (List.length_map g).symm fun i a a' ha ha' ↦ ?_
    rw [List.getElem?_map, ha, Option.map_some] at ha'
    cases ha'
    exact alike a (List.mem_of_getElem? ha) _
  | @object d ms keys members ih =>
    choose! g settled sound alike using ih
    have keys' : ((ms.map fun m ↦ (m.1, g m)).map Prod.fst).Nodup := by
      rwa [List.map_map]
    have sorted := Json.perm_sortMembers keys'
    have object : Sound (d + 1) (.object (Json.sortMembers (ms.map fun m ↦ (m.1, g m)))) := by
      refine .object ((sorted.map _).nodup_iff.2 keys') fun m hm ↦ ?_
      obtain ⟨n, hn, rfl⟩ := List.mem_map.1 (sorted.mem_iff.1 hm)
      exact sound n hn
    refine ⟨_, Json.settle_object (Json.settleMembers_map settled), object, fun role ↦ ?_⟩
    refine alike_object (.object keys members) object fun name _ ↦ ?_
    rw [← lookup_perm keys' sorted.symm, lookup_map]
    cases found : ms.lookup name with
    | none => exact .none
    | some j => exact .some (alike (name, j) ((Keyed.lookup_eq_some_iff_mem keys).1 found) _)

/-! ## Faults -/

/-- A value in which a field is missing or `null` that has to have a value. -/
inductive Faulty : Role → Json → Prop
  | missing {k : Kind} {name : String} {ms : List (String × Json)} (required : name ∈ k.required)
      (absent : name ∉ ms.map Prod.fst) : Faulty (.record k) (.object ms)
  | null {k : Kind} {name : String} {ms : List (String × Json)}
      (required : name ∈ k.required ++ k.lists)
      (there : (name, .null) ∈ ms) : Faulty (.record k) (.object ms)
  | member {k : Kind} {name : String} {j : Json} {ms : List (String × Json)}
      (inside : Faulty ((Role.record k).member name) j) (there : (name, j) ∈ ms) :
      Faulty (.record k) (.object ms)
  | item {j : Json} {js : List Json} (inside : Faulty (.record .transaction) j) (there : j ∈ js) :
      Faulty .transactions (.list js)

theorem exists_required_field {name : String} (h : name ∈ k.required) (o : Origin) :
    ∃ f ∈ (k.shape o).fields, f.name = name ∧ f.required = true := by
  have fields :
      ∀ name ∈ k.required, ∃ f ∈ (k.shape o).fields, f.name = name ∧ f.required = true := by
    cases k <;> cases o <;> decide +kernel
  exact fields name h

theorem exists_field_without_null {name : String} (h : name ∈ k.required ++ k.lists) (o : Origin) :
    ∃ f ∈ (k.shape o).fields, f.name = name ∧ (f.check .null).toOption = none := by
  have fields : ∀ name ∈ k.required ++ k.lists,
      ∃ f ∈ (k.shape o).fields, f.name = name ∧ (f.check .null).toOption = none := by
    cases k <;> cases o <;> decide +kernel
  exact fields name h

theorem exists_transactions_field (o : Origin) :
    ∃ f ∈ (Kind.block.shape o).fields, f.name = "transactions" ∧
      ∀ j, f.check j = (Json.readList (Transaction.ofJson o) j).map fun _ ↦ () := by
  have bound : 17 < (Kind.block.shape o).fields.length := by cases o <;> decide
  exact ⟨(Kind.block.shape o).fields[17], List.getElem_mem bound, rfl, fun _ ↦ rfl⟩

/-- A value that is not read, in whatever way it is read where it stands. -/
def Unread : Role → Json → Prop
  | .record k, j => ∀ o, (k.read o j).toOption = none
  | .transactions, j => ∀ o, (Json.readList (Transaction.ofJson o) j).toOption = none
  | .other, _ => False

/-- An object is not read if a field of it is missing or is not right. -/
theorem unread_object {ms : List (String × Json)} (h : Sound depth (.object ms))
    (wrong : ∀ o, ¬Json.Sufficient (k.shape o).fields fun name ↦ ms.lookup name) :
    Unread (.record k) (.object ms) := by
  intro o
  rw [read_object h]
  cases built : (k.shape o).build fun name ↦ ms.lookup name with
  | error e => rfl
  | ok a => exact absurd (k.checks o _ a built) (wrong o)

theorem Faulty.unread (faulty : Faulty role j) (h : Sound depth j) : Unread role j := by
  induction faulty generalizing depth with
  | @missing k name ms required absent =>
    refine unread_object h fun o sufficient ↦ ?_
    obtain ⟨f, hf, rfl, must⟩ := exists_required_field required o
    have there := sufficient.present f hf must
    rw [Option.isSome_iff_exists] at there
    obtain ⟨j, found⟩ := there
    obtain ⟨-, -, keys, -⟩ := h.of_object
    exact absent (List.mem_map_of_mem ((Keyed.lookup_eq_some_iff_mem keys).1 found))
  | @null k name ms required there =>
    refine unread_object h fun o sufficient ↦ ?_
    obtain ⟨f, hf, rfl, refused⟩ := exists_field_without_null required o
    obtain ⟨-, -, keys, -⟩ := h.of_object
    rw [sufficient.right f hf _ ((Keyed.lookup_eq_some_iff_mem keys).2 there)] at refused
    cases refused
  | @member k name j ms inside there ih =>
    obtain ⟨d, -, keys, members⟩ := h.of_object
    have unread := ih (members (name, j) there)
    have found := (Keyed.lookup_eq_some_iff_mem keys).2 there
    refine unread_object h fun o sufficient ↦ ?_
    rw [Role.member.eq_def] at unread
    split at unread
    · next hk =>
      cases hk
      obtain ⟨f, hf, name, check⟩ := exists_transactions_field o
      have right := sufficient.right f hf j (name ▸ found)
      rw [check] at right
      have none := unread o
      cases read : Json.readList (Transaction.ofJson o) j with
      | error e => rw [read] at right; cases right
      | ok ts => rw [read] at none; cases none
    · exact unread
  | @item j js inside there ih =>
    intro o
    obtain ⟨d, -, items⟩ := h.of_list
    have unread : (Transaction.ofJson o j).toOption = none := ih (items j there) o
    rw [readList_toOption]
    exact mapM_toOption_eq_none there unread

/-! ## Both ways of reading a record -/

/-- Reads a record of a text: along with the text, or from the value that it is settled into where
it is a part of a reply. -/
def Kind.decode (k : Kind) : Origin → String → Except Node.Failure k.Record
  | .text, s => ((Json.parse s).read (k.read .text)).mapError .undecodable
  | .value, s => (((Json.parse s).read Json.anyValue).bind (k.read .value)).mapError .undecodable

/-- What is decoded is what is read from the tree, in either way. -/
theorem decode_toOption {s : String} (hs : Json.parse s = ⟨j, false⟩) (h : Sound Json.memberDepth j)
    (o : Origin) : (k.decode o s).toOption = (k.read .text j).toOption := by
  have mapped {ε ε' α : Type} (f : ε → ε') (x : Except ε α) :
      (x.mapError f).toOption = x.toOption := by
    cases x <;> rfl
  have whole {α : Type} (r : Json → Except Json.Fault α) : (Json.parse s).read r = r j := by
    rw [hs, Json.Document.read]
    cases r j <;> rfl
  cases o with
  | text => rw [Kind.decode, mapped, whole]
  | value =>
    obtain ⟨v, settled, -, alike⟩ := settle_alike h
    have read : Json.anyValue j = .ok v := by rw [Json.anyValue, settled]
    rw [Kind.decode, mapped, whole, read, alike (.record k) .text .value]
    rfl

theorem decode_eq_error {o : Origin} {s : String} (h : (k.decode o s).toOption = none) :
    ∃ f, k.decode o s = .error (.undecodable f) := by
  have mapped {α : Type} {x : Except Json.Fault α}
      (h : (x.mapError Node.Failure.undecodable).toOption = none) :
      ∃ f, x.mapError Node.Failure.undecodable = .error (.undecodable f) := by
    cases x with
    | error f => exact ⟨f, rfl⟩
    | ok a => cases h
  cases o with
  | text => exact mapped h
  | value => exact mapped h

/-- Edits that stay among sound trees change neither whether a record is read nor which one. -/
theorem read_edited {a b : {j // Sound depth j}}
    (edited : Relation.EqvGen (fun a b ↦ Edit (.record k) a.1 b.1) a b) :
    (k.read .text a).toOption = (k.read .text b).toOption := by
  induction edited with
  | rel a b edit => exact edit.alike a.2 b.2 .text .text
  | refl a => rfl
  | symm a b _ ih => exact ih.symm
  | trans a b c _ _ ih ih' => exact ih.trans ih'

/-- Two texts whose trees come from one another by edits, all trees between them being sound, give
the same record or none at all, whether it is read along with the text or from the settled value.
There is none if a field is missing or `null` that has to have a value. -/
theorem decode_invariant (k : Kind) {a b : {j // Sound Json.memberDepth j}}
    (edited : Relation.EqvGen (fun a b ↦ Edit (.record k) a.1 b.1) a b) {s s' : String}
    (hs : Json.parse s = ⟨a, false⟩) (hs' : Json.parse s' = ⟨b, false⟩) :
    ((∃ r, ∀ o, k.decode o s = .ok r ∧ k.decode o s' = .ok r) ∨
      ∀ o, (∃ f, k.decode o s = .error (.undecodable f)) ∧
        ∃ f, k.decode o s' = .error (.undecodable f)) ∧
    (Faulty (.record k) a → ∀ o, ∃ f, k.decode o s = .error (.undecodable f)) := by
  have first := decode_toOption (k := k) hs a.2
  have second (o : Origin) : (k.decode o s').toOption = (k.read .text a).toOption := by
    rw [decode_toOption hs' b.2, read_edited edited]
  refine ⟨?_, fun faulty o ↦ decode_eq_error ((first o).trans (faulty.unread a.2 .text))⟩
  cases outcome : (k.read .text a).toOption with
  | some r =>
    exact .inl ⟨r, fun o ↦ ⟨toOption_eq_some_iff.1 ((first o).trans outcome),
      toOption_eq_some_iff.1 ((second o).trans outcome)⟩⟩
  | none =>
    exact .inr fun o ↦ ⟨decode_eq_error ((first o).trans outcome),
      decode_eq_error ((second o).trans outcome)⟩

/-! ## An edited transaction -/

theorem sound_leaf (h : Json.Leaf j) : Sound depth j := by
  cases h with
  | null => exact .null depth
  | text s => exact .text depth s

theorem sound_leaves {ms : List (String × Json)} (keys : (ms.map Prod.fst).Nodup)
    (leaves : ∀ m ∈ ms, Json.Leaf m.2) : Sound Json.memberDepth (.object ms) :=
  .object keys fun m hm ↦ sound_leaf (leaves m hm)

def creation : Transaction where
  hash := "0xa1"
  nonce := ⟨9, by decide⟩
  blockHash := some "0xb1"
  blockNumber := some ⟨4660, by decide⟩
  transactionIndex := some ⟨11, by decide⟩
  sender := "0xf0"
  recipient := none
  value := ⟨10 ^ 18, by decide⟩
  gas := ⟨53000, by decide⟩
  gasPrice := some ⟨20000000007, by decide⟩
  input := "0x60"

/-- The members of this transaction but for `to`, which is `null` in it. -/
def withoutRecipient : List (String × Json) := creation.members.take 6 ++ creation.members.drop 7

/-- The transaction is decoded where it is written as it is, and where `to` is left out, a member
that is no field is added and all keys stand in reverse order.  An object without members is not
decoded. -/
theorem decode_invariant_creation :
    let edited := Json.write (.object (("type", .text "0x2") :: withoutRecipient).reverse)
    (∀ o, Kind.transaction.decode o (Json.write creation.toJson) = .ok creation ∧
      Kind.transaction.decode o edited = .ok creation) ∧
    ∀ o, ∃ f, Kind.transaction.decode o (Json.write (.object [])) = .error (.undecodable f) := by
  have leaves : ∀ m ∈ withoutRecipient, Json.Leaf m.2 := fun m hm ↦
    creation.leaf_members m ((List.mem_append.1 hm).elim List.mem_of_mem_take List.mem_of_mem_drop)
  have leaves' : ∀ m ∈ ("type", .text "0x2") :: withoutRecipient, Json.Leaf m.2 :=
    List.forall_mem_cons.2 ⟨.text _, leaves⟩
  have reversed : ∀ m ∈ (("type", .text "0x2") :: withoutRecipient).reverse, Json.Leaf m.2 :=
    fun m hm ↦ leaves' m (List.mem_reverse.1 hm)
  let written : {j // Sound Json.memberDepth j} :=
    ⟨creation.toJson, sound_leaves (by decide) creation.leaf_members⟩
  let moved : {j // Sound Json.memberDepth j} := ⟨.object (("to", .null) :: withoutRecipient),
    sound_leaves (by decide) (List.forall_mem_cons.2 ⟨.null, leaves⟩)⟩
  let dropped : {j // Sound Json.memberDepth j} :=
    ⟨.object withoutRecipient, sound_leaves (by decide) leaves⟩
  let added : {j // Sound Json.memberDepth j} :=
    ⟨.object (("type", .text "0x2") :: withoutRecipient), sound_leaves (by decide) leaves'⟩
  let edited : {j // Sound Json.memberDepth j} :=
    ⟨.object (("type", .text "0x2") :: withoutRecipient).reverse, sound_leaves (by decide) reversed⟩
  have perm : creation.members.Perm (("to", .null) :: withoutRecipient) :=
    @List.perm_middle _ _ (creation.members.take 6) (creation.members.drop 7)
  have move : Edit (.record .transaction) written.1 moved.1 := .permute perm
  have drop : Edit (.record .transaction) dropped.1 moved.1 := .absent (by decide)
  have add : Edit (.record .transaction) dropped.1 added.1 := .unknown _ (by decide +kernel)
  have turn : Edit (.record .transaction) added.1 edited.1 := .permute (List.reverse_perm _).symm
  have edits : Relation.EqvGen (fun a b ↦ Edit (.record .transaction) a.1 b.1) written edited :=
    .trans _ _ _ (.rel _ _ move) (.trans _ _ _ (.symm _ _ (.rel _ _ drop))
      (.trans _ _ _ (.rel _ _ add) (.rel _ _ turn)))
  have parsed : Json.parse (Json.write creation.toJson) = ⟨written.1, false⟩ :=
    Json.parse_write creation.plain_toJson
  have parsed' : Json.parse (Json.write edited.1) = ⟨edited.1, false⟩ :=
    Json.parse_write (.object fun m hm ↦ (reversed m hm).plain)
  have first : Kind.transaction.decode .text (Json.write creation.toJson) = .ok creation := by
    refine toOption_eq_some_iff.1 ((decode_toOption parsed written.2 .text).trans ?_)
    exact toOption_eq_some_iff.2 (creation.ofJson_toJson .text)
  refine ⟨fun o ↦ ?_, ?_⟩
  · obtain ⟨r, same⟩ | none := (decode_invariant .transaction edits parsed parsed').1
    · cases first.symm.trans (same .text).1
      exact same o
    · obtain ⟨⟨f, failed⟩, -⟩ := none .text
      cases first.symm.trans failed
  · let empty : {j // Sound Json.memberDepth j} := ⟨.object [], sound_leaves (by decide) nofun⟩
    have parsed : Json.parse (Json.write (.object [])) = ⟨empty.1, false⟩ :=
      Json.parse_write (.object nofun)
    have faulty : Faulty (.record .transaction) empty.1 :=
      @Faulty.missing .transaction "hash" [] (by decide) List.not_mem_nil
    exact (decode_invariant .transaction (.refl empty) parsed parsed).2 faulty

/-! ## Strings that are no texts -/

/-- A transaction with a note that is no text, as its only escape is half of a pair. -/
def unpaired : String :=
  "\x7b\"hash\":\"0xa1\",\"nonce\":\"0x2\",\"from\":\"0xf0\",\"value\":\"0x0\"," ++
  "\"gas\":\"0x1\",\"input\":\"0x\",\"note\":\"\\ud800\"\x7d"

/-- Whether a value is an object of strings, whose keys are all different. -/
def isFlat : Json → Bool
  | .obj ms closed => closed && decide (ms.map Prod.fst).Nodup &&
      ms.all fun m ↦ match m.2 with
        | .str _ => true
        | _ => false
  | _ => false

/-- The note is skipped where the transaction is read along with its text, as it is no field, but it
cannot be settled.  So the two ways of reading part at this object, although its keys are all
different and there are neither numbers nor objects in it. -/
theorem decode_unpaired :
    (Json.parse unpaired).trailing = false ∧ isFlat (Json.parse unpaired).value = true ∧
    (∃ t, Kind.transaction.decode .text unpaired = .ok t) ∧
    Kind.transaction.decode .value unpaired = .error (.undecodable .malformed) := by
  have along : (Kind.transaction.decode .text unpaired).toOption.isSome = true := by decide +kernel
  obtain ⟨t, decoded⟩ := Option.isSome_iff_exists.1 along
  exact ⟨by decide +kernel, by decide +kernel, ⟨t, toOption_eq_some_iff.1 decoded⟩,
    by decide +kernel⟩

end LedgerQuery.Chain
