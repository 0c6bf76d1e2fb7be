import LedgerQuery.Node.Ledger
import LedgerQuery.Proofs.JsonText
import LedgerQuery.Proofs.Shape

/-!
# Records survive their text

Blocks and transactions come back from the text that is written of them, read along with the text or
from the value that the text is settled into (`records_roundTrip`).  A record is written with its
members in the order of the fields (`Transaction.spelled`, `Block.spelled`).  Most of them are
leaves, which are settled into themselves; only the transactions of a block are sorted inside
(`Block.settle_toJson`).
-/

namespace LedgerQuery

namespace Json

variable {α : Type}

/-! ## Readers and what is written for them -/

theorem text_ne_null (s : String) : text s ≠ .null := by
  rintro ⟨⟩

/-- A nullable value is read back if the value itself is and is not written as `null`. -/
theorem readNullable_nullableToJson {r : Json → Except Fault α} {f : α → Json}
    (h : ∀ a, r (f a) = .ok a) (hf : ∀ a, f a ≠ .null) (o : Option α) :
    readNullable r (Chain.nullableToJson f o) = .ok o := by
  cases o with
  | none => rfl
  | some a =>
    rw [Chain.nullableToJson, readNullable, h]
    · rfl
    · exact hf a

/-- A list is read back if each of its items is. -/
theorem readList_map {r : Json → Except Fault α} {f : α → Json} {as : List α}
    (h : ∀ a ∈ as, r (f a) = .ok a) : readList r (.list (as.map f)) = .ok as := by
  have read : (as.map f).mapM r = .ok as := by
    induction as with
    | nil => rfl
    | cons a as ih =>
      rw [List.forall_mem_cons] at h
      rw [List.map_cons, List.mapM_cons, h.1, ih h.2]
      rfl
  rw [list, readList, read]
  rfl

/-! ## Leaves -/

/-- A text or `null`. -/
inductive Leaf : Json → Prop
  | null : Leaf .null
  | text (s : String) : Leaf (.text s)

theorem Leaf.plain {j : Json} (h : Leaf j) : Plain j := by
  cases h with
  | null => exact .null
  | text s => exact .text s

/-- A leaf stays as it is when a tree is settled. -/
theorem Leaf.settle {j : Json} (h : Leaf j) (depth : Nat) : j.settle depth = some j := by
  cases h with
  | null => rw [Json.settle]
  | text s => rw [Json.text, Json.settle]

theorem leaf_nullableToJson {f : α → Json} (h : ∀ a, Leaf (f a)) (o : Option α) :
    Leaf (Chain.nullableToJson f o) := by
  cases o with
  | none => exact .null
  | some a => exact h a

/-- A list whose items settle to the values of another function settles to the list of these. -/
theorem settleItems_map {f g : α → Json} {depth : Nat} {as : List α}
    (h : ∀ a ∈ as, (f a).settle depth = some (g a)) :
    settleItems depth (as.map f) = some (as.map g) := by
  induction as with
  | nil => rfl
  | cons a as ih =>
    rw [List.forall_mem_cons] at h
    rw [List.map_cons, settleItems, h.1, ih h.2]
    rfl

/-- A member and members that settle on their own settle together. -/
theorem settleMembers_cons {depth : Nat} {j v : Json} {ms vs : List (String × Json)} (k : String)
    (hj : j.settle depth = some v)
    (hm : settleMembers depth (ms.map fun m ↦ (some m.1, m.2)) = some vs) :
    settleMembers depth (((k, j) :: ms).map fun m ↦ (some m.1, m.2)) = some ((k, v) :: vs) := by
  rw [List.map_cons, settleMembers, hj, hm]
  rfl

/-- Members that settle in two parts settle as a whole. -/
theorem settleMembers_append {depth : Nat} {ms ns vs ws : List (String × Json)}
    (hm : settleMembers depth (ms.map fun m ↦ (some m.1, m.2)) = some vs)
    (hn : settleMembers depth (ns.map fun m ↦ (some m.1, m.2)) = some ws) :
    settleMembers depth ((ms ++ ns).map fun m ↦ (some m.1, m.2)) = some (vs ++ ws) := by
  induction ms generalizing vs with
  | nil =>
    cases hm
    exact hn
  | cons m ms ih =>
    rw [List.map_cons, settleMembers] at hm
    obtain ⟨v, hv, hm⟩ := Option.bind_eq_some_iff.1 hm
    obtain ⟨vs, hvs, hm⟩ := Option.bind_eq_some_iff.1 hm
    cases hm
    rw [List.cons_append, List.map_cons, settleMembers, hv, ih hvs]
    rfl

theorem settleMembers_map {depth : Nat} {ms : List (String × Json)} {g : String × Json → Json}
    (h : ∀ m ∈ ms, m.2.settle depth = some (g m)) :
    settleMembers depth (ms.map fun m ↦ (some m.1, m.2)) = some (ms.map fun m ↦ (m.1, g m)) := by
  induction ms with
  | nil => rfl
  | cons m ms ih =>
    rw [List.forall_mem_cons] at h
    exact settleMembers_cons m.1 h.1 (ih h.2)

/-- Members with leaves alone settle to themselves. -/
theorem settleMembers_leaves {depth : Nat} {ms : List (String × Json)} (h : ∀ m ∈ ms, Leaf m.2) :
    settleMembers depth (ms.map fun m ↦ (some m.1, m.2)) = some ms := by
  have settled := settleMembers_map fun m hm ↦ (h m hm).settle depth
  rwa [List.map_id'] at settled

theorem settle_list {depth : Nat} {js vs : List Json} (h : settleItems depth js = some vs) :
    (list js).settle (depth + 1) = some (list vs) := by
  simp [list, settle, h]

/-- An object settles if its members do, to the one with these members in order of their names. -/
theorem settle_object {depth : Nat} {ms vs : List (String × Json)}
    (h : settleMembers depth (ms.map fun m ↦ (some m.1, m.2)) = some vs) :
    (object ms).settle (depth + 1) = some (object (sortMembers vs)) := by
  simp [object, settle, h]

end Json

namespace Chain

open Json (Leaf Plain Shape leaf_nullableToJson)

/-! ## Quantities -/

namespace Quantity

variable {width : Nat}

/-- A quantity is parsed back from its digits, if it is at most as wide as all that is parsed. -/
theorem parse_render (h : width ≤ 128) (q : Quantity width) : parse q.render = .ok q.val := by
  have digits : Number.Writes 16 _ _ := Number.writes_toDigits (by decide) (by decide) q.val
  have small : q.val < 2 ^ 128 := q.isLt.trans_le (Nat.pow_le_pow_right (by decide) h)
  simp [parse, render, Number.hexDigits, digits.ne_nil, Number.read_of_writes digits small]

theorem read_render (h : width ≤ 128) (q : Quantity width) : read width q.render = .ok q := by
  simp only [read, parse_render h, ofNat?_val]

/-- A quantity is read back from the text that it is written as. -/
theorem ofJson_toJson (h : width ≤ 128) (q : Quantity width) : ofJson width q.toJson = .ok q := by
  rw [ofJson, toJson, Json.text, Json.readText]
  simp only [read_render h]

theorem leaf_toJson (q : Quantity width) : Leaf q.toJson := .text _

end Quantity

/-! ## Fields -/

section Fields

variable {name : String} {width : Nat}

theorem spelled_text (s : String) :
    (Shape.required name Json.readText).Spelled [(name, .text s)] s :=
  .required rfl

/-- A nullable field is spelled by the text or by `null`. -/
theorem spelled_nullable_text (o : Option String) :
    (Shape.nullable name Json.readText).Spelled [(name, nullableToJson .text o)] o :=
  .optional (Json.readNullable_nullableToJson (f := Json.text) (fun _ ↦ rfl) Json.text_ne_null o)

theorem spelled_quantity (h : width ≤ 128) (q : Quantity width) :
    (Shape.required name (Quantity.ofJson width)).Spelled [(name, q.toJson)] q :=
  .required (q.ofJson_toJson h)

/-- A nullable field is spelled by the digits of a quantity or by `null`. -/
theorem spelled_nullable_quantity (h : width ≤ 128) (o : Option (Quantity width)) :
    (Shape.nullable name (Quantity.ofJson width)).Spelled
      [(name, nullableToJson Quantity.toJson o)] o :=
  .optional (Json.readNullable_nullableToJson (Quantity.ofJson_toJson h)
    (fun _ ↦ Json.text_ne_null _) o)

end Fields

/-! ## Transactions -/

namespace Transaction

def members (t : Transaction) : List (String × Json) :=
  [ ("hash", .text t.hash),
    ("nonce", t.nonce.toJson),
    ("blockHash", nullableToJson .text t.blockHash),
    ("blockNumber", nullableToJson Quantity.toJson t.blockNumber),
    ("transactionIndex", nullableToJson Quantity.toJson t.transactionIndex),
    ("from", .text t.sender),
    ("to", nullableToJson .text t.recipient),
    ("value", t.value.toJson),
    ("gas", t.gas.toJson),
    ("gasPrice", nullableToJson Quantity.toJson t.gasPrice),
    ("input", .text t.input) ]

theorem toJson_eq (t : Transaction) : t.toJson = .object t.members := rfl

theorem leaf_members (t : Transaction) : ∀ m ∈ t.members, Leaf m.2 := by
  simp only [members, List.forall_mem_cons]
  exact ⟨.text _, Quantity.leaf_toJson _, leaf_nullableToJson .text _,
    leaf_nullableToJson Quantity.leaf_toJson _, leaf_nullableToJson Quantity.leaf_toJson _, .text _,
    leaf_nullableToJson .text _, Quantity.leaf_toJson _, Quantity.leaf_toJson _,
    leaf_nullableToJson Quantity.leaf_toJson _, .text _, fun _ h ↦ absurd h List.not_mem_nil⟩

/-- The members of a transaction spell it for its shape. -/
theorem spelled (t : Transaction) : shape.Spelled t.members t :=
  Shape.Spelled.pure mk
    |>.seq (spelled_text _)
    |>.seq (spelled_quantity (by decide) _)
    |>.seq (spelled_nullable_text _)
    |>.seq (spelled_nullable_quantity (by decide) _)
    |>.seq (spelled_nullable_quantity (by decide) _)
    |>.seq (spelled_text _)
    |>.seq (spelled_nullable_text _)
    |>.seq (spelled_quantity (by decide) _)
    |>.seq (spelled_quantity (by decide) _)
    |>.seq (spelled_nullable_quantity (by decide) _)
    |>.seq (spelled_text _)

/-- No field of a transaction is named twice. -/
theorem nodup_fields : (shape.fields.map Json.Field.name).Nodup := by decide +kernel

/-- A transaction is read back from the object that it is written as, as a text or as a value. -/
theorem ofJson_toJson (t : Transaction) (origin : Json.Origin) : ofJson origin t.toJson = .ok t :=
  t.spelled.read nodup_fields (.refl _) "Transaction" origin

theorem plain_toJson (t : Transaction) : Plain t.toJson :=
  .object fun m hm ↦ (t.leaf_members m hm).plain

/-- A transaction with its members in the order of their keys. -/
def settled (t : Transaction) : Json := .object (Json.sortMembers t.members)

/-- The object of a transaction settles to one with the same members in another order. -/
theorem settle_toJson (t : Transaction) (depth : Nat) :
    t.toJson.settle (depth + 1) = some t.settled := by
  rw [toJson_eq, Json.settle_object (Json.settleMembers_leaves t.leaf_members), settled]

/-- A transaction is also read back from its settled object. -/
theorem ofJson_settled (t : Transaction) (origin : Json.Origin) :
    ofJson origin t.settled = .ok t := by
  have hk : (t.members.map Prod.fst).Nodup := t.spelled.names ▸ nodup_fields
  exact t.spelled.read nodup_fields (Json.perm_sortMembers hk) "Transaction" origin

end Transaction

/-! ## Blocks -/

namespace Block

/-- The members of a block before its transactions and uncles. -/
def header (b : Block) : List (String × Json) :=
  [ ("number", b.number.toJson),
    ("hash", .text b.hash),
    ("parentHash", .text b.parentHash),
    ("nonce", nullableToJson .text b.nonce),
    ("sha3Uncles", .text b.sha3Uncles),
    ("logsBloom", nullableToJson .text b.logsBloom),
    ("transactionsRoot", .text b.transactionsRoot),
    ("stateRoot", .text b.stateRoot),
    ("receiptsRoot", .text b.receiptsRoot),
    ("miner", .text b.miner),
    ("difficulty", b.difficulty.toJson),
    ("totalDifficulty", nullableToJson Quantity.toJson b.totalDifficulty),
    ("extraData", .text b.extraData),
    ("size", b.size.toJson),
    ("gasLimit", b.gasLimit.toJson),
    ("gasUsed", b.gasUsed.toJson),
    ("timestamp", b.timestamp.toJson) ]

/-- The members of a block whose transactions are written with `write`. -/
def members (b : Block) (write : Transaction → Json) : List (String × Json) :=
  b.header ++ [
    ("transactions", .list (b.transactions.map write)),
    ("uncles", .list (b.uncles.map Json.text))]

theorem leaf_header (b : Block) : ∀ m ∈ b.header, Leaf m.2 := by
  simp only [header, List.forall_mem_cons]
  exact ⟨Quantity.leaf_toJson _, .text _, .text _, leaf_nullableToJson .text _, .text _,
    leaf_nullableToJson .text _, .text _, .text _, .text _, .text _, Quantity.leaf_toJson _,
    leaf_nullableToJson Quantity.leaf_toJson _, .text _, Quantity.leaf_toJson _,
    Quantity.leaf_toJson _, Quantity.leaf_toJson _, Quantity.leaf_toJson _,
    fun _ h ↦ absurd h List.not_mem_nil⟩

/-- The members of a block spell it, whatever its transactions are written as, if these are read
back. -/
theorem spelled (b : Block) {origin : Json.Origin} {write : Transaction → Json}
    (h : ∀ t, Transaction.ofJson origin (write t) = .ok t) :
    (shape origin).Spelled (b.members write) b := by
  have fields : (shape origin).Spelled _ _ :=
    Shape.Spelled.pure mk
      |>.seq (spelled_quantity (by decide) b.number)
      |>.seq (spelled_text b.hash)
      |>.seq (spelled_text b.parentHash)
      |>.seq (spelled_nullable_text b.nonce)
      |>.seq (spelled_text b.sha3Uncles)
      |>.seq (spelled_nullable_text b.logsBloom)
      |>.seq (spelled_text b.transactionsRoot)
      |>.seq (spelled_text b.stateRoot)
      |>.seq (spelled_text b.receiptsRoot)
      |>.seq (spelled_text b.miner)
      |>.seq (spelled_quantity (by decide) b.difficulty)
      |>.seq (spelled_nullable_quantity (by decide) b.totalDifficulty)
      |>.seq (spelled_text b.extraData)
      |>.seq (spelled_quantity (by decide) b.size)
      |>.seq (spelled_quantity (by decide) b.gasLimit)
      |>.seq (spelled_quantity (by decide) b.gasUsed)
      |>.seq (spelled_quantity (by decide) b.timestamp)
      |>.seq (.optional (Json.readList_map fun t (_ : t ∈ b.transactions) ↦ h t))
      |>.seq (.optional (Json.readList_map (f := Json.text) fun s (_ : s ∈ b.uncles) ↦ rfl))
  simpa only [List.nil_append, List.cons_append, members, header] using fields

/-- No field of a block is named twice. -/
theorem nodup_fields (origin : Json.Origin) :
    ((shape origin).fields.map Json.Field.name).Nodup := by
  cases origin <;> decide +kernel

/-- A block is read back from the object that it is written as. -/
theorem ofJson_toJson (b : Block) (origin : Json.Origin) : ofJson origin b.toJson = .ok b :=
  (b.spelled fun t ↦ t.ofJson_toJson origin).read (nodup_fields origin) (.refl _) "Block" origin

theorem plain_toJson (b : Block) : Plain b.toJson := by
  refine .object (List.forall_mem_append.2 ⟨fun m hm ↦ (b.leaf_header m hm).plain, ?_⟩)
  rw [List.forall_mem_cons, List.forall_mem_singleton]
  constructor
  · exact .list (List.forall_mem_map.2 fun t _ ↦ t.plain_toJson)
  · exact .list (List.forall_mem_map.2 fun s _ ↦ .text s)

/-- A block with all members in the order of their keys. -/
def settled (b : Block) : Json := .object (Json.sortMembers (b.members Transaction.settled))

/-- The object of a block settles where its transactions do, two levels below. -/
theorem settle_toJson (b : Block) (depth : Nat) : b.toJson.settle (depth + 3) = some b.settled := by
  have transactions : Json.settleItems (depth + 1) (b.transactions.map Transaction.toJson) =
      some (b.transactions.map Transaction.settled) :=
    Json.settleItems_map fun t _ ↦ t.settle_toJson depth
  have uncles : Json.settleItems (depth + 1) (b.uncles.map Json.text) =
      some (b.uncles.map Json.text) :=
    Json.settleItems_map fun s _ ↦ (Leaf.text s).settle _
  have rest := Json.settleMembers_cons "transactions" (Json.settle_list transactions)
    (Json.settleMembers_cons "uncles" (Json.settle_list uncles)
      (Json.settleMembers_leaves (List.forall_mem_nil _)))
  exact Json.settle_object
    (Json.settleMembers_append (Json.settleMembers_leaves b.leaf_header) rest)

/-- A block is also read back from its settled object. -/
theorem ofJson_settled (b : Block) (origin : Json.Origin) : ofJson origin b.settled = .ok b := by
  have spelled := b.spelled fun t ↦ t.ofJson_settled origin
  have hk : ((b.members Transaction.settled).map Prod.fst).Nodup :=
    spelled.names ▸ nodup_fields origin
  exact spelled.read (nodup_fields origin) (Json.perm_sortMembers hk) "Block" origin

end Block

end Chain

/-! ## Round trips -/

namespace Json

variable {α : Type} {toJson : α → Json} {ofJson : Origin → Json → Except Fault α} {nesting : Nat}

/-- Records of a kind come back from what is written of them. -/
structure RoundTrips (toJson : α → Json) (ofJson : Origin → Json → Except Fault α)
    (nesting : Nat) : Prop where
  /-- From its text a record is read again, and nothing else. -/
  text (a : α) : (parse (write (toJson a))).read (ofJson .text) = .ok a
  /-- The text can be settled into a value first, as soon as that may be nested deeply enough. -/
  value (a : α) (depth : Nat) (h : nesting ≤ depth) :
    ∃ v, (parse (write (toJson a))).read (fun j ↦ .ok (j.settle depth)) = .ok (some v) ∧
      ofJson .value v = .ok a
  /-- Any text of a record is turned into one that stands for the same record and stays as it is. -/
  again (s : String) (a : α) (h : (parse s).read (ofJson .text) = .ok a) :
    (parse (write (toJson a))).read (ofJson .text) = .ok a ∧
      ∀ b, (parse (write (toJson a))).read (ofJson .text) = .ok b →
        write (toJson b) = write (toJson a)

/-- The document that is written of a value is read as this value. -/
theorem read_parse_write {j : Json} (h : Plain j) (r : Json → Except Fault α) :
    (parse (write j)).read r = r j := by
  rw [parse_write h, Document.read]
  cases r j <;> rfl

/-- What is written as plain trees makes a round trip if it is read back from these and from what
they settle to. -/
theorem RoundTrips.of_plain (plain : ∀ a, Plain (toJson a))
    (read : ∀ a, ofJson .text (toJson a) = .ok a)
    (settled : ∀ a depth, nesting ≤ depth →
      ∃ v, (toJson a).settle depth = some v ∧ ofJson .value v = .ok a) :
    RoundTrips toJson ofJson nesting where
  text a := by rw [read_parse_write (plain a), read]
  value a depth h := by
    obtain ⟨v, hv, ha⟩ := settled a depth h
    exact ⟨v, by rw [read_parse_write (plain a), hv], ha⟩
  again s a _ := by
    rw [read_parse_write (plain a), read]
    exact ⟨rfl, fun b hb ↦ by cases hb; rfl⟩

end Json

namespace Node

open Chain

/-- Blocks and transactions are read again from what is written of them, and a ledger that is read
from a list of blocks is the one that is filled with them. -/
theorem records_roundTrip :
    Json.RoundTrips Transaction.toJson Transaction.ofJson 1 ∧
    Json.RoundTrips Block.toJson Block.ofJson 3 ∧
    ∀ bs : List Block,
      Ledger.ofJson (Json.write (.list (bs.map Block.toJson))) = .ok (Ledger.ofBlocks bs) := by
  refine ⟨.of_plain Transaction.plain_toJson (fun t ↦ t.ofJson_toJson _) ?_,
    .of_plain Block.plain_toJson (fun b ↦ b.ofJson_toJson _) ?_, fun bs ↦ ?_⟩
  · intro t depth h
    obtain ⟨depth, rfl⟩ := Nat.exists_eq_add_of_le' h
    exact ⟨t.settled, t.settle_toJson depth, t.ofJson_settled .value⟩
  · intro b depth h
    obtain ⟨depth, rfl⟩ := Nat.exists_eq_add_of_le' h
    exact ⟨b.settled, b.settle_toJson depth, b.ofJson_settled .value⟩
  · have plain : Json.Plain (.list (bs.map Block.toJson)) :=
      .list (List.forall_mem_map.2 fun b _ ↦ b.plain_toJson)
    rw [Ledger.ofJson, Json.read_parse_write plain, Json.readList_map fun b _ ↦ b.ofJson_toJson _]

end Node

end LedgerQuery
