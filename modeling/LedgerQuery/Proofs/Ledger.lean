import LedgerQuery.Node.Ledger
import LedgerQuery.Proofs.Keyed

/-!
# What a ledger finds

The three indexes of a ledger, read off the list of blocks that it was filled with: an index holds
the last block, or the last transaction, with a given key (`blockAt_byNumber`, `blockAt_byHash`,
`transactions_ofBlocks`).  Where nothing in the list stands twice (`Coherent`), every lookup finds
exactly the one block or transaction that it asks for.
-/

namespace LedgerQuery.Chain

theorem Quantity.val_injective {width : Nat} :
    Function.Injective (@Quantity.val width) := by
  rintro ⟨m, hm⟩ ⟨n, hn⟩ h
  cases h
  rfl

end LedgerQuery.Chain

namespace LedgerQuery.Node

open Chain

/-- A list of blocks in which no number and no hash stands twice, hashes being compared in lower
case, and in which every transaction tells the block that it stands in. -/
structure Coherent (bs : List Block) : Prop where
  numbers : (bs.map fun b ↦ b.number).Nodup
  hashes : (bs.map fun b ↦ Text.lower b.hash).Nodup
  transactions : ((bs.flatMap Block.transactions).map fun x ↦ Text.lower x.hash).Nodup
  located : ∀ b ∈ bs, ∀ x ∈ b.transactions, x.blockNumber = some b.number

def twoBlocks : List Block :=
  let transaction (hash : String) (n : Quantity 64) : Transaction :=
    { (default : Transaction) with hash := hash, blockNumber := some n }
  let block (hash : String) (n : Quantity 64) (xs : List Transaction) : Block :=
    { (default : Block) with hash := hash, number := n, transactions := xs }
  [ block "0xA" ⟨1, by decide⟩ [transaction "0xC" ⟨1, by decide⟩],
    block "0xB" ⟨2, by decide⟩ [transaction "0xD" ⟨2, by decide⟩] ]

theorem coherent_twoBlocks : Coherent twoBlocks where
  numbers := by decide
  hashes := by decide
  transactions := by decide
  located := by decide

namespace Ledger

/-! ## Indexes -/

/-- The last block of a list comes to the ledger last. -/
theorem ofBlocks_concat (bs : List Block) (b : Block) :
    ofBlocks (bs ++ [b]) = (ofBlocks bs).insert b := by
  simp only [ofBlocks, List.foldl_append, List.foldl_cons, List.foldl_nil]

theorem blocks_ofBlocks (bs : List Block) : (ofBlocks bs).blocks = bs := by
  induction bs using List.reverseRecOn with
  | nil => rfl
  | append_singleton bs b ih => rw [ofBlocks_concat, insert, ih]

/-- The positions of blocks under keys, as an index keeps them. -/
def positionsBy {κ : Type} [BEq κ] (key : Block → κ) (bs : List Block) : List (κ × Nat) :=
  Keyed.ofPairs (bs.zipIdx.map fun p ↦ (key p.1, p.2))

/-- The position of the last block is filed last. -/
theorem positionsBy_concat {κ : Type} [BEq κ] (key : Block → κ) (bs : List Block) (b : Block) :
    positionsBy key (bs ++ [b]) = Keyed.insert (key b) bs.length (positionsBy key bs) := by
  simp only [positionsBy, List.zipIdx_append, List.map_append, List.zipIdx_singleton,
    List.map_singleton, Keyed.ofPairs_concat, Nat.zero_add]

/-- Blocks are found by number under the positions of the list. -/
theorem byNumber_ofBlocks (bs : List Block) :
    (ofBlocks bs).byNumber = positionsBy (fun b ↦ b.number.val) bs := by
  induction bs using List.reverseRecOn with
  | nil => rfl
  | append_singleton bs b ih =>
    rw [ofBlocks_concat, positionsBy_concat, ← ih, insert, blocks_ofBlocks]

/-- Blocks are found by hash under the positions of the list, up to the case of the hash. -/
theorem byHash_ofBlocks (bs : List Block) :
    (ofBlocks bs).byHash = positionsBy (fun b ↦ Text.lower b.hash) bs := by
  induction bs using List.reverseRecOn with
  | nil => rfl
  | append_singleton bs b ih =>
    rw [ofBlocks_concat, positionsBy_concat, ← ih, insert, blocks_ofBlocks]

/-- Transactions are found by hash under their place among those of all blocks. -/
theorem transactions_ofBlocks (bs : List Block) :
    (ofBlocks bs).transactions =
      Keyed.index (fun x ↦ Text.lower x.hash) (bs.flatMap Block.transactions) := by
  induction bs using List.reverseRecOn with
  | nil => rfl
  | append_singleton bs b ih =>
    rw [ofBlocks_concat, insert, ih, List.flatMap_append, List.flatMap_singleton, Keyed.index,
      Keyed.index, List.foldl_append, insertTransactions]

/-- Every position in an index is that of a block. -/
theorem lt_length_of_lookup {κ : Type} [BEq κ] [LawfulBEq κ] {key : Block → κ} {bs : List Block}
    {k : κ} {i : Nat} (h : (positionsBy key bs).lookup k = some i) : i < bs.length := by
  obtain ⟨_, _, hm, -⟩ := List.lookup_eq_some_iff.1 h
  have hi : (k, i) ∈ positionsBy key bs := by simp [hm]
  obtain ⟨⟨b, j⟩, hb, hj⟩ := List.mem_map.1 (Keyed.mem_of_mem_ofPairs hi)
  cases hj
  obtain ⟨-, hlt, -⟩ := List.mem_zipIdx hb
  omega

/-- An index leads to the last block with a key. -/
theorem bind_lookup_positionsBy {κ : Type} [BEq κ] [LawfulBEq κ] (key : Block → κ)
    (bs : List Block) (k : κ) :
    ((positionsBy key bs).lookup k).bind (fun i ↦ bs[i]?) =
      bs.reverse.find? fun b ↦ k == key b := by
  induction bs using List.reverseRecOn with
  | nil => rfl
  | append_singleton bs b ih =>
    rw [positionsBy_concat, Keyed.lookup_insert, List.reverse_concat, List.find?_cons, ← ih]
    cases hk : k == key b with
    | true => simp
    | false =>
      simp only [Bool.false_eq_true, if_false]
      cases hl : (positionsBy key bs).lookup k with
      | none => rfl
      | some i => exact List.getElem?_append_left (lt_length_of_lookup hl)

/-! ## Lookups where nothing stands twice -/

theorem blockAt_eq_ok_iff {l : Ledger} {position : Option Nat} {subject : String} {b : Block} :
    l.blockAt position subject = .ok b ↔ position.bind (fun i ↦ l.blocks[i]?) = some b := by
  rw [blockAt]
  cases position.bind (fun i ↦ l.blocks[i]?) <;> simp

/-- The block that is found under a key is the one that has the key. -/
theorem blockAt_positionsBy {κ : Type} [BEq κ] [LawfulBEq κ] {key : Block → κ} {bs : List Block}
    (h : (bs.map key).Nodup) {k : κ} {subject : String} {b : Block} :
    (ofBlocks bs).blockAt ((positionsBy key bs).lookup k) subject = .ok b ↔
      b ∈ bs ∧ key b = k := by
  rw [blockAt_eq_ok_iff, blocks_ofBlocks, bind_lookup_positionsBy,
    Keyed.find?_reverse_eq_some_iff h]

variable {bs : List Block}

/-- A lookup by number finds the block that has the number. -/
theorem answer_blockByNumber (h : Coherent bs) {n : Quantity 64} {b : Block} :
    (ofBlocks bs).answer (.blockByNumber n) = .ok b ↔ b ∈ bs ∧ b.number = n := by
  have hv : (bs.map fun b ↦ b.number.val).Nodup := by
    have := h.numbers.map Quantity.val_injective
    rwa [List.map_map] at this
  rw [answer, byNumber_ofBlocks, blockAt_positionsBy hv, Quantity.val_injective.eq_iff]

/-- A lookup by hash finds the block that has the hash, up to case. -/
theorem answer_blockByHash (h : Coherent bs) {hash : String} {b : Block} :
    (ofBlocks bs).answer (.blockByHash hash) = .ok b ↔
      b ∈ bs ∧ Text.lower b.hash = Text.lower hash := by
  rw [answer, byHash_ofBlocks, blockAt_positionsBy h.hashes]

/-- The transactions of a number are those of the block that has it. -/
theorem answer_transactionsOf (h : Coherent bs) {n : Quantity 64} {xs : List Transaction} :
    (ofBlocks bs).answer (.transactionsOf n) = .ok xs ↔
      ∃ b ∈ bs, b.number = n ∧ b.transactions = xs := by
  have ha : (ofBlocks bs).answer (.transactionsOf n) =
      ((ofBlocks bs).answer (.blockByNumber n)).map Block.transactions := rfl
  constructor
  · intro hx
    rw [ha] at hx
    cases hb : (ofBlocks bs).answer (.blockByNumber n) with
    | error f => rw [hb] at hx; cases hx
    | ok b =>
      rw [hb] at hx; cases hx
      obtain ⟨hm, hn⟩ := (answer_blockByNumber h).1 hb
      exact ⟨b, hm, hn, rfl⟩
  · rintro ⟨b, hm, hn, rfl⟩
    rw [ha, (answer_blockByNumber h).2 ⟨hm, hn⟩]
    rfl

/-- A transaction is found by its hash, up to case. -/
theorem answer_transactionByHash (h : Coherent bs) {hash : String} {x : Transaction} :
    (ofBlocks bs).answer (.transactionByHash hash) = .ok x ↔
      x ∈ bs.flatMap Block.transactions ∧ Text.lower x.hash = Text.lower hash := by
  rw [answer, transactions_ofBlocks, ← Keyed.lookup_index_of_nodup h.transactions]
  cases (Keyed.index (fun x : Transaction ↦ Text.lower x.hash)
    (bs.flatMap Block.transactions)).lookup (Text.lower hash) <;> simp

end Ledger

end LedgerQuery.Node
