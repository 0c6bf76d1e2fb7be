import LedgerQuery.Proofs.Combine
import LedgerQuery.Proofs.Evaluation
import LedgerQuery.Proofs.Ledger

/-!
# Lookups against a scan

A node cannot scan its records, so a condition is answered by lookups that are combined by identity.
Over a coherent list of blocks this gives what a scan would give: `mem_evaluate_iff_mem_scan` says
that the records found are those of the table for which the condition holds, each of them once.

A condition is read here without any lookup: `Agrees` compares one field of one record, and `Holds`
joins comparisons by "all" and "some".
-/

namespace LedgerQuery.Query

open Chain
open Node (Lookup Ledger Coherent twoBlocks coherent_twoBlocks)

/-! ## Reading a condition on one record -/

/-- Whether a comparison of a column with a literal is true of a record. -/
def Agrees (column literal : String) : Record → Prop
  | .block b =>
    Text.lower column = "blocknumber" ∧ blockNumber? (Text.unquote literal) = some b.number ∨
      Text.lower column = "blockhash" ∧ Text.lower b.hash = Text.lower (Text.unquote literal)
  | .transaction x =>
    Text.lower column = "blocknumber" ∧
        (∃ n, blockNumber? (Text.unquote literal) = some n ∧ x.blockNumber = some n) ∨
      Text.lower column = "hash" ∧ Text.lower x.hash = Text.lower (Text.unquote literal)

/-- Whether a condition is true of a record: a conjunction if all of its operands are, a disjunction
if one of them is. -/
def Holds (r : Record) : Predicate → Prop
  | .equals column literal => Agrees column literal r
  | .logical .and ps => ∀ p ∈ ps, Holds r p
  | .logical .or ps => ∃ p, ∃ _ : p ∈ ps, Holds r p

theorem holds_and {r : Record} {p q : Predicate} :
    Holds r (.logical .and [p, q]) ↔ Holds r p ∧ Holds r q := by
  simp [Holds]

theorem holds_or {r : Record} {p q : Predicate} :
    Holds r (.logical .or [p, q]) ↔ Holds r p ∨ Holds r q := by
  simp [Holds]

def scan (bs : List Block) : Table → List Record
  | .blocks => bs.map .block
  | .transactions => (bs.flatMap Block.transactions).map .transaction

variable {bs : List Block} {t : Table}

/-! ## Records of a coherent list -/

theorem nodup_hashes_of_lower {α : Type} {hash : α → String} {as : List α}
    (h : (as.map fun a ↦ Text.lower (hash a)).Nodup) : (as.map hash).Nodup :=
  List.Nodup.of_map Text.lower (by rwa [List.map_map])

/-- Among the records of a table the identity tells them apart. -/
theorem nodup_identities_scan (h : Coherent bs) (t : Table) :
    ((scan bs t).map Record.identity).Nodup := by
  cases t with
  | blocks =>
    rw [scan, List.map_map]
    exact nodup_hashes_of_lower h.hashes
  | transactions =>
    rw [scan, List.map_map]
    exact nodup_hashes_of_lower h.transactions

/-- Records of one table with the same identity are the same. -/
theorem eq_of_mem_scan (h : Coherent bs) {r s : Record} (hr : r ∈ scan bs t) (hs : s ∈ scan bs t)
    (hi : r.identity = s.identity) : r = s :=
  List.inj_on_of_nodup_map (nodup_identities_scan h t) hr hs hi

/-- A block is told by its number. -/
theorem eq_of_number_eq (h : Coherent bs) {b c : Block} (hb : b ∈ bs) (hc : c ∈ bs)
    (hn : b.number = c.number) : b = c :=
  List.inj_on_of_nodup_map h.numbers hb hc hn

theorem nodup_transactions (h : Coherent bs) {b : Block} (hb : b ∈ bs) :
    (b.transactions.map Transaction.hash).Nodup := by
  refine (nodup_hashes_of_lower h.transactions).sublist (List.Sublist.map _ ?_)
  obtain ⟨before, after, rfl⟩ := List.append_of_mem hb
  rw [List.flatMap_append, List.flatMap_cons]
  exact (List.sublist_append_left _ _).trans (List.sublist_append_right _ _)

/-! ## One comparison -/

section Comparison

variable {column literal : String} {n : Quantity 64}

/-- A block agrees with its own number. -/
theorem agrees_block_of_number (hc : Text.lower column = "blocknumber")
    (hn : blockNumber? (Text.unquote literal) = some n) {b : Block} :
    Agrees column literal (.block b) ↔ b.number = n := by
  rw [Agrees, hc, hn]
  simp [eq_comm]

theorem agrees_transaction_of_number (hc : Text.lower column = "blocknumber")
    (hn : blockNumber? (Text.unquote literal) = some n) {x : Transaction} :
    Agrees column literal (.transaction x) ↔ x.blockNumber = some n := by
  rw [Agrees, hc, hn]
  simp

/-- A block agrees with its own hash, up to case. -/
theorem agrees_block_of_hash (hc : Text.lower column = "blockhash") {b : Block} :
    Agrees column literal (.block b) ↔ Text.lower b.hash = Text.lower (Text.unquote literal) := by
  rw [Agrees, hc]
  simp

theorem agrees_transaction_of_hash (hc : Text.lower column = "hash") {x : Transaction} :
    Agrees column literal (.transaction x) ↔
      Text.lower x.hash = Text.lower (Text.unquote literal) := by
  rw [Agrees, hc]
  simp

/-- What an evaluation has to find: the records of a table for which a condition holds. -/
structure Found (bs : List Block) (t : Table) (p : Predicate) (rs : List Record) : Prop where
  distinct : (rs.map Record.identity).Nodup
  mem_iff : ∀ r, r ∈ rs ↔ r ∈ scan bs t ∧ Holds r p

/-- One record that is the only one for which a comparison holds. -/
theorem Found.singleton {r : Record} (hr : r ∈ scan bs t) (ha : Agrees column literal r)
    (hu : ∀ s ∈ scan bs t, Agrees column literal s → s = r) :
    Found bs t (.equals column literal) [r] where
  distinct := List.nodup_singleton _
  mem_iff s := by
    rw [List.mem_singleton, Holds]
    constructor
    · rintro rfl
      exact ⟨hr, ha⟩
    · rintro ⟨hs, has⟩
      exact hu s hs has

/-- A lookup by number finds the records of the number. -/
theorem found_numberLookup (h : Coherent bs) (hc : Text.lower column = "blocknumber")
    (hn : blockNumber? (Text.unquote literal) = some n) {a : (numberLookup t n).Answer}
    (ha : (Ledger.ofBlocks bs).answer (numberLookup t n) = .ok a) :
    Found bs t (.equals column literal) ((numberLookup t n).records a) := by
  cases t with
  | blocks =>
    obtain ⟨hb, hbn⟩ := (Ledger.answer_blockByNumber h).1 ha
    apply Found.singleton (List.mem_map_of_mem hb) ((agrees_block_of_number hc hn).2 hbn)
    intro s hs has
    obtain ⟨b, hb', rfl⟩ := List.mem_map.1 hs
    rw [agrees_block_of_number hc hn] at has
    rw [eq_of_number_eq h hb' hb (has.trans hbn.symm)]
  | transactions =>
    obtain ⟨b, hb, hbn, rfl⟩ := (Ledger.answer_transactionsOf h).1 ha
    constructor
    · show ((b.transactions.map Record.transaction).map Record.identity).Nodup
      rw [List.map_map]
      exact nodup_transactions h hb
    · intro r
      show r ∈ b.transactions.map Record.transaction ↔ _
      rw [scan, Holds, List.mem_map, List.mem_map]
      constructor
      · rintro ⟨x, hx, rfl⟩
        refine ⟨⟨x, List.mem_flatMap.2 ⟨b, hb, hx⟩, rfl⟩, ?_⟩
        rw [agrees_transaction_of_number hc hn, h.located b hb x hx, hbn]
      · rintro ⟨⟨x, hx, rfl⟩, has⟩
        obtain ⟨b', hb', hx'⟩ := List.mem_flatMap.1 hx
        rw [agrees_transaction_of_number hc hn, h.located b' hb' x hx', Option.some_inj] at has
        rw [eq_of_number_eq h hb' hb (has.trans hbn.symm)] at hx'
        exact ⟨x, hx', rfl⟩

/-- A lookup by hash finds the record with the hash. -/
theorem found_identityLookup (h : Coherent bs) (hc : Text.lower column = t.identityColumn)
    {a : (identityLookup t (Text.unquote literal)).Answer}
    (ha : (Ledger.ofBlocks bs).answer (identityLookup t (Text.unquote literal)) = .ok a) :
    Found bs t (.equals column literal)
      ((identityLookup t (Text.unquote literal)).records a) := by
  cases t with
  | blocks =>
    obtain ⟨hb, hbh⟩ := (Ledger.answer_blockByHash h).1 ha
    apply Found.singleton (List.mem_map_of_mem hb) ((agrees_block_of_hash hc).2 hbh)
    intro s hs has
    obtain ⟨b, hb', rfl⟩ := List.mem_map.1 hs
    rw [agrees_block_of_hash hc] at has
    rw [List.inj_on_of_nodup_map h.hashes hb' hb (has.trans hbh.symm)]
  | transactions =>
    obtain ⟨hx, hxh⟩ := (Ledger.answer_transactionByHash h).1 ha
    apply Found.singleton (List.mem_map_of_mem hx) ((agrees_transaction_of_hash hc).2 hxh)
    intro s hs has
    obtain ⟨x, hx', rfl⟩ := List.mem_map.1 hs
    rw [agrees_transaction_of_hash hc] at has
    rw [List.inj_on_of_nodup_map h.transactions hx' hx (has.trans hxh.symm)]

/-- Whatever a comparison looks up are the records that agree with it. -/
theorem found_lookup (h : Coherent bs) {l : Lookup} (hl : lookup t column literal = .ok l)
    {a : l.Answer} (ha : (Ledger.ofBlocks bs).answer l = .ok a) :
    Found bs t (.equals column literal) (l.records a) := by
  cases lookup_eq_ok_iff.1 hl with
  | number hc hn => exact found_numberLookup h hc hn ha
  | identity hc => exact found_identityLookup h hc ha

end Comparison

/-! ## Connectives -/

/-- Combining finds what both conditions find, or either of them. -/
theorem Found.combine (h : Coherent bs) {op : Connective} {p q : Predicate}
    {first second : List Record} (hp : Found bs t p first) (hq : Found bs t q second) :
    Found bs t (.logical op [p, q]) (combine op first second) := by
  refine ⟨nodup_identities_combine op first second, fun r ↦ ?_⟩
  -- An identity of the first list that belongs to a record of the table belongs to this record.
  have hi : r ∈ scan bs t → (r.identity ∈ first.map Record.identity ↔ r ∈ first) := by
    intro hr
    constructor
    · intro hk
      obtain ⟨s, hs, hsr⟩ := List.mem_map.1 hk
      rwa [← eq_of_mem_scan h ((hp.mem_iff s).1 hs).1 hr hsr]
    · exact List.mem_map_of_mem
  cases op with
  | and =>
    rw [Query.combine, mem_intersect hq.distinct, hq.mem_iff, holds_and]
    constructor
    · rintro ⟨⟨hr, hrq⟩, hk⟩
      exact ⟨hr, ((hp.mem_iff r).1 ((hi hr).1 hk)).2, hrq⟩
    · rintro ⟨hr, hrp, hrq⟩
      exact ⟨⟨hr, hrq⟩, (hi hr).2 ((hp.mem_iff r).2 ⟨hr, hrp⟩)⟩
  | or =>
    rw [Query.combine, mem_union hp.distinct hq.distinct, hp.mem_iff, hq.mem_iff, holds_or]
    constructor
    · rintro (⟨hr, hrp⟩ | ⟨⟨hr, hrq⟩, -⟩)
      · exact ⟨hr, .inl hrp⟩
      · exact ⟨hr, .inr hrq⟩
    · rintro ⟨hr, hrp | hrq⟩
      · exact .inl ⟨hr, hrp⟩
      · by_cases hrp : Holds r p
        · exact .inl ⟨hr, hrp⟩
        · exact .inr ⟨⟨hr, hrq⟩, fun hk ↦ hrp ((hp.mem_iff r).1 ((hi hr).1 hk)).2⟩

/-! ## Any condition -/

/-- A lookup changes nothing in a ledger but its count. -/
theorem answer_of_client {l l' : Ledger} {q : Lookup} {a : Except Node.Failure q.Answer}
    (h : Ledger.client q l = (a, l')) : a = l.answer q ∧ l'.answer = l.answer := by
  cases h
  exact ⟨rfl, funext fun q ↦ by cases q <;> rfl⟩

/-- Over a coherent list of blocks, the records that a condition is answered by are those of the
table for which it holds, each of them once. -/
theorem mem_evaluate_iff_mem_scan (h : Coherent bs) {p : Predicate} {rs : List Record}
    {l : Ledger} (he : evaluate Ledger.client t p (Ledger.ofBlocks bs) = (.ok rs, l)) :
    (rs.map Record.identity).Nodup ∧ ∀ r, r ∈ rs ↔ r ∈ scan bs t ∧ Holds r p := by
  -- The ledger that the second operand asks differs from the first one's, but not in its answers.
  have run : ∀ {p : Predicate} {s : Ledger} {rs : List Record} {s' : Ledger},
      evaluate Ledger.client t p s = (.ok rs, s') →
        s.answer = (Ledger.ofBlocks bs).answer →
          Found bs t p rs ∧ s'.answer = (Ledger.ofBlocks bs).answer := by
    intro p s rs s' he
    refine evaluate_ok_induction (motive := fun p s rs s' ↦ s.answer = (Ledger.ofBlocks bs).answer →
      Found bs t p rs ∧ s'.answer = (Ledger.ofBlocks bs).answer) ?_ ?_ he
    · intro column literal l s a s' hl hc hs
      obtain ⟨ha, hs'⟩ := answer_of_client hc
      exact ⟨found_lookup h hl (hs ▸ ha.symm), hs'.trans hs⟩
    · intro op p q s first s₁ second s' hp hq hs
      obtain ⟨hfirst, hs₁⟩ := hp hs
      obtain ⟨hsecond, hs'⟩ := hq hs₁
      exact ⟨hfirst.combine h hsecond, hs'⟩
  obtain ⟨hn, hm⟩ := (run he rfl).1
  exact ⟨hn, hm⟩

/-- A conjunction in a disjunction, with a hash in other letters than the ledger's. -/
def nestedCondition : Predicate :=
  .logical .or
    [ .logical .and [.equals "BlockNumber" "0x1", .equals "hash" "'0xc'"],
      .equals "blocknumber" "2" ]

theorem mem_evaluate_iff_mem_scan_twoBlocks :
    ∃ rs l, evaluate Ledger.client .transactions nestedCondition (Ledger.ofBlocks twoBlocks) =
        (.ok rs, l) ∧
      rs.map Record.identity = ["0xC", "0xD"] ∧ (rs.map Record.identity).Nodup ∧
      ∀ r, r ∈ rs ↔ r ∈ scan twoBlocks .transactions ∧ Holds r nestedCondition :=
  ⟨_, _, rfl, by decide +kernel, mem_evaluate_iff_mem_scan coherent_twoBlocks rfl⟩

end LedgerQuery.Query
