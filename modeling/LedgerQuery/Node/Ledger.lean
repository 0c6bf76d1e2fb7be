import LedgerQuery.Json.Reader
import LedgerQuery.Keyed
import LedgerQuery.Node.Lookup
import LedgerQuery.Text.Lowercase

/-!
# A node in memory

A ledger keeps blocks in the order in which they came, and finds them by number and by hash; hashes
are compared in lower case. A later block takes the place of an earlier one with the same number or
hash. Every lookup is counted, also one that finds nothing.
-/

namespace LedgerQuery.Node

open Chain

structure Ledger where
  blocks : List Block
  /-- Positions of blocks by number. -/
  byNumber : List (Nat × Nat)
  /-- Positions of blocks by hash in lower case. -/
  byHash : List (String × Nat)
  /-- Transactions by hash in lower case. -/
  transactions : List (String × Transaction)
  /-- How many lookups were made. -/
  calls : Nat
deriving Repr, Inhabited

namespace Ledger

def empty : Ledger := ⟨[], [], [], [], 0⟩

/-- Adds the transactions of a block, each in the place of one with the same hash. -/
def insertTransactions (m : List (String × Transaction)) (ts : List Transaction) :
    List (String × Transaction) :=
  ts.foldl (fun m t => Keyed.insert (Text.lower t.hash) t m) m

def insert (l : Ledger) (b : Block) : Ledger :=
  { l with
    blocks := l.blocks ++ [b]
    byNumber := Keyed.insert b.number.val l.blocks.length l.byNumber
    byHash := Keyed.insert (Text.lower b.hash) l.blocks.length l.byHash
    transactions := insertTransactions l.transactions b.transactions }

def ofBlocks (bs : List Block) : Ledger := bs.foldl insert empty

/-- Reads a JSON array of blocks. -/
def ofJson (text : String) : Except Failure Ledger :=
  match (Json.parse text).read (Json.readList (Block.ofJson .text)) with
  | .ok bs => .ok (ofBlocks bs)
  | .error f => .error (.undecodable f)

/-- The block at a position of an index. -/
def blockAt (l : Ledger) (position : Option Nat) (subject : String) : Except Failure Block :=
  match position.bind fun i => l.blocks[i]? with
  | some b => .ok b
  | none => .error (.notFound subject)

def answer (l : Ledger) : (q : Lookup) → Except Failure q.Answer
  | .blockByNumber n => l.blockAt (l.byNumber.lookup n.val) (Lookup.blockByNumber n).subject
  | .blockByHash h => l.blockAt (l.byHash.lookup (Text.lower h)) (Lookup.blockByHash h).subject
  | .transactionsOf n =>
    (l.blockAt (l.byNumber.lookup n.val) (Lookup.transactionsOf n).subject).map fun b =>
      b.transactions
  | .transactionByHash h =>
    match l.transactions.lookup (Text.lower h) with
    | some t => .ok t
    | none => .error (.notFound (Lookup.transactionByHash h).subject)

def client : Client Ledger := fun q l => (l.answer q, { l with calls := l.calls + 1 })

end Ledger

end LedgerQuery.Node
