import LedgerQuery.Chain.Codec

/-!
# Lookups

The questions that a node answers. A node looks up one block, the transactions of one block, or one
transaction; it cannot scan. What a client keeps between two lookups is its state.
-/

namespace LedgerQuery.Node

open Chain

inductive Lookup
  | blockByNumber (number : Quantity 64)
  | blockByHash (hash : String)
  | transactionsOf (number : Quantity 64)
  | transactionByHash (hash : String)
deriving DecidableEq, Repr

/-- What answers a lookup. -/
abbrev Lookup.Answer : Lookup → Type
  | .blockByNumber _ | .blockByHash _ => Block
  | .transactionsOf _ => List Transaction
  | .transactionByHash _ => Transaction

/-- What has to be found, in messages of a node. -/
def Lookup.subject : Lookup → String
  | .blockByNumber n | .transactionsOf n => "block " ++ Number.decimalDigits n.val
  | .blockByHash h => "block " ++ h
  | .transactionByHash h => "transaction " ++ h

/-- What is asked for, in messages of a query. -/
def Lookup.describe : Lookup → String
  | .transactionsOf n => "transactions of block " ++ Number.decimalDigits n.val
  | l => l.subject

/-- The records in an answer. -/
def Lookup.records : (l : Lookup) → l.Answer → List Record
  | .blockByNumber _, b | .blockByHash _, b => [.block b]
  | .transactionsOf _, ts => ts.map .transaction
  | .transactionByHash _, t => [.transaction t]

inductive Failure
  /-- The node was not reached or did not reply with success. -/
  | transport
  /-- The node replied with an error. -/
  | refused (code : Int) (message : String)
  /-- There is no such thing. -/
  | notFound (what : String)
  /-- The reply is not what was asked for. -/
  | undecodable (fault : Json.Fault)
deriving DecidableEq, Repr

def Failure.message : Failure → String
  | .transport => "HTTP transport error:"
  | .refused code message => "Node returned error " ++ Number.decimalInt code ++ ": " ++ message
  | .notFound what => "Not found: " ++ what
  | .undecodable .malformed => "Malformed response:"
  | .undecodable (.data message) => "Malformed response: " ++ message

/-- A client answers one lookup after the other. -/
abbrev Client (σ : Type) := (l : Lookup) → StateM σ (Except Failure l.Answer)

/-- A client that also keeps the lookups made, in their order. -/
def Client.recorded {σ : Type} (c : Client σ) : Client (σ × List Lookup) := fun l s =>
  let (answer, state) := c l s.1
  (answer, (state, s.2 ++ [l]))

end LedgerQuery.Node
