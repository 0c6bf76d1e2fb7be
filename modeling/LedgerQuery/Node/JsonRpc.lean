import LedgerQuery.Json.Reader
import LedgerQuery.Json.Settled
import LedgerQuery.Node.Lookup

/-!
# Requests and replies

A lookup is asked by a request with a number of its own. The reply is an envelope with a result or
an error; an error wins over a result, and a result that is absent or `null` means that nothing was
found.
-/

namespace LedgerQuery.Node

open Chain
open Json (Shape Fault)

/-! ## Requests -/

structure Request where
  id : Nat
  method : String
  params : List Json
deriving Repr

/-- The method that answers a lookup, with its parameters. The transactions of a block come with
the block. -/
def Lookup.call : Lookup → String × List Json
  | .blockByNumber n | .transactionsOf n => ("eth_getBlockByNumber", [n.toJson, .bool true])
  | .blockByHash h => ("eth_getBlockByHash", [.text h, .bool true])
  | .transactionByHash h => ("eth_getTransactionByHash", [.text h])

def Lookup.request (l : Lookup) (id : Nat) : Request := ⟨id, l.call.1, l.call.2⟩

def Request.toJson (r : Request) : Json :=
  .object [
    ("jsonrpc", .text "2.0"),
    ("id", .natural r.id),
    ("method", .text r.method),
    ("params", .list r.params)]

/-! ## Replies -/

/-- A whole number of 64 bits with a sign. -/
def readCode (j : Json) : Except Fault Int :=
  match j with
  | .num n =>
    match n.value? with
    | some (.natural v) =>
      if v < 2 ^ 63 then .ok v
      else .error (.data ("invalid value: " ++ (Json.Number.natural v).describe ++
        ", expected i64"))
    | some (.negative v) => .ok (-v)
    | some (.float _) | none => Json.mismatch "i64" j
  | j => Json.mismatch "i64" j

/-- An error of a node. -/
structure Refusal where
  code : Int
  message : String
deriving DecidableEq, Repr

def Refusal.shape : Shape Refusal :=
  Refusal.mk <$> .required "code" readCode <*> .required "message" Json.readText

structure Envelope where
  result : Option Json
  error : Option Refusal

def Envelope.shape : Shape Envelope :=
  Envelope.mk
    <$> .nullable "result" Json.anyValue
    <*> .nullable "error" (Refusal.shape.read "JsonRpcErrorObject" .text)

def Envelope.ofText (body : String) : Except Fault Envelope :=
  (Json.parse body).read (Envelope.shape.read "JsonRpcResponse" .text)

def Lookup.ofResult (result : Json) : (l : Lookup) → Except Fault l.Answer
  | .blockByNumber _ | .blockByHash _ => Block.ofJson .value result
  | .transactionsOf _ => (Block.ofJson .value result).map fun b => b.transactions
  | .transactionByHash _ => Transaction.ofJson .value result

def Lookup.ofBody (l : Lookup) (body : String) : Except Failure l.Answer :=
  match Envelope.ofText body with
  | .error f => .error (.undecodable f)
  | .ok ⟨_, some e⟩ => .error (.refused e.code e.message)
  | .ok ⟨none, none⟩ => .error (.notFound l.subject)
  | .ok ⟨some result, none⟩ =>
    match l.ofResult result with
    | .ok a => .ok a
    | .error f => .error (.undecodable f)

end LedgerQuery.Node
