import LedgerQuery.Chain.Record
import LedgerQuery.Json.Shape

/-!
# Records in node format

Blocks and transactions as JSON objects. Quantities are texts; every member is written, and a
member that may be absent is read as absent when it is `null`.
-/

namespace LedgerQuery.Chain

open Json (Shape Origin)

/-! ## Reading -/

def Quantity.ofJson (width : Nat) (j : Json) : Except Json.Fault (Quantity width) :=
  match Json.readText j with
  | .error e => .error e
  | .ok raw =>
    match Quantity.read width raw with
    | .ok q => .ok q
    | .error e => .error (.data e.message)

def Transaction.shape : Shape Transaction :=
  Transaction.mk
    <$> .required "hash" Json.readText
    <*> .required "nonce" (Quantity.ofJson 64)
    <*> .nullable "blockHash" Json.readText
    <*> .nullable "blockNumber" (Quantity.ofJson 64)
    <*> .nullable "transactionIndex" (Quantity.ofJson 64)
    <*> .required "from" Json.readText
    <*> .nullable "to" Json.readText
    <*> .required "value" (Quantity.ofJson 128)
    <*> .required "gas" (Quantity.ofJson 64)
    <*> .nullable "gasPrice" (Quantity.ofJson 128)
    <*> .required "input" Json.readText

def Transaction.ofJson (origin : Origin) (j : Json) : Except Json.Fault Transaction :=
  Transaction.shape.read "Transaction" origin j

def Block.shape (origin : Origin) : Shape Block :=
  Block.mk
    <$> .required "number" (Quantity.ofJson 64)
    <*> .required "hash" Json.readText
    <*> .required "parentHash" Json.readText
    <*> .nullable "nonce" Json.readText
    <*> .required "sha3Uncles" Json.readText
    <*> .nullable "logsBloom" Json.readText
    <*> .required "transactionsRoot" Json.readText
    <*> .required "stateRoot" Json.readText
    <*> .required "receiptsRoot" Json.readText
    <*> .required "miner" Json.readText
    <*> .required "difficulty" (Quantity.ofJson 128)
    <*> .nullable "totalDifficulty" (Quantity.ofJson 128)
    <*> .required "extraData" Json.readText
    <*> .required "size" (Quantity.ofJson 64)
    <*> .required "gasLimit" (Quantity.ofJson 64)
    <*> .required "gasUsed" (Quantity.ofJson 64)
    <*> .required "timestamp" (Quantity.ofJson 64)
    <*> .optional "transactions" [] (Json.readList (Transaction.ofJson origin))
    <*> .optional "uncles" [] (Json.readList Json.readText)

def Block.ofJson (origin : Origin) (j : Json) : Except Json.Fault Block :=
  (Block.shape origin).read "Block" origin j

/-! ## Writing -/

def Quantity.toJson {width : Nat} (q : Quantity width) : Json := .text q.render

def nullableToJson {α : Type} (f : α → Json) : Option α → Json
  | some a => f a
  | none => .null

def Transaction.toJson (t : Transaction) : Json :=
  .object [
    ("hash", .text t.hash),
    ("nonce", t.nonce.toJson),
    ("blockHash", nullableToJson .text t.blockHash),
    ("blockNumber", nullableToJson Quantity.toJson t.blockNumber),
    ("transactionIndex", nullableToJson Quantity.toJson t.transactionIndex),
    ("from", .text t.sender),
    ("to", nullableToJson .text t.recipient),
    ("value", t.value.toJson),
    ("gas", t.gas.toJson),
    ("gasPrice", nullableToJson Quantity.toJson t.gasPrice),
    ("input", .text t.input)]

def Block.toJson (b : Block) : Json :=
  .object [
    ("number", b.number.toJson),
    ("hash", .text b.hash),
    ("parentHash", .text b.parentHash),
    ("nonce", nullableToJson .text b.nonce),
    ("sha3Uncles", .text b.sha3Uncles),
    ("logsBloom", nullableToJson .text b.logsBloom),
    ("transactionsRoot", .text b.transactionsRoot),
    ("stateRoot", .text b.stateRoot),
    ("receiptsRoot", .text b.receiptsRoot),
    ("miner", .text b.miner),
    ("difficulty", b.difficulty.toJson),
    ("totalDifficulty", nullableToJson Quantity.toJson b.totalDifficulty),
    ("extraData", .text b.extraData),
    ("size", b.size.toJson),
    ("gasLimit", b.gasLimit.toJson),
    ("gasUsed", b.gasUsed.toJson),
    ("timestamp", b.timestamp.toJson),
    ("transactions", .list (b.transactions.map Transaction.toJson)),
    ("uncles", .list (b.uncles.map Json.text))]

end LedgerQuery.Chain
