import LedgerQuery.Cell
import LedgerQuery.Chain.Quantity

/-!
# Blocks and transactions

The records that a node serves. A record has cells, found by the lower-case names of its columns,
and an identity, by which it is matched with other records.
-/

namespace LedgerQuery.Chain

structure Transaction where
  hash : String
  nonce : Quantity 64
  blockHash : Option String
  blockNumber : Option (Quantity 64)
  transactionIndex : Option (Quantity 64)
  sender : String
  recipient : Option String
  value : Quantity 128
  gas : Quantity 64
  gasPrice : Option (Quantity 128)
  input : String
deriving DecidableEq, Repr, Inhabited

structure Block where
  number : Quantity 64
  hash : String
  parentHash : String
  nonce : Option String
  sha3Uncles : String
  logsBloom : Option String
  transactionsRoot : String
  stateRoot : String
  receiptsRoot : String
  miner : String
  difficulty : Quantity 128
  totalDifficulty : Option (Quantity 128)
  extraData : String
  size : Quantity 64
  gasLimit : Quantity 64
  gasUsed : Quantity 64
  timestamp : Quantity 64
  transactions : List Transaction
  uncles : List String
deriving DecidableEq, Repr, Inhabited

inductive Record
  | block (b : Block)
  | transaction (t : Transaction)
deriving DecidableEq, Repr

def Quantity.cell {width : Nat} (q : Quantity width) : Cell := .integer q.val

def Quantity.cell? {width : Nat} (q : Option (Quantity width)) : Cell :=
  .ofNat? (q.map fun q => q.val)

/-- The cell of a block in a column. Transactions and uncles are only counted. -/
def Block.cell? (b : Block) (column : String) : Option Cell :=
  match column with
  | "blocknumber" => some b.number.cell
  | "blockhash" => some (.text b.hash)
  | "parenthash" => some (.text b.parentHash)
  | "nonce" => some (.ofText? b.nonce)
  | "sha3uncles" => some (.text b.sha3Uncles)
  | "logsbloom" => some (.ofText? b.logsBloom)
  | "transactionsroot" => some (.text b.transactionsRoot)
  | "stateroot" => some (.text b.stateRoot)
  | "receiptsroot" => some (.text b.receiptsRoot)
  | "miner" => some (.text b.miner)
  | "difficulty" => some b.difficulty.cell
  | "totaldifficulty" => some (Quantity.cell? b.totalDifficulty)
  | "extradata" => some (.text b.extraData)
  | "size" => some b.size.cell
  | "gaslimit" => some b.gasLimit.cell
  | "gasused" => some b.gasUsed.cell
  | "timestamp" => some b.timestamp.cell
  | "transactioncount" => some (.integer b.transactions.length)
  | "unclecount" => some (.integer b.uncles.length)
  | _ => none

def Transaction.cell? (t : Transaction) (column : String) : Option Cell :=
  match column with
  | "hash" => some (.text t.hash)
  | "nonce" => some t.nonce.cell
  | "blockhash" => some (.ofText? t.blockHash)
  | "blocknumber" => some (Quantity.cell? t.blockNumber)
  | "transactionindex" => some (Quantity.cell? t.transactionIndex)
  | "from" => some (.text t.sender)
  | "to" => some (.ofText? t.recipient)
  | "value" => some t.value.cell
  | "gas" => some t.gas.cell
  | "gasprice" => some (Quantity.cell? t.gasPrice)
  | "input" => some (.text t.input)
  | _ => none

namespace Record

/-- Records with the same hash are the same record. -/
def identity : Record → String
  | .block b => b.hash
  | .transaction t => t.hash

def cell? : Record → String → Option Cell
  | .block b, column => b.cell? column
  | .transaction t, column => t.cell? column

/-- The cell in a column, empty if the record has no such column. -/
def cell (r : Record) (column : String) : Cell := (r.cell? column).getD .null

end Record

end LedgerQuery.Chain
