import LedgerQuery.Text.Lowercase

/-!
# Tables

The two tables that a query may read, and their columns. Table names are compared without regard to
the case of ASCII letters, column names in lower case.
-/

namespace LedgerQuery

inductive Table
  | blocks
  | transactions
deriving DecidableEq, Repr

namespace Table

def name : Table → String
  | .blocks => "blocks"
  | .transactions => "transactions"

/-- The columns of a table, in the order of `*`. -/
def columns : Table → List String
  | .blocks => [
    "blocknumber", "blockhash", "parenthash", "nonce", "sha3uncles", "logsbloom",
    "transactionsroot", "stateroot", "receiptsroot", "miner", "difficulty", "totaldifficulty",
    "extradata", "size", "gaslimit", "gasused", "timestamp", "transactioncount", "unclecount"]
  | .transactions => [
    "hash", "nonce", "blockhash", "blocknumber", "transactionindex", "from", "to", "value", "gas",
    "gasprice", "input"]

def ofName? (s : String) : Option Table :=
  if Text.sameAscii s "blocks" then some .blocks
  else if Text.sameAscii s "transactions" then some .transactions
  else none

/-- The column with a name, in lower case. -/
def column? (t : Table) (name : String) : Option String :=
  let c := Text.lower name
  if t.columns.contains c then some c else none

theorem column?_eq_some_iff {t : Table} {name c : String} :
    t.column? name = some c ↔ Text.lower name = c ∧ c ∈ t.columns := by
  simp only [column?, Option.ite_none_right_eq_some, List.contains_iff_mem, Option.some.injEq]
  grind

end Table

end LedgerQuery
