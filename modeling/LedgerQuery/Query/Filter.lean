import LedgerQuery.Keyed
import LedgerQuery.Query.Error
import LedgerQuery.Query.Plan
import LedgerQuery.Text.Strip

/-!
# Filters

A condition on records becomes lookups: every comparison is answered by one lookup, and the answers
are combined by the identities of the records. Operands are answered from left to right, and the
first failure ends the answer.
-/

namespace LedgerQuery

open Chain
open Node (Lookup Client)

namespace Query

/-- The number of a block in a literal, in decimal digits or in hexadecimal ones after `0x`. -/
def blockNumber? (s : String) : Option (Quantity 64) :=
  match s.toList with
  | '0' :: 'x' :: _ | '0' :: 'X' :: _ =>
    match Quantity.read 64 s with
    | .ok q => some q
    | .error _ => none
  | _ => (Number.decimal? (2 ^ 64) s).bind (Quantity.ofNat? 64)

def blockNumber (column value : String) : Except Error (Quantity 64) :=
  match blockNumber? value with
  | some n => .ok n
  | none => .error (.invalidFilterValue column value)

/-- The lookup that answers a comparison of a column with a literal. A literal may stand in
quotes. -/
def lookup (t : Table) (column literal : String) : Except Error Lookup :=
  let value := Text.unquote literal
  match t, Text.lower column with
  | .blocks, "blocknumber" => (blockNumber column value).map Lookup.blockByNumber
  | .blocks, "blockhash" => .ok (.blockByHash value)
  | .transactions, "blocknumber" => (blockNumber column value).map Lookup.transactionsOf
  | .transactions, "hash" => .ok (.transactionByHash value)
  | _, _ => .error (.unsupportedFilterColumn column t)

/-! ## Combining records -/

/-- The records by their identities: of those that share one, the last in the place of the
first. -/
def byIdentity (rs : List Record) : List (String × Record) := Keyed.index Record.identity rs

/-- The records of the second list whose identities are in both, in the order of the first list. A
record leaves the second list when its identity comes. -/
def intersect (first second : List Record) : List Record :=
  Keyed.takeOut ((byIdentity first).map Prod.fst) (byIdentity second)

/-- The records of the first list, then those of the second list with new identities. -/
def union (first second : List Record) : List Record :=
  let first := byIdentity first
  first.map Prod.snd ++
    ((byIdentity second).filter fun p => !Keyed.has p.1 first).map Prod.snd

def combine : Connective → List Record → List Record → List Record
  | .and => intersect
  | .or => union

/-! ## Evaluation -/

variable {σ : Type}

def fetch (c : Client σ) (l : Lookup) : ExceptT Error (StateM σ) (List Record) := fun s =>
  match c l s with
  | (.ok a, s) => (.ok (l.records a), s)
  | (.error f, s) => (.error (.lookupFailed l.describe f), s)

/-- The records of a table for which a condition holds. -/
def evaluate (c : Client σ) (t : Table) : Predicate → ExceptT Error (StateM σ) (List Record)
  | .equals column value => do
    let l ← lookup t column value
    fetch c l
  | .logical op [p, q] => do
    let first ← evaluate c t p
    let second ← evaluate c t q
    return combine op first second
  | .logical _ ps => throw (.invalidOperatorArity ps.length)
termination_by structural p => p

end Query

end LedgerQuery
