import LedgerQuery.Query.Filter
import LedgerQuery.Query.Grouping
import LedgerQuery.Query.ResultSet

/-!
# Running a plan

A plan is run against a client: the condition becomes lookups, the records become rows, and the rows
are ordered, cut and stripped.
-/

namespace LedgerQuery

open Chain
open Node (Client)

namespace Query

/-- The rows of a query before they are ordered. -/
def convert (s : Scope) (t : Table) (order : Order) (records : List Record) : Except Error Rows :=
  if s.isGrouped then groupRecords s t order records
  else if s.plan.having.isSome then .error .havingOutsideGroup
  else Rows.ofRecords t s.plan.projection order.extras records

def Scope.order (s : Scope) (t : Table) : Order :=
  .ofItems (s.plan.orderBy.getD []) (s.selectedIn t) s.aliases

/-- Cuts a result to the limit of a plan, if it has one. -/
def cut (limit : Option Nat) (r : ResultSet) : ResultSet :=
  match limit with
  | some n => r.limit n
  | none => r

/-- The result of a query on the records that its condition gave. -/
def finish (s : Scope) (t : Table) (records : List Record) : Except Error ResultSet :=
  let order := s.order t
  match convert s t order records with
  | .error e => .error e
  | .ok rows =>
    match (ResultSet.ofRows t rows s.aliases).order order.keys with
    | .error e => .error e
    | .ok r => .ok (cut s.plan.limit r).project

/-- What a plan is checked for before any lookup: its names, its table and its condition. -/
def prepare (p : Plan) : Except Error (Scope × Table × Predicate) :=
  match Scope.ofPlan p with
  | .error e => .error e
  | .ok s =>
    match Table.ofName? p.table with
    | none => .error (.unknownTable p.table)
    | some t =>
      match p.selection with
      | none => .error (.missingWhere t)
      | some predicate => .ok (s, t, predicate)

def run {σ : Type} (c : Client σ) (p : Plan) : ExceptT Error (StateM σ) ResultSet := do
  let (s, t, predicate) ← prepare p
  let records ← evaluate c t predicate
  finish s t records

end Query

end LedgerQuery
