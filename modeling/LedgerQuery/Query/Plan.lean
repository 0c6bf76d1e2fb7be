import LedgerQuery.Text.Lowercase

/-!
# Plans

A plan is a query over one table: what to select, which records to keep, how to group, order and cut
them. Names keep their spelling; literals keep their spelling and their quotes.
-/

namespace LedgerQuery.Query

inductive Argument
  | column (name : String)
  | star
deriving DecidableEq, Repr

structure Call where
  function : String
  argument : Argument
deriving DecidableEq, Repr

/-- The name of the column that holds the result of a call. -/
def Call.name (c : Call) : String :=
  let argument := match c.argument with
    | .column name => Text.lower name
    | .star => "*"
  Text.lower c.function ++ "(" ++ argument ++ ")"

/-- What an entry of the select list stands for. -/
inductive Selected
  | column (name : String)
  | call (c : Call)
  | star
deriving DecidableEq, Repr

structure SelectItem where
  expr : Selected
  /-- The alias, if there is one. -/
  label : Option String
deriving DecidableEq, Repr

/-- A column or an aggregate that rows are ordered by or groups are kept by. -/
inductive Operand
  | column (name : String)
  | call (c : Call)
deriving DecidableEq, Repr

/-- The name an operand is found by. A plain name keeps its spelling. -/
def Operand.name : Operand → String
  | .column name => name
  | .call c => c.name

inductive Direction
  | asc
  | desc
deriving DecidableEq, Repr

structure OrderItem where
  expr : Operand
  direction : Direction
deriving DecidableEq, Repr

inductive Connective
  | and
  | or
deriving DecidableEq, Repr

/-- The condition on records. Text gives two operands to every connective; a plan may have any
number. -/
inductive Predicate
  | equals (column value : String)
  | logical (op : Connective) (operands : List Predicate)
deriving Repr

inductive Comparison
  | eq
  | ne
  | lt
  | le
  | gt
  | ge
deriving DecidableEq, Repr

structure Having where
  target : Operand
  op : Comparison
  value : String
deriving DecidableEq, Repr

structure Plan where
  projection : List SelectItem
  table : String
  selection : Option Predicate
  groupBy : Option (List String)
  having : Option Having
  orderBy : Option (List OrderItem)
  limit : Option Nat
deriving Repr

end LedgerQuery.Query
