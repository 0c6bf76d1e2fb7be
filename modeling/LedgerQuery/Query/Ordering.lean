import LedgerQuery.Query.Scope

/-!
# Orders of rows

The columns that rows are ordered by, each once with its first direction, and those of them that
are not selected and have to be carried along.
-/

namespace LedgerQuery.Query

structure Order where
  /-- Columns with their directions, the most important first. -/
  keys : List (String × Direction)
  /-- What has to be computed only to order by it. -/
  extras : List Operand
deriving DecidableEq, Repr

namespace Order

def empty : Order := ⟨[], []⟩

/-- How an operand that stands for a column is carried along. -/
def extra (column : String) : Operand → Operand
  | .column _ => .column column
  | .call c => .call { c with function := Text.lower c.function }

def add (selected : List String) (aliases : List (String × String)) (o : Order)
    (item : OrderItem) : Order :=
  let name := item.expr.name
  let column := resolve aliases name
  let carried := extra column item.expr
  let present := selected.contains column || Keyed.has (Text.lower name) aliases ||
    o.extras.contains carried
  { keys := Keyed.insertNew column item.direction o.keys
    extras := if present then o.extras else o.extras ++ [carried] }

def ofItems (items : List OrderItem) (selected : List String)
    (aliases : List (String × String)) : Order :=
  items.foldl (add selected aliases) empty

end Order

end LedgerQuery.Query
