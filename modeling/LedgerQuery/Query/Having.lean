import LedgerQuery.Cell
import LedgerQuery.Number.Reading
import LedgerQuery.Query.Plan
import LedgerQuery.Text.Strip

/-!
# Conditions on groups

A group is kept when its cell in one column compares with a literal as it should. An empty cell
never does.
-/

namespace LedgerQuery.Query

/-- The cell that a literal stands for: a text if it has quotes or is no number. -/
def literalCell (literal : String) : Cell :=
  let value := Text.unquote literal
  if value ≠ literal then .text value
  else
    match Number.decimal? (2 ^ 128) literal with
    | some n => .integer n
    | none =>
      match Number.Binary64.parse? literal with
      | some x => .float x
      | none => .text literal

/-- Whether two cells in this order compare as they should. -/
def Comparison.holds : Comparison → Ordering → Bool
  | .eq, o => o == .eq
  | .ne, o => o != .eq
  | .lt, o => o == .lt
  | .le, o => o != .gt
  | .gt, o => o == .gt
  | .ge, o => o != .lt

/-- A condition on the cells of one column. -/
structure GroupFilter where
  column : String
  op : Comparison
  value : Cell
deriving DecidableEq, Repr

namespace GroupFilter

def ofLiteral (column : String) (op : Comparison) (literal : String) : GroupFilter :=
  ⟨column, op, literalCell literal⟩

def keeps (f : GroupFilter) (a : Cell) : Bool := !a.isNull && f.op.holds (a.compare f.value)

end GroupFilter

end LedgerQuery.Query
