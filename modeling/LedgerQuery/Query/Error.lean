import LedgerQuery.Node.Lookup
import LedgerQuery.Table

/-!
# Why a query fails
-/

namespace LedgerQuery.Query

inductive Error
  | unknownTable (name : String)
  | missingWhere (table : Table)
  | unsupportedFilterColumn (column : String) (table : Table)
  | invalidOperatorArity (operands : Nat)
  | ambiguousAlias (name : String)
  | ungroupedColumn (name : String)
  | ungroupedOrder (name : String)
  | lookupFailed (what : String) (failure : Node.Failure)
  | unknownColumn (column : String) (table : Table)
  | invalidFilterValue (column value : String)
  | unsupportedFunction (call : String)
  /-- An aggregate where rows are not grouped. -/
  | aggregateOutsideGroup (call : String)
  | havingOutsideGroup
  | sumOverflow (column : String)
  | notNumeric (column : String)
deriving DecidableEq, Repr

def Error.message : Error → String
  | .unknownTable name => "Table " ++ name ++ " does not exist"
  | .missingWhere table =>
    "Query on table " ++ table.name ++ " without a WHERE clause is not supported"
  | .unsupportedFilterColumn column table =>
    "Column " ++ column ++ " is not filterable on table " ++ table.name
  | .invalidOperatorArity n =>
    "Logical operation expects two boolean expressions, found " ++ Number.decimalDigits n
  | .ambiguousAlias name => "Alias " ++ name ++ " is ambiguous"
  | .ungroupedColumn name =>
    "Column " ++ name ++
      " must appear in the GROUP BY clause or be used in an aggregate function"
  | .ungroupedOrder name => "ORDER BY column " ++ name ++ " must appear in the GROUP BY clause"
  | .lookupFailed what failure =>
    "Failed to fetch " ++ what ++ " from node: " ++ failure.message
  | .unknownColumn column table =>
    "Column " ++ column ++ " does not exist in table " ++ table.name
  | .invalidFilterValue column value => "Invalid value " ++ value ++ " for column " ++ column
  | .unsupportedFunction call => "Function " ++ call ++ " is not supported"
  | .aggregateOutsideGroup call =>
    "Execution error: aggregate " ++ call ++ " requires grouping"
  | .havingOutsideGroup =>
    "Execution error: HAVING requires GROUP BY or an aggregate in the select list"
  | .sumOverflow column => "Execution error: sum(" ++ column ++ ") overflowed"
  | .notNumeric column => "Execution error: column " ++ column ++ " is not numeric"

end LedgerQuery.Query
