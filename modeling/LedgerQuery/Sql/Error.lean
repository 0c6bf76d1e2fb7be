import LedgerQuery.Number.Natural

/-!
# Why a text gives no plan
-/

namespace LedgerQuery.Sql

inductive PlanError
  /-- The text is not SQL. -/
  | unparsable
  | statementCount (n : Nat)
  | unsupportedStatement (text : String)
  | unsupportedQuery (text : String)
  | noTable
  | unsupportedTableFactor (text : String)
  | multipleTables (n : Nat)
  | unsupportedExpression (text : String)
  | unsupportedOperator (text : String)
  | invalidLimit (text : String)
deriving DecidableEq, Repr

def PlanError.message : PlanError → String
  | .unparsable => "SQL parsing error:"
  | .statementCount n => "Exactly one statement is required, found " ++ Number.decimalDigits n
  | .unsupportedStatement text => "Unsupported SQL statement: " ++ text
  | .unsupportedQuery text => "Unsupported query structure: " ++ text
  | .noTable => "No table found in FROM clause"
  | .unsupportedTableFactor text => "Unsupported table factor: " ++ text
  | .multipleTables n =>
    "Expected exactly one table in FROM clause, found " ++ Number.decimalDigits n
  | .unsupportedExpression text => "Unsupported expression: " ++ text
  | .unsupportedOperator text => "Unsupported operator: " ++ text
  | .invalidLimit text => "Invalid LIMIT value: " ++ text

end LedgerQuery.Sql
