import LedgerQuery.Sql.Parser.Name

/-!
# Aliases

An alias follows `AS`, or follows what it names directly, where some words are no alias because
they start what comes next.
-/

namespace LedgerQuery.Sql.Parser

/-- The words that name no entry of a select list unless `AS` stands before them. -/
def notEntryAliases : List String := [
  "WITH", "EXPLAIN", "ANALYZE", "SELECT", "WHERE", "GROUP", "SORT", "HAVING", "ORDER", "TOP",
  "LATERAL", "VIEW", "LIMIT", "OFFSET", "FETCH", "UNION", "EXCEPT", "EXCLUDE", "INTERSECT",
  "MINUS", "CLUSTER", "DISTRIBUTE", "RETURNING", "FROM", "INTO", "END"]

/-- The words that name no table unless `AS` stands before them. -/
def notTableAliases : List String := [
  "WITH", "EXPLAIN", "ANALYZE", "SELECT", "WHERE", "GROUP", "SORT", "HAVING", "ORDER", "PIVOT",
  "UNPIVOT", "TOP", "LATERAL", "VIEW", "LIMIT", "OFFSET", "FETCH", "UNION", "EXCEPT", "INTERSECT",
  "MINUS", "ON", "JOIN", "INNER", "CROSS", "FULL", "LEFT", "RIGHT", "NATURAL", "USING", "CLUSTER",
  "DISTRIBUTE", "GLOBAL", "ANTI", "SEMI", "RETURNING", "ASOF", "MATCH_CONDITION", "OUTER", "SET",
  "QUALIFY", "WINDOW", "END", "FOR", "PARTITION", "PREWHERE", "SETTINGS", "FORMAT", "START",
  "CONNECT", "MATCH_RECOGNIZE", "SAMPLE", "TABLESAMPLE", "FROM", "OPEN"]

/-- An alias, if there is one; `excluded` are the words that are none. -/
def alias? (excluded : List String) : Parser (Option Ident) := do
  let explicit ← takeKeyword "AS"
  match ← peek with
  | some (.word i) =>
    if explicit || !excluded.contains i.key then return some (← ident)
    else return none
  | some (.literal (.text _)) => return some (← ident)
  | _ => if explicit then fail else return none

end LedgerQuery.Sql.Parser
