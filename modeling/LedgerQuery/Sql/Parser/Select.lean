import LedgerQuery.Sql.Parser.Table
import LedgerQuery.Text.Lowercase

/-!
# Selections
-/

namespace LedgerQuery.Sql.Parser

/-! ## Select lists -/

def columnOrColumns : Parser String := do
  if ← atSymbol "(" then return " " ++ (← columns) else return " " ++ (← ident).render

def renamed : Parser String := do
  let i ← ident
  keyword "AS"
  return i.render ++ " AS " ++ (← ident).render

def replacement (r : Rules) : Parser String := do
  let e ← r.exprText
  let gap ← if ← takeKeyword "AS" then pure " AS " else pure " "
  return e ++ gap ++ (← ident).render

/-- What is left out of all columns, or put in. -/
def starOptions (r : Rules) : Parser String := do
  let like ← if ← takeKeyword "ILIKE" then
      match ← next with
      | .literal (.text s) => pure (" ILIKE '" ++ s ++ "'")
      | _ => fail
    else if ← takeKeyword "EXCLUDE" then pure (" EXCLUDE" ++ (← columnOrColumns))
    else pure ""
  let except ← if ← takeKeyword "EXCEPT" then
      if ← atSymbol "(" then pure (" EXCEPT " ++ (← columns))
      else pure (" EXCEPT (" ++ (← ident).render ++ ")")
    else pure ""
  let replace ← if ← takeKeyword "REPLACE" then
      pure (" REPLACE (" ++ commas (← parens (list (replacement r))) ++ ")")
    else pure ""
  let rename ← if ← takeKeyword "RENAME" then
      if ← atSymbol "(" then pure (" RENAME (" ++ commas (← parens (list renamed)) ++ ")")
      else pure (" RENAME " ++ (← renamed))
    else pure ""
  return like ++ except ++ replace ++ rename

/-- An entry of a select list. The bare word `from` is none. -/
def entry (r : Rules) : Parser Entry := do
  match ← starOr r with
  | .starOf qualifier => return .qualifiedStar qualifier (← starOptions r)
  | .star => return .star (← starOptions r)
  | .expr e =>
    match e with
    | .name [] ⟨value, none⟩ => if Text.lower value == "from" then fail
    | _ => pure ()
    match ← alias? notEntryAliases with
    | some i => return .named e i
    | none => return .plain e

/-! ## Clauses -/

/-- How repeated rows are removed, if they are. -/
def distinct (r : Rules) : Parser (Option String) := do
  let all ← takeKeyword "ALL"
  if ← takeKeyword "DISTINCT" then
    if all then fail
    if ← takeKeyword "ON" then
      symbol "("
      let es ← if ← atSymbol ")" then pure "" else r.exprTexts
      symbol ")"
      return some ("DISTINCT ON (" ++ es ++ ")")
    else return some "DISTINCT"
  else return none

/-- How many rows are kept, said before the select list. -/
def top (r : Rules) : Parser String := do
  let quantity ← if ← atSymbol "(" then pure ("(" ++ (← parens r.exprText) ++ ")") else count
  let percent ← takeKeyword "PERCENT"
  let ties ← takeKeywords ["WITH", "TIES"]
  return "TOP " ++ quantity ++ flag "PERCENT" percent ++ flag "WITH TIES" ties

/-- The table that rows are put into. -/
def target : Parser String := do
  let temporary ← takeAny ["TEMP", "TEMPORARY"]
  let unlogged ← takeKeyword "UNLOGGED"
  let table ← takeKeyword "TABLE"
  let words := [(temporary.isSome, "TEMPORARY "), (unlogged, "UNLOGGED "), (table, "TABLE ")]
  return String.join ((words.filter Prod.fst).map Prod.snd) ++ (← objectText)

def tuple (r : Rules) : Parser (List Expr) := do
  symbol "("
  if ← takeSymbol ")" then return []
  else
    let es ← r.exprs
    symbol ")"
    return es

def tupleOrExpr (r : Rules) : Parser (List Expr) := do
  if ← atSymbol "(" then tuple r else return [← r.expr]

/-- A tuple by its text, in which one expression needs no parentheses. -/
def tupleText : List Expr → String
  | [e] => e.render
  | es => "(" ++ renderList es ++ ")"

def groupingSets (sets : List (List Expr)) : String :=
  "GROUPING SETS (" ++ commas (sets.map fun es => "(" ++ renderList es ++ ")") ++ ")"

def groupItem (r : Rules) : Parser Expr := do
  if ← takeKeywords ["GROUPING", "SETS"] then
    return .other (groupingSets (← parens (list (tuple r))))
  else
    match ← takeAny ["CUBE", "ROLLUP"] with
    | some k =>
      let sets ← parens (list (tupleOrExpr r))
      return .other (k ++ " (" ++ commas (sets.map tupleText) ++ ")")
    | none =>
      match ← get with
      | .symbol "(" :: .symbol ")" :: ts =>
        set ts
        return .other "()"
      | _ => r.expr

def groupModifiers (r : Rules) : Parser (List String) := do
  let totals ← many do
    if ← takeKeyword "WITH" then return some ("WITH " ++ (← oneOf ["ROLLUP", "CUBE", "TOTALS"]))
    else return none
  let sets ← afterAll ["GROUPING", "SETS"] (parens (list (tupleOrExpr r)))
  return totals ++ (sets.map groupingSets).toList

def groupBy (r : Rules) : Parser GroupBy := do
  if ← takeKeywords ["GROUP", "BY"] then
    if ← takeKeyword "ALL" then return .all (← groupModifiers r)
    else
      let es ← list (groupItem r)
      return .exprs es (← groupModifiers r)
  else return .exprs [] []

def namedWindow (r : Rules) : Parser String := do
  let i ← ident
  keyword "AS"
  return i.render ++ " AS " ++ (← window r)

def select (r : Rules) : Parser Select := do
  keyword "SELECT"
  let distinct ← distinct r
  let top ← after "TOP" (top r)
  let entries ← if ← atKeyword "FROM" then pure [] else list (entry r)
  let into ← after "INTO" target
  let tables ← listAfter ["FROM"] (joined r)
  let prewhere ← after "PREWHERE" r.expr
  let condition ← after "WHERE" r.expr
  let groupBy ← groupBy r
  let clusterBy ← listAfter ["CLUSTER", "BY"] r.exprText
  let distributeBy ← listAfter ["DISTRIBUTE", "BY"] r.exprText
  let sortBy ← listAfter ["SORT", "BY"] r.exprText
  let having ← after "HAVING" r.expr
  let windows ← listAfter ["WINDOW"] (namedWindow r)
  let qualify ← after "QUALIFY" r.expr
  let later ← if windows.isEmpty then listAfter ["WINDOW"] (namedWindow r) else pure []
  return ⟨distinct, top, entries, into, tables, prewhere, condition, groupBy, clusterBy,
    distributeBy, sortBy, having, windows ++ later, qualify, !windows.isEmpty⟩

end LedgerQuery.Sql.Parser
