import LedgerQuery.Sql.Parser.Operand
import LedgerQuery.Sql.Parser.Select

/-!
# Queries

A query is a body with an order and a limit around it. Bodies are joined by set operations, of which
`INTERSECT` binds more tightly than the others.
-/

namespace LedgerQuery.Sql.Parser

/-! ## Bodies -/

def wholeTable : Parser String := do
  let a ← next
  let b ← next
  let c ← next
  match a, b, c with
  | .word i, .symbol ".", .word j => return i.value ++ "." ++ j.value
  | _, .symbol ".", _ => fail
  | .word i, _, _ => return i.value
  | _, _, _ => fail

def simpleBody (r : Rules) : Parser Body := do
  if ← atKeyword "SELECT" then return .select (← select r)
  else if ← takeSymbol "(" then
    let q ← r.queryText
    symbol ")"
    return .other ("(" ++ q ++ ")")
  else if ← takeKeyword "VALUES" then return .other (← rows r)
  else if ← takeKeyword "TABLE" then return .other ("TABLE " ++ (← wholeTable))
  else fail

/-- What a set operation says about repeated rows and about names. -/
def quantifier : Parser String := do
  if ← takeKeywords ["DISTINCT", "BY", "NAME"] then return " DISTINCT BY NAME"
  else if ← takeKeywords ["BY", "NAME"] then return " BY NAME"
  else if ← takeKeyword "ALL" then
    if ← takeKeywords ["BY", "NAME"] then return " ALL BY NAME" else return " ALL"
  else if ← takeKeyword "DISTINCT" then return " DISTINCT"
  else return ""

/-- The set operations from a body on, whose right sides are read by `right`. -/
def setOperations (operators : List String) (right : Parser Body) : Nat → Body → Parser Body
  | 0, left => return left
  | n + 1, left => do
    match ← takeAny operators with
    | none => return left
    | some op =>
      let q ← quantifier
      let b ← right
      setOperations operators right n (.other (left.render ++ " " ++ op ++ q ++ " " ++ b.render))

/-- Bodies joined by intersection. -/
def intersections (r : Rules) : Parser Body := do
  let b ← simpleBody r
  setOperations ["INTERSECT"] (simpleBody r) (← get).length b

/-- Bodies joined by any set operation. -/
def body (r : Rules) : Parser Body := do
  let b ← intersections r
  setOperations ["UNION", "EXCEPT", "MINUS"] (intersections r) (← get).length b

/-! ## Around a body -/

def namedQuery (r : Rules) : Parser String := do
  let i ← ident
  let columns ← if ← atKeyword "AS" then pure "" else aliasColumns
  keyword "AS"
  let q ← parens r.queryText
  let source ← after "FROM" ident
  return i.render ++ columns ++ " AS (" ++ q ++ ")"
    ++ Frame.suffix " FROM " (source.map Ident.render) ""

def namedQueries (r : Rules) : Parser String := do
  let recursive ← takeKeyword "RECURSIVE"
  return "WITH" ++ flag "RECURSIVE" recursive ++ " " ++ commas (← list (namedQuery r))

def offset (r : Rules) : Parser String := do
  let e ← r.exprText
  return e ++ Frame.suffix " " (← takeAny ["ROW", "ROWS"]) ""

/-- How many rows there are at most. An offset may stand on either side of the limit, but not on
both. -/
def limit (r : Rules) : Parser (Option Limit) := do
  let before ← after "OFFSET" (offset r)
  if ← takeKeyword "LIMIT" then
    let n ← if ← takeKeyword "ALL" then pure none else pure (some (← r.expr))
    match n, before with
    | some first, none =>
      if ← takeSymbol "," then return some (.offsetFirst first (← r.expr))
    | _, _ => pure ()
    let per ← listAfter ["BY"] r.expr
    let offset ← if before.isSome then pure before else after "OFFSET" (offset r)
    if n.isNone && offset.isNone && per.isEmpty then return none
    else return some (.upTo n offset per)
  else return before.map fun o => .upTo none (some o) []

def setting : Parser String := do
  let i ← ident
  symbol "="
  return i.render ++ " = " ++ (← literal).render

def fetch : Parser String := do
  let _ ← takeAny ["FIRST", "NEXT"]
  let quantity ←
    match ← takeAny ["ROW", "ROWS"] with
    | some _ => pure ""
    | none => do
      let n ← literal
      let percent ← takeKeyword "PERCENT"
      let _ ← takeAny ["ROW", "ROWS"]
      pure (" " ++ n.render ++ flag "PERCENT" percent)
  let ties ← if ← takeKeyword "ONLY" then pure false else takeKeywords ["WITH", "TIES"]
  return "FIRST" ++ quantity ++ " ROWS " ++ if ties then "WITH TIES" else "ONLY"

def lock : Parser String := do
  let kind ← oneOf ["UPDATE", "SHARE"]
  let table ← after "OF" objectText
  let wait ←
    if ← takeKeyword "NOWAIT" then pure " NOWAIT"
    else if ← takeKeywords ["SKIP", "LOCKED"] then pure " SKIP LOCKED"
    else pure ""
  return "FOR " ++ kind ++ Frame.suffix " OF " table "" ++ wait

def query (r : Rules) : Parser Statement.Query := do
  let named ← after "WITH" (namedQueries r)
  let body ← body r
  let orderBy ← afterAll ["ORDER", "BY"] (list (sortItem r))
  let limit ← limit r
  let settings ← listAfter ["SETTINGS"] setting
  let fetch ← after "FETCH" fetch
  let locks ← many (after "FOR" lock)
  let format ← after "FORMAT" do
    if ← takeKeyword "NULL" then return "NULL" else return (← ident).render
  return ⟨named, body, orderBy, limit, settings, fetch, locks, format⟩

/-! ## Depth -/

/-- The rules where `n` more forms can be nested. -/
def rules : Nat → Rules
  | 0 => .none
  | n + 1 =>
    let r := rules n
    ⟨operand r, atom r, query r, factor r⟩

end LedgerQuery.Sql.Parser
