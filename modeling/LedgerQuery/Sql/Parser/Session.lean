import LedgerQuery.Sql.Parser.Query

/-!
# Statements about a session

Transactions, variables, stored statements, cursors, rights and notes. Each is read after the word
that starts it.
-/

namespace LedgerQuery.Sql.Parser

/-! ## Transactions and variables -/

/-- The statement that starts with a word about transactions. -/
def transaction (k : String) : Parser String := do
  let unit ← takeAny ["TRANSACTION", "WORK"]
  match k with
  | "START" =>
    if unit == some "TRANSACTION" then return "START TRANSACTION" else fail
  | "BEGIN" => return "BEGIN" ++ Frame.suffix " " unit ""
  | "COMMIT" => return "COMMIT"
  | _ =>
    if ← takeKeyword "TO" then
      let _ ← takeKeyword "SAVEPOINT"
      return "ROLLBACK TO SAVEPOINT " ++ (← ident).render
    else return "ROLLBACK"

def release : Parser String := do
  let _ ← takeKeyword "SAVEPOINT"
  return "RELEASE SAVEPOINT " ++ (← ident).render

def setVariable (r : Rules) : Parser String := do
  let scope ← takeAny ["SESSION", "LOCAL", "GLOBAL"]
  let name ← objectText
  unless ← takeSymbol "=" do keyword "TO"
  return "SET " ++ Frame.suffix "" scope " " ++ name ++ " = " ++ (← r.exprTexts)

def pragma : Parser String := do
  let name ← objectText
  let value : Parser String := do
    match ← literal with
    | .bool _ | .null => fail
    | l => return l.render
  if ← atSymbol "(" then return "PRAGMA " ++ name ++ "(" ++ (← parens value) ++ ")"
  else if ← takeSymbol "=" then return "PRAGMA " ++ name ++ " = " ++ (← value)
  else return "PRAGMA " ++ name

def discard : Parser String := do
  let kind ← oneOf ["ALL", "PLANS", "SEQUENCES", "TEMPORARY", "TEMP"]
  return "DISCARD " ++ if kind == "TEMPORARY" then "TEMP" else kind

def kill : Parser String := do
  let what ← takeAny ["CONNECTION", "QUERY", "MUTATION"]
  return "KILL " ++ Frame.suffix "" what " " ++ (← count)

/-! ## Stored statements and cursors -/

def callStatement (r : Rules) : Parser String := do
  let name ← objectName
  if ← atSymbol "(" then return "CALL " ++ (← call r name).render
  else return "CALL " ++ renderName name

/-- The statement after `PREPARE`, in which `inner` is stored. -/
def prepare (inner : Parser String) : Parser String := do
  let name ← ident
  let types ← if ← atSymbol "(" then
      pure ("(" ++ commas ((← parens (list dataType)).map DataType.text) ++ ") ")
    else pure ""
  keyword "AS"
  return "PREPARE " ++ name.render ++ " " ++ types ++ "AS " ++ (← inner)

def execute (r : Rules) : Parser String := do
  let name ← objectText
  let arguments ←
    if ← takeSymbol "(" then do
      let es ← if ← atSymbol ")" then pure "" else r.exprTexts
      symbol ")"
      pure ("(" ++ es ++ ")")
    else
      match ← peek with
      | none | some (.symbol ";") => pure ""
      | some t => if t.key == "USING" then pure "" else do pure (" " ++ (← r.exprTexts))
  let given ← listAfter ["USING"] r.exprText
  return "EXECUTE " ++ name ++ arguments ++ listClause "USING" given

def deallocate : Parser String := do
  let explicit ← takeKeyword "PREPARE"
  return "DEALLOCATE" ++ flag "PREPARE" explicit ++ " " ++ (← ident).render

def declareCursor (r : Rules) : Parser String := do
  let name ← ident
  let binary ← takeKeyword "BINARY"
  let sensitivity ← takeAny ["INSENSITIVE", "ASENSITIVE"]
  let fixed ← takeKeywords ["NO", "SCROLL"]
  let scroll ← if fixed then pure false else takeKeyword "SCROLL"
  keyword "CURSOR"
  let hold ← takeAny ["WITH", "WITHOUT"]
  if hold.isSome then keyword "HOLD"
  keyword "FOR"
  return "DECLARE " ++ name.render ++ flag "BINARY" binary ++ Frame.suffix " " sensitivity ""
    ++ flag "NO SCROLL" fixed ++ flag "SCROLL" scroll ++ " CURSOR" ++ Frame.suffix " " hold " HOLD"
    ++ " FOR " ++ (← r.queryText)

def fetchCursor : Parser String := do
  let direction ←
    match ← takeAny ["NEXT", "PRIOR", "FIRST", "LAST", "ALL", "ABSOLUTE", "RELATIVE", "FORWARD",
      "BACKWARD"] with
    | none => pure (← literal).render
    | some k =>
      if ["ABSOLUTE", "RELATIVE"].contains k then pure (k ++ " " ++ (← literal).render)
      else if ["FORWARD", "BACKWARD"].contains k then
        if ← takeKeyword "ALL" then pure (k ++ " ALL") else pure (k ++ " " ++ (← literal).render)
      else pure k
  let _ ← oneOf ["FROM", "IN"]
  let name ← ident
  let into ← after "INTO" objectText
  return "FETCH " ++ direction ++ " IN " ++ name.render ++ clause "INTO" into

def closeCursor : Parser String := do
  if ← takeKeyword "ALL" then return "CLOSE ALL" else return "CLOSE " ++ (← ident).render

/-! ## Rights and notes -/

/-- The rights that a statement gives or takes, on what, from `GRANT` or `REVOKE` on. -/
def rights : Parser String := do
  let actions ←
    if ← takeKeyword "ALL" then do
      pure ("ALL" ++ flag "PRIVILEGES" (← takeKeyword "PRIVILEGES"))
    else do
      let actions ← list do
        let k ← oneOf ["SELECT", "INSERT", "UPDATE", "REFERENCES", "DELETE", "TRUNCATE", "TRIGGER",
          "USAGE", "CREATE", "CONNECT", "TEMPORARY", "TEMP", "EXECUTE", "MODIFY", "OWNERSHIP",
          "MONITOR", "OPERATE", "READ", "WRITE", "EXEC", "DROP"]
        if ← atSymbol "(" then return k ++ " " ++ (← columns) else return k
      pure (commas actions)
  let objects ← after "ON" do
    if ← takeKeywords ["ALL", "TABLES", "IN", "SCHEMA"] then
      return "ALL TABLES IN SCHEMA " ++ commas (← list objectText)
    else if ← takeKeywords ["ALL", "SEQUENCES", "IN", "SCHEMA"] then
      return "ALL SEQUENCES IN SCHEMA " ++ commas (← list objectText)
    else
      match ← takeAny ["SEQUENCE", "DATABASE", "SCHEMA", "TABLE", "VIEW", "WAREHOUSE"] with
      | some "TABLE" | none => return commas (← list objectText)
      | some k => return k ++ " " ++ commas (← list objectText)
  return actions ++ clause "ON" objects

def grant : Parser String := do
  let rights ← rights
  keyword "TO"
  let names ← list objectText
  let further ← takeKeywords ["WITH", "GRANT", "OPTION"]
  let grantor ← afterAll ["GRANTED", "BY"] ident
  return "GRANT " ++ rights ++ " TO " ++ commas names ++ flag "WITH GRANT OPTION" further
    ++ clause "GRANTED BY" (grantor.map Ident.render)

def revoke : Parser String := do
  let rights ← rights
  keyword "FROM"
  let names ← list objectText
  let grantor ← afterAll ["GRANTED", "BY"] ident
  let reach ← takeAny ["CASCADE", "RESTRICT"]
  return "REVOKE " ++ rights ++ " FROM " ++ commas names
    ++ clause "GRANTED BY" (grantor.map Ident.render) ++ Frame.suffix " " reach ""

def comment : Parser String := do
  let present ← takeKeywords ["IF", "EXISTS"]
  keyword "ON"
  let kind ← if ← takeKeywords ["MATERIALIZED", "VIEW"] then pure "MATERIALIZED VIEW" else
    oneOf ["COLUMN", "DATABASE", "DOMAIN", "EXTENSION", "FUNCTION", "INDEX", "PROCEDURE", "ROLE",
      "SCHEMA", "SEQUENCE", "TABLE", "TYPE", "USER", "VIEW"]
  let name ← objectText
  keyword "IS"
  let note ← if ← takeKeyword "NULL" then pure "NULL" else pure ("'" ++ (← text) ++ "'")
  return "COMMENT" ++ flag "IF EXISTS" present ++ " ON " ++ kind ++ " " ++ name ++ " IS " ++ note

def assertion (r : Rules) : Parser String := do
  let e ← r.exprText
  return "ASSERT " ++ e ++ clause "AS" (← after "AS" r.exprText)

def analyze : Parser String := do
  let table ← takeKeyword "TABLE"
  let name ← objectText
  let statistics ← takeKeywords ["COMPUTE", "STATISTICS"]
  return "ANALYZE" ++ flag "TABLE" table ++ " " ++ name ++ flag "COMPUTE STATISTICS" statistics

end LedgerQuery.Sql.Parser
