import LedgerQuery.Sql.Parser.Query

/-!
# Statements that define tables and other objects
-/

namespace LedgerQuery.Sql.Parser

def constraintName : Parser String := do
  match ← after "CONSTRAINT" ident with
  | some i => return "CONSTRAINT " ++ i.render ++ " "
  | none => return ""

/-- The columns of another table. -/
def reference (gap : String) : Parser String := do
  let table ← objectText
  let columns ← if ← atSymbol "(" then pure (gap ++ (← columns)) else pure ""
  return "REFERENCES " ++ table ++ columns

/-- What is said about one column. -/
def columnOption (r : Rules) : Parser (Option String) := do
  let name ← constraintName
  let said (text : String) : Parser (Option String) := return some (" " ++ name ++ text)
  if ← takeKeywords ["NOT", "NULL"] then said "NOT NULL"
  else if ← takeKeyword "NULL" then said "NULL"
  else if ← takeKeyword "DEFAULT" then said ("DEFAULT " ++ (← r.exprText))
  else if ← takeKeywords ["PRIMARY", "KEY"] then said "PRIMARY KEY"
  else if ← takeKeyword "UNIQUE" then said "UNIQUE"
  else if ← takeKeyword "REFERENCES" then said (← reference " ")
  else if ← takeKeyword "CHECK" then said ("CHECK (" ++ (← parens r.exprText) ++ ")")
  else if ← takeKeyword "COMMENT" then said ("COMMENT " ++ quoted '\'' (← text))
  else if ← takeKeyword "COLLATE" then said ("COLLATE " ++ (← objectText))
  else
    match ← takeAny ["AUTO_INCREMENT", "AUTOINCREMENT", "ASC", "DESC"] with
    | some k => said k
    | none => if name.isEmpty then return none else fail

def column (r : Rules) : Parser String := do
  let name ← ident
  let t ← dataType
  return name.render ++ " " ++ t.text ++ String.join (← many (columnOption r))

/-- What is said about several columns of a new table, if anything. -/
def tableConstraint (r : Rules) : Parser (Option String) := do
  let name ← constraintName
  let said (text : String) : Parser (Option String) := return some (name ++ text)
  if ← takeKeywords ["PRIMARY", "KEY"] then said ("PRIMARY KEY " ++ (← columns))
  else if ← takeKeyword "UNIQUE" then said ("UNIQUE " ++ (← columns))
  else if ← takeKeywords ["FOREIGN", "KEY"] then
    let own ← columns
    keyword "REFERENCES"
    said ("FOREIGN KEY " ++ own ++ " " ++ (← reference ""))
  else if ← takeKeyword "CHECK" then said ("CHECK (" ++ (← parens r.exprText) ++ ")")
  else if name.isEmpty then return none
  else fail

/-- The columns and constraints of a new table; the columns are shown first. -/
def tableParts (r : Rules) : Parser String := do
  let parts ← if ← atSymbol ")" then pure [] else list do
    match ← tableConstraint r with
    | some c => return (false, c)
    | none => return (true, ← column r)
  symbol ")"
  let shown := parts.filter Prod.fst ++ parts.filter fun p => !p.1
  return " (" ++ commas (shown.map Prod.snd) ++ ")"

def ifNotExists : Parser String := do
  return if ← takeKeywords ["IF", "NOT", "EXISTS"] then "IF NOT EXISTS " else ""

def createTable (r : Rules) (start : String) : Parser String := do
  let absent ← ifNotExists
  let name ← objectText
  let parts ← if ← takeSymbol "(" then tableParts r else pure ""
  let source ← after "AS" r.queryText
  let parts := if parts.isEmpty && source.isNone then " ()" else parts
  return start ++ "TABLE " ++ absent ++ name ++ parts ++ clause "AS" source

def createView (r : Rules) (start : String) : Parser String := do
  let absent ← ifNotExists
  let name ← objectText
  let columns ← if ← atSymbol "(" then pure (" " ++ (← columns)) else pure ""
  keyword "AS"
  return start ++ "VIEW " ++ absent ++ name ++ columns ++ " AS " ++ (← r.queryText)

def createIndex (r : Rules) (start : String) : Parser String := do
  let absent ← ifNotExists
  let name ← if ← atKeyword "ON" then pure "" else pure ((← objectText) ++ " ")
  keyword "ON"
  let table ← objectText
  let method ← after "USING" ident
  let keys ← parens (list (sortItem r))
  return start ++ "INDEX " ++ absent ++ name ++ "ON " ++ table
    ++ Frame.suffix " USING " (method.map Ident.render) " "
    ++ "(" ++ ",".intercalate (keys.map SortItem.render) ++ ")"

def create (r : Rules) : Parser String := do
  let replace ← if ← takeKeywords ["OR", "REPLACE"] then pure "OR REPLACE " else pure ""
  let temporary ← match ← takeAny ["TEMP", "TEMPORARY"] with
    | some _ => pure "TEMPORARY "
    | none => pure ""
  let start := "CREATE " ++ replace ++ temporary
  if ← takeKeyword "TABLE" then createTable r start
  else if ← takeKeywords ["MATERIALIZED", "VIEW"] then createView r (start ++ "MATERIALIZED ")
  else if ← takeKeyword "VIEW" then createView r start
  else if ← takeKeywords ["UNIQUE", "INDEX"] then createIndex r (start ++ "UNIQUE ")
  else if ← takeKeyword "INDEX" then createIndex r start
  else
    let kind ← oneOf ["SCHEMA", "DATABASE", "SEQUENCE", "ROLE", "EXTENSION"]
    let absent ← ifNotExists
    return start ++ kind ++ " " ++ absent ++ (← objectText)

def drop : Parser String := do
  let temporary ← takeKeyword "TEMPORARY"
  let kind ← oneOf ["TABLE", "VIEW", "INDEX", "ROLE", "SCHEMA", "DATABASE", "SEQUENCE", "STAGE",
    "TYPE"]
  let present ← takeKeywords ["IF", "EXISTS"]
  let names ← list objectText
  let cascade ← takeKeyword "CASCADE"
  let restrict ← takeKeyword "RESTRICT"
  let purge ← takeKeyword "PURGE"
  if cascade && restrict || kind == "ROLE" && (cascade || restrict || purge) then fail
  return "DROP" ++ flag "TEMPORARY" temporary ++ " " ++ kind ++ flag "IF EXISTS" present ++ " "
    ++ commas names ++ flag "CASCADE" cascade ++ flag "RESTRICT" restrict ++ flag "PURGE" purge

def truncate : Parser String := do
  let table ← takeKeyword "TABLE"
  return "TRUNCATE" ++ flag "TABLE" table ++ " " ++ commas (← list objectText)

def alteration (r : Rules) : Parser String := do
  if ← takeKeyword "ADD" then
    match ← tableConstraint r with
    | some c => return "ADD " ++ c
    | none =>
      let explicit ← takeKeyword "COLUMN"
      let absent ← ifNotExists
      return "ADD" ++ flag "COLUMN" explicit ++ " " ++ absent ++ (← column r)
  else if ← takeKeyword "DROP" then
    let explicit ← takeKeyword "COLUMN"
    let present ← takeKeywords ["IF", "EXISTS"]
    let name ← ident
    let cascade ← takeKeyword "CASCADE"
    return "DROP" ++ flag "COLUMN" explicit ++ flag "IF EXISTS" present ++ " " ++ name.render
      ++ flag "CASCADE" cascade
  else if ← takeKeyword "ALTER" then
    let _ ← takeKeyword "COLUMN"
    let name ← ident
    let change ←
      if ← takeKeywords ["SET", "NOT", "NULL"] then pure "SET NOT NULL"
      else if ← takeKeywords ["DROP", "NOT", "NULL"] then pure "DROP NOT NULL"
      else if ← takeKeywords ["SET", "DEFAULT"] then pure ("SET DEFAULT " ++ (← r.exprText))
      else if ← takeKeywords ["DROP", "DEFAULT"] then pure "DROP DEFAULT"
      else do
        let _ ← takeKeywords ["SET", "DATA"]
        keyword "TYPE"
        pure ("SET DATA TYPE " ++ (← dataType).text)
    return "ALTER COLUMN " ++ name.render ++ " " ++ change
  else
    keyword "RENAME"
    if ← takeKeyword "TO" then return "RENAME TO " ++ (← objectText)
    else
      let _ ← takeKeyword "COLUMN"
      let old ← ident
      keyword "TO"
      return "RENAME COLUMN " ++ old.render ++ " TO " ++ (← ident).render

def rename : Parser String := do
  keyword "TABLE"
  let names ← list do
    let old ← objectText
    keyword "TO"
    return old ++ " TO " ++ (← objectText)
  return "RENAME TABLE " ++ commas names

def alter (r : Rules) : Parser String := do
  if ← takeKeyword "VIEW" then
    let name ← objectText
    let columns ← if ← atSymbol "(" then pure (" " ++ (← columns)) else pure ""
    keyword "AS"
    return "ALTER VIEW " ++ name ++ columns ++ " AS " ++ (← r.queryText)
  if ← takeKeyword "INDEX" then
    let name ← objectText
    keywords ["RENAME", "TO"]
    return "ALTER INDEX " ++ name ++ " RENAME TO " ++ (← objectText)
  keyword "TABLE"
  let present ← takeKeywords ["IF", "EXISTS"]
  let only ← takeKeyword "ONLY"
  let name ← objectText
  let changes ← list (alteration r)
  return "ALTER TABLE" ++ flag "IF EXISTS" present ++ flag "ONLY" only ++ " " ++ name ++ " "
    ++ commas changes

end LedgerQuery.Sql.Parser
