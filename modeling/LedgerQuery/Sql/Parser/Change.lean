import LedgerQuery.Sql.Parser.Query

/-!
# Statements that change rows
-/

namespace LedgerQuery.Sql.Parser

/-- The rows that a changing statement answers with. -/
def returning (r : Rules) : Parser String := do
  let entries ← listAfter ["RETURNING"] (entry r)
  return listClause "RETURNING" (entries.map Entry.render)

def conflict : Parser String := do
  if ← takeKeyword "OR" then
    return " OR " ++ (← oneOf ["REPLACE", "ROLLBACK", "ABORT", "FAIL", "IGNORE"])
  else return ""

/-- The statement after `INSERT` or `REPLACE`, which is the word that it starts with. -/
def insert (r : Rules) (start : String) : Parser String := do
  let conflict ← conflict
  let ignore ← takeKeyword "IGNORE"
  let overwrite ← takeKeyword "OVERWRITE"
  let into ← takeKeyword "INTO"
  let table ← takeKeyword "TABLE"
  let name ← objectText
  let source ←
    if ← takeKeywords ["DEFAULT", "VALUES"] then pure "DEFAULT VALUES"
    else do
      let named ← match ← get with
        | .symbol "(" :: t :: _ =>
          if ["SELECT", "WITH"].contains t.key then pure "" else pure ((← columns) ++ " ")
        | _ => pure ""
      pure (named ++ (← r.queryText))
  return start ++ conflict ++ flag "IGNORE" ignore ++ flag "OVERWRITE" overwrite
    ++ flag "INTO" into ++ flag "TABLE" table ++ " " ++ name ++ " " ++ source ++ (← returning r)

def condition (r : Rules) : Parser String := do return clause "WHERE" (← after "WHERE" r.exprText)

def delete (r : Rules) : Parser String := do
  let explicit ← takeKeyword "FROM"
  let tables ← list (joined r)
  let others ← listAfter ["USING"] (joined r)
  let condition ← condition r
  let returning ← returning r
  let order ← afterAll ["ORDER", "BY"] (sortTexts r)
  let limit ← after "LIMIT" r.exprText
  return "DELETE" ++ flag "FROM" explicit ++ " " ++ commas (tables.map Joined.render)
    ++ listClause "USING" (others.map Joined.render) ++ condition ++ returning
    ++ clause "ORDER BY" order ++ clause "LIMIT" limit

def assignment (r : Rules) : Parser String := do
  let name ← if ← atSymbol "(" then pure ("(" ++ commas (← parens (list objectText)) ++ ")")
    else objectText
  symbol "="
  return name ++ " = " ++ (← r.exprText)

def update (r : Rules) : Parser String := do
  let conflict ← conflict
  let table ← joined r
  keyword "SET"
  let changes ← list (assignment r)
  let sources ← listAfter ["FROM"] (joined r)
  let condition ← condition r
  return "UPDATE" ++ conflict ++ " " ++ table.render ++ " SET " ++ commas changes
    ++ listClause "FROM" (sources.map Joined.render) ++ condition ++ (← returning r)

def mergeCase (r : Rules) : Parser String := do
  let absent ← takeKeyword "NOT"
  keyword "MATCHED"
  let side ← after "BY" (oneOf ["SOURCE", "TARGET"])
  let condition ← after "AND" r.exprText
  keyword "THEN"
  let start := "WHEN" ++ flag "NOT" absent ++ " MATCHED" ++ clause "BY" side
    ++ clause "AND" condition ++ " THEN "
  if ← takeKeyword "DELETE" then return start ++ "DELETE"
  else if ← takeKeyword "UPDATE" then
    keyword "SET"
    return start ++ "UPDATE SET " ++ commas (← list (assignment r))
  else
    keyword "INSERT"
    let columns ← if ← atSymbol "(" then pure ((← columns) ++ " ") else pure ""
    if ← takeKeyword "ROW" then return start ++ "INSERT " ++ columns ++ "ROW"
    else
      keyword "VALUES"
      return start ++ "INSERT " ++ columns ++ (← rows r)

def merge (r : Rules) : Parser String := do
  let into ← takeKeyword "INTO"
  let table ← r.factor
  keyword "USING"
  let source ← r.factor
  keyword "ON"
  let condition ← r.exprText
  let cases ← many (after "WHEN" (mergeCase r))
  return "MERGE" ++ flag "INTO" into ++ " " ++ table.render ++ " USING " ++ source.render ++ " ON "
    ++ " ".intercalate (condition :: cases)

/-- The statement after `COPY`: rows between a table and a file. -/
def copy : Parser String := do
  let name ← objectText
  let columns ← if ← atSymbol "(" then pure (" " ++ (← columns)) else pure ""
  let direction ← oneOf ["FROM", "TO"]
  match ← next with
  | .literal (.text s) =>
    return "COPY " ++ name ++ columns ++ " " ++ direction ++ " " ++ quoted '\'' s
  | _ => fail

end LedgerQuery.Sql.Parser
