import LedgerQuery.Sql.Parser.Call

/-!
# Expressions that start with a keyword

Each of these forms is read after its keyword.
-/

namespace LedgerQuery.Sql.Parser

def alternative (r : Rules) : Parser String := do
  let condition ← r.exprText
  keyword "THEN"
  return " WHEN " ++ condition ++ " THEN " ++ (← r.exprText)

def choice (r : Rules) : Parser Expr := do
  let subject ← if ← takeKeyword "WHEN" then pure none else do
    let e ← r.exprText
    keyword "WHEN"
    pure (some e)
  let first ← alternative r
  let rest ← many (after "WHEN" (alternative r))
  let otherwise ← after "ELSE" r.exprText
  keyword "END"
  return .other ("CASE" ++ Frame.suffix " " subject "" ++ String.join (first :: rest)
    ++ Frame.suffix " ELSE " otherwise "" ++ " END")

def castFormat : Parser String := do
  let l ← literal
  let zone ← afterAll ["AT", "TIME", "ZONE"] literal
  return " FORMAT " ++ l.render ++ Frame.suffix " AT TIME ZONE " (zone.map Literal.render) ""

def cast (r : Rules) (name : String) : Parser Expr := do
  symbol "("
  let e ← r.exprText
  keyword "AS"
  let t ← dataType
  let format ← after "FORMAT" castFormat
  symbol ")"
  return .other (name ++ "(" ++ e ++ " AS " ++ t.text ++ format.getD "" ++ ")")

def convert (r : Rules) (name : String) : Parser Expr := do
  symbol "("
  let e ← r.exprText
  let target ← if ← takeKeyword "USING" then pure (" USING " ++ (← objectText)) else do
    symbol ","
    let t ← dataType
    let charset ← afterAll ["CHARACTER", "SET"] objectText
    pure (", " ++ t.text ++ Frame.suffix " CHARACTER SET " charset "")
  symbol ")"
  return .other (name ++ "(" ++ e ++ target ++ ")")

def existence (r : Rules) (start : String) : Parser Expr := do
  return .other (start ++ "EXISTS (" ++ (← parens r.queryText) ++ ")")

def extract (r : Rules) : Parser Expr := do
  symbol "("
  let field ← timePart
  let gap ← if ← takeKeyword "FROM" then pure " FROM " else do
    symbol ","
    pure ", "
  let e ← r.exprText
  symbol ")"
  return .other ("EXTRACT(" ++ field ++ gap ++ e ++ ")")

/-- A rounding to a whole number, a number of places or a part of a time. -/
def rounding (r : Rules) (name : String) : Parser Expr := do
  symbol "("
  let e ← r.exprText
  let scale ←
    if ← takeKeyword "TO" then pure (" TO " ++ (← timePart))
    else if ← takeSymbol "," then
      match ← literal with
      | .number s long => pure (", " ++ (Literal.number s long).render)
      | _ => fail
    else pure ""
  symbol ")"
  return .other (name ++ "(" ++ e ++ scale ++ ")")

def position (r : Rules) : Parser Expr := do
  symbol "("
  let e ← r.operand 20
  keyword "IN"
  let within ← r.exprText
  symbol ")"
  return .other ("POSITION(" ++ e.render ++ " IN " ++ within ++ ")")

def substring (r : Rules) (name : String) : Parser Expr := do
  symbol "("
  let e ← r.exprText
  let plain ← takeSymbol ","
  let start ← if plain then pure (some (← r.exprText)) else after "FROM" r.exprText
  let length ←
    if ← takeKeyword "FOR" then pure (some (← r.exprText))
    else if ← takeSymbol "," then pure (some (← r.exprText))
    else pure none
  symbol ")"
  let (first, second) := if plain then (", ", ", ") else (" FROM ", " FOR ")
  return .other (name ++ "(" ++ e ++ Frame.suffix first start "" ++ Frame.suffix second length ""
    ++ ")")

def overlay (r : Rules) : Parser Expr := do
  symbol "("
  let e ← r.exprText
  keyword "PLACING"
  let what ← r.exprText
  keyword "FROM"
  let start ← r.exprText
  let length ← after "FOR" r.exprText
  symbol ")"
  return .other ("OVERLAY(" ++ e ++ " PLACING " ++ what ++ " FROM " ++ start
    ++ Frame.suffix " FOR " length "" ++ ")")

/-- A text without what stands at its ends. -/
def trim (r : Rules) : Parser Expr := do
  symbol "("
  let side ← takeAny ["BOTH", "LEADING", "TRAILING"]
  let e ← r.exprText
  let start := Frame.suffix "" side " "
  let body ←
    if ← takeKeyword "FROM" then pure (start ++ e ++ " FROM " ++ (← r.exprText))
    else if ← takeSymbol "," then pure (e ++ ", " ++ (← r.exprTexts))
    else pure (start ++ e)
  symbol ")"
  return .other ("TRIM(" ++ body ++ ")")

def array (r : Rules) (name : String) : Parser Expr := do
  let es ← if ← atSymbol "]" then pure "" else r.exprTexts
  symbol "]"
  return .other (name ++ "[" ++ es ++ "]")

/-- A record of values, which may have names. -/
def record (r : Rules) : Parser Expr := do
  let field : Parser String := do
    let e ← r.exprText
    return e ++ Frame.suffix " AS " ((← after "AS" ident).map Ident.render) ""
  return .other ("STRUCT(" ++ commas (← parens (list field)) ++ ")")

/-- A function of the time, which needs no parentheses. -/
def timeFunction (r : Rules) (name : Ident) : Parser Expr := do
  if ← takeSymbol "(" then
    let l ← argumentList r
    return callOf { Frame.ofName [name] with duplicates := l.duplicates, clauses := l.clauses }
      l.arguments
  else return .callOther (.ofName [name]) none

def negation (r : Rules) : Parser Expr := do
  if ← takeKeyword "EXISTS" then existence r "NOT "
  else return .unary .not (← r.operand 15)

def search : Parser Expr := do
  let columns ← columns
  keyword "AGAINST"
  symbol "("
  let l ← literal
  let mode ←
    if ← takeKeywords ["IN", "NATURAL", "LANGUAGE", "MODE", "WITH", "QUERY", "EXPANSION"] then
      pure " IN NATURAL LANGUAGE MODE WITH QUERY EXPANSION"
    else if ← takeKeywords ["IN", "NATURAL", "LANGUAGE", "MODE"] then
      pure " IN NATURAL LANGUAGE MODE"
    else if ← takeKeywords ["IN", "BOOLEAN", "MODE"] then pure " IN BOOLEAN MODE"
    else if ← takeKeywords ["WITH", "QUERY", "EXPANSION"] then pure " WITH QUERY EXPANSION"
    else pure ""
  symbol ")"
  return .other ("MATCH " ++ columns ++ " AGAINST (" ++ l.render ++ mode ++ ")")

/-- The form that a keyword starts, if it starts any. The keyword has been taken. -/
def form (r : Rules) (i : Ident) : Parser (Option Expr) := do
  let only (p : Parser Expr) : Parser (Option Expr) := do return some (← p)
  match i.key with
  | "TRUE" => return some (.literal (.bool true))
  | "FALSE" => return some (.literal (.bool false))
  | "NULL" => return some (.literal .null)
  | "CURRENT_CATALOG" | "CURRENT_USER" | "SESSION_USER" | "USER" =>
    return some (.callOther (.ofName [i]) none)
  | "CURRENT_TIMESTAMP" | "CURRENT_TIME" | "CURRENT_DATE" | "LOCALTIME" | "LOCALTIMESTAMP" =>
    only (timeFunction r i)
  | "CASE" => only (choice r)
  | "CONVERT" | "TRY_CONVERT" => only (convert r i.key)
  | "CAST" | "TRY_CAST" | "SAFE_CAST" => only (cast r i.key)
  | "EXISTS" => only (existence r "")
  | "EXTRACT" => only (extract r)
  | "CEIL" | "FLOOR" => only (rounding r i.key)
  | "POSITION" => attempt (position r)
  | "SUBSTR" | "SUBSTRING" => only (substring r i.key)
  | "OVERLAY" => only (overlay r)
  | "TRIM" => only (trim r)
  | "INTERVAL" => only (interval r)
  | "NOT" => only (negation r)
  | "MATCH" => only search
  | "STRUCT" => only (record r)
  | "ARRAY" =>
    if ← takeSymbol "[" then only (array r "ARRAY")
    else if ← atSymbol "(" then
      return some (.callOther (.ofName [i]) (some (← parens r.queryText)))
    else return none
  | _ => return none

end LedgerQuery.Sql.Parser
