import LedgerQuery.Sql.Parser.Interval

/-!
# Calls of functions
-/

namespace LedgerQuery.Sql.Parser

/-- What a function is called on. -/
inductive Argument
  | expr (e : Expr)
  | star
  | other (text : String)

def Argument.render : Argument → String
  | .expr e => e.render
  | .star => "*"
  | .other text => text

/-- The names before a star and its point. -/
def starQualifier : Parser (List Ident) := do
  let first ← ident
  symbol "."
  let rest ← many do
    if ← takeSymbol "*" then return none
    else
      let i ← ident
      symbol "."
      return some i
  return first :: rest

/-- Where names with points between them start, what follows every point must be a name or a
star. -/
def checkNames : Parser Unit := fun ts => do
  match (do let _ ← ident; require (atSymbol ".")).run ts with
  | .ok _ =>
    let name : Parser Unit := do
      let _ ← ident
      let _ ← many do if ← takeSymbol "." then return some (← ident) else return none
    let (_, _) ← name.run ts
    return ((), ts)
  | .error _ => return ((), ts)

/-- An expression, a star, or the star of one table. -/
inductive Item
  | expr (e : Expr)
  | star
  | starOf (qualifier : List Ident)

def starOr (r : Rules) : Parser Item := do
  match ← attempt starQualifier with
  | some qualifier => return .starOf qualifier
  | none =>
    if ← takeSymbol "*" then return .star
    else
      checkNames
      return .expr (← r.expr)

def plainArgument (r : Rules) : Parser Argument := do
  match ← starOr r with
  | .expr e => return .expr e
  | .star => return .star
  | .starOf qualifier => return .other (renderName qualifier ++ ".*")

def namedArgument (r : Rules) : Parser Argument := do
  let i ← ident
  let arrow ← if ← takeKeyword "VALUE" then pure "VALUE" else
    match ← next with
    | .symbol "=>" => pure "=>"
    | .symbol ":=" => pure ":="
    | _ => fail
  let a ← plainArgument r
  return .other (i.render ++ " " ++ arrow ++ " " ++ a.render)

def argument (r : Rules) : Parser Argument := do
  match ← attempt (namedArgument r) with
  | some a => return a
  | none => plainArgument r

def nullTreatment : Parser (Option String) := do
  match ← takeAny ["RESPECT", "IGNORE"] with
  | some k =>
    keyword "NULLS"
    return some (k ++ " NULLS")
  | none => return none

def documentNulls : Parser (Option String) := do
  if ← takeKeywords ["ABSENT", "ON", "NULL"] then return some "ABSENT ON NULL"
  else if ← takeKeywords ["NULL", "ON", "NULL"] then return some "NULL ON NULL"
  else return none

def duplicates : Parser (Option Duplicates) := do
  if ← takeKeyword "ALL" then
    if ← takeKeyword "DISTINCT" then fail
    return some .all
  else if ← takeKeyword "DISTINCT" then return some .distinct
  else return none

/-- What becomes of a list that is too long. -/
def overflow (r : Rules) : Parser String := do
  if ← takeKeyword "ERROR" then return "ON OVERFLOW ERROR"
  else
    keyword "TRUNCATE"
    let filler ← match ← peek with
      | some (.literal _) => pure (" " ++ (← r.exprText))
      | _ => pure ""
    let k ← oneOf ["WITH", "WITHOUT"]
    keyword "COUNT"
    return "ON OVERFLOW TRUNCATE" ++ filler ++ " " ++ k ++ " COUNT"

/-- The least or greatest value that a group is cut to. -/
def bound (r : Rules) : Parser String := do
  let k ← oneOf ["MIN", "MAX"]
  return "HAVING " ++ k ++ " " ++ (← r.exprText)

/-- What may follow the arguments inside the parentheses. -/
def argumentClauses (r : Rules) : Parser (List String) := do
  let nulls ← nullTreatment
  let order ← afterAll ["ORDER", "BY"] (sortTexts r)
  let limit ← after "LIMIT" r.exprText
  let bound ← after "HAVING" (bound r)
  let separator ← after "SEPARATOR" literal
  let overflow ← afterAll ["ON", "OVERFLOW"] (overflow r)
  let document ← documentNulls
  return [nulls, order.map ("ORDER BY " ++ ·), limit.map ("LIMIT " ++ ·), bound,
    separator.map fun l => "SEPARATOR " ++ l.render, overflow, document].filterMap id

structure ArgumentList where
  duplicates : Option Duplicates
  arguments : List Argument
  clauses : List String

def ArgumentList.treatsNulls (l : ArgumentList) : Bool :=
  l.clauses.any fun c => c == "IGNORE NULLS" || c == "RESPECT NULLS"

/-- The arguments of a call after the parenthesis that opens them. -/
def argumentList (r : Rules) : Parser ArgumentList := do
  let document ← documentNulls
  if ← takeSymbol ")" then return ⟨none, [], document.toList⟩
  else
    let d ← duplicates
    let args ← list (argument r)
    let clauses ← argumentClauses r
    symbol ")"
    return ⟨d, args, document.toList ++ clauses⟩

/-! ## Windows -/

def frameBound (r : Rules) : Parser String := do
  if ← takeKeywords ["CURRENT", "ROW"] then return "CURRENT ROW"
  else
    let rows ←
      if ← takeKeyword "UNBOUNDED" then pure "UNBOUNDED"
      else
        match ← peek with
        | some (.literal (.text _)) => pure (← interval r).render
        | _ => r.exprText
    return rows ++ " " ++ (← oneOf ["PRECEDING", "FOLLOWING"])

/-- The rows around a row that a window shows. -/
def windowFrame (r : Rules) : Parser String := do
  let units ← oneOf ["ROWS", "RANGE", "GROUPS"]
  if ← takeKeyword "BETWEEN" then
    let start ← frameBound r
    keyword "AND"
    return units ++ " BETWEEN " ++ start ++ " AND " ++ (← frameBound r)
  else return units ++ " " ++ (← frameBound r)

/-- A window after the parenthesis that opens it. -/
def windowRest (r : Rules) : Parser String := do
  let name ←
    if ← atAny ["PARTITION", "ORDER", "ROWS", "RANGE", "GROUPS"] then pure none
    else do
      let i ← attempt ident
      pure (i.map Ident.render)
  let partition ← afterAll ["PARTITION", "BY"] r.exprTexts
  let order ← afterAll ["ORDER", "BY"] (sortTexts r)
  let frame ← if ← atSymbol ")" then pure none else do pure (some (← windowFrame r))
  symbol ")"
  return " ".intercalate ([name, partition.map ("PARTITION BY " ++ ·),
    order.map ("ORDER BY " ++ ·), frame].filterMap id)

def window (r : Rules) : Parser String := do
  if ← takeSymbol "(" then return "(" ++ (← windowRest r) ++ ")"
  else return (← ident).render

/-! ## Calls -/

/-- The condition on the records that a function sees. The keyword counts even where no condition
follows. -/
def filterClause (r : Rules) : Parser (Option String) := do
  if ← takeKeyword "FILTER" then
    if ← takeSymbol "(" then
      if ← takeKeyword "WHERE" then
        let condition ← r.exprText
        symbol ")"
        return some condition
  return none

def callOf (f : Frame) : List Argument → Expr
  | [.star] => .callStar f
  | [.expr e] => .call f e
  | arguments => .callOther f (some (commas (arguments.map Argument.render)))

def ArgumentList.render (l : ArgumentList) : String :=
  let f : Frame := ⟨[], none, l.duplicates, l.clauses, none, none, none, none⟩
  f.render (some (commas (l.arguments.map Argument.render)))

/-- A call of the function with a name, from the parenthesis on. -/
def call (r : Rules) (name : List Ident) : Parser Expr := do
  symbol "("
  let first ← argumentList r
  let (parameters, l) ← if ← takeSymbol "(" then pure (some first.render, ← argumentList r)
    else pure (none, first)
  let within ← afterAll ["WITHIN", "GROUP"] (parens do keywords ["ORDER", "BY"]; sortTexts r)
  let condition ← filterClause r
  let nulls ← if l.treatsNulls then pure none else nullTreatment
  let view ← after "OVER" (window r)
  return callOf ⟨name, parameters, l.duplicates, l.clauses, within, condition, nulls, view⟩
    l.arguments

end LedgerQuery.Sql.Parser
