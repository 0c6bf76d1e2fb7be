import LedgerQuery.Sql.Parser.Alias
import LedgerQuery.Sql.Parser.Call

/-!
# Tables and joins
-/

namespace LedgerQuery.Sql.Parser

def aliasColumns : Parser String := do
  if ← takeSymbol "(" then
    let cs ← list do
      let i ← ident
      let t ← attempt dataType
      return i.render ++ Frame.suffix " " (t.map DataType.text) ""
    symbol ")"
    return " (" ++ commas cs ++ ")"
  else return ""

def tableAlias : Parser (Option String) := do
  match ← alias? notTableAliases with
  | some i => return some (i.render ++ (← aliasColumns))
  | none => return none

def sample (r : Rules) : Parser String := do
  match ← takeAny ["TABLESAMPLE", "SAMPLE"] with
  | none => return ""
  | some k =>
    let method ← takeAny ["BERNOULLI", "ROW", "SYSTEM", "BLOCK"]
    let quantity : Parser String := do
      let e ← r.exprText
      return e ++ Frame.suffix " " (← takeAny ["ROWS", "PERCENT"]) ""
    let amount ← if ← takeSymbol "(" then do
        let q ← quantity
        symbol ")"
        pure ("(" ++ q ++ ")")
      else quantity
    let seed ← match ← takeAny ["REPEATABLE", "SEED"] with
      | some s => do pure (" " ++ s ++ " (" ++ (← parens count) ++ ")")
      | none => pure ""
    let offset ← after "OFFSET" r.exprText
    return " " ++ k ++ Frame.suffix " " method "" ++ " " ++ amount ++ seed
      ++ Frame.suffix " OFFSET " offset ""

/-- The arguments of a table that is a function, after the parenthesis that opens them. -/
def tableArguments (r : Rules) : Parser String := do
  let args ← if ← atSymbol ")" then pure [] else list (argument r)
  symbol ")"
  return "(" ++ commas (args.map Argument.render) ++ ")"

def namedTable (r : Rules) : Parser Factor := do
  let name ← objectName
  let partitions ← after "PARTITION" columns
  let arguments ← if ← takeSymbol "(" then tableArguments r else pure ""
  let ordinality ← takeKeywords ["WITH", "ORDINALITY"]
  let label ← tableAlias
  let hints ← match ← get with
    | t :: .symbol "(" :: ts =>
      if t.key == "WITH" then do
        set ts
        let es ← r.exprTexts
        symbol ")"
        pure (" WITH (" ++ es ++ ")")
      else pure ""
    | _ => pure ""
  let sample ← sample r
  return ⟨.table name, Frame.suffix "PARTITION " partitions "" ++ arguments
    ++ flag "WITH ORDINALITY" ordinality, label, hints ++ sample⟩

/-! ## Pivots -/

def namedExpr (r : Rules) : Parser String := do
  let e ← r.exprText
  return e ++ clause "AS" ((← after "AS" ident).map Ident.render)

def namedCall (r : Rules) : Parser String := do
  match ← next with
  | .word i =>
    let e ← call r [⟨i.value, none⟩]
    return e.render ++ clause "AS" ((← after "AS" ident).map Ident.render)
  | _ => fail

/-- The values that become columns. -/
def pivotValues (r : Rules) : Parser String := do
  if ← takeKeyword "ANY" then
    let order ← afterAll ["ORDER", "BY"] (sortTexts r)
    return "ANY" ++ clause "ORDER BY" order
  else if ← atQuery then r.queryText
  else return commas (← list (namedExpr r))

def pivot (r : Rules) : Parser String := parens do
  let calls ← list (namedCall r)
  keyword "FOR"
  let column ← objectText
  keyword "IN"
  let values ← parens (pivotValues r)
  let default ← afterAll ["DEFAULT", "ON", "NULL"] (parens r.exprText)
  return " PIVOT(" ++ commas calls ++ " FOR " ++ column ++ " IN (" ++ values ++ ")"
    ++ Frame.suffix " DEFAULT ON NULL (" default ")" ++ ")"

def unpivot : Parser String := do
  let nulls ← takeAny ["INCLUDE", "EXCLUDE"]
  if nulls.isSome then keyword "NULLS"
  parens do
    let value ← ident
    keyword "FOR"
    let name ← ident
    keyword "IN"
    return " UNPIVOT" ++ Frame.suffix " " nulls " NULLS " ++ "(" ++ value.render ++ " FOR "
      ++ name.render ++ " IN " ++ (← columns) ++ ")"

/-- A table with rows turned into columns or columns into rows, as often as that is asked for. -/
def pivoted (r : Rules) : Nat → Factor → Parser Factor
  | 0, f => return f
  | n + 1, f => do
    match ← takeAny ["PIVOT", "UNPIVOT"] with
    | none => return f
    | some k =>
      let text ← if k == "PIVOT" then pivot r else unpivot
      pivoted r n ⟨.other (f.render ++ text), "", ← tableAlias, ""⟩

def pivots (r : Rules) (f : Factor) : Parser Factor := do pivoted r (← get).length f

/-! ## What stands for a table -/

/-- A query in place of a table, after the parenthesis that opens it. -/
def derived (r : Rules) (start : String) : Parser Factor := do
  let q ← r.queryText
  symbol ")"
  return ⟨.other (start ++ "(" ++ q ++ ")"), "", ← tableAlias, ""⟩

/-- What may follow `LATERAL`: a query or a function. -/
def lateral (r : Rules) : Parser Factor := do
  if ← takeSymbol "(" then derived r "LATERAL "
  else
    let name ← objectText
    symbol "("
    let args ← tableArguments r
    return ⟨.other ("LATERAL " ++ name ++ args), "", ← tableAlias, ""⟩

def unnest (r : Rules) : Parser Factor := do
  let es ← parens r.exprTexts
  let ordinality ← takeKeywords ["WITH", "ORDINALITY"]
  let label ← tableAlias
  let offset ← takeKeywords ["WITH", "OFFSET"]
  let name ← if offset then alias? notEntryAliases else pure none
  return ⟨.other ("UNNEST(" ++ es ++ ")"), flag "WITH ORDINALITY" ordinality, label,
    flag "WITH OFFSET" offset ++ Frame.suffix " AS " (name.map Ident.render) ""⟩

def rows (r : Rules) : Parser String := do
  let rs ← list do
    let explicit ← takeKeyword "ROW"
    return (explicit, ← parens r.exprTexts)
  let start := if rs.any Prod.fst then "ROW" else ""
  return "VALUES " ++ commas (rs.map fun row => start ++ "(" ++ row.2 ++ ")")

/-! ## Joins -/

/-- The condition of a join. -/
def constraint (r : Rules) (natural : Bool) : Parser String := do
  if natural then return ""
  else if ← takeKeyword "ON" then return " ON " ++ (← r.exprText)
  else if ← takeKeyword "USING" then
    return " USING(" ++ commas (← parens (list objectText)) ++ ")"
  else return ""

def joinKinds : List (List String × String) := [
  (["JOIN"], "JOIN"), (["INNER", "JOIN"], "INNER JOIN"), (["LEFT", "JOIN"], "LEFT JOIN"),
  (["LEFT", "OUTER", "JOIN"], "LEFT OUTER JOIN"), (["LEFT", "SEMI", "JOIN"], "LEFT SEMI JOIN"),
  (["LEFT", "ANTI", "JOIN"], "LEFT ANTI JOIN"), (["RIGHT", "JOIN"], "RIGHT JOIN"),
  (["RIGHT", "OUTER", "JOIN"], "RIGHT OUTER JOIN"),
  (["RIGHT", "SEMI", "JOIN"], "RIGHT SEMI JOIN"), (["RIGHT", "ANTI", "JOIN"], "RIGHT ANTI JOIN"),
  (["FULL", "JOIN"], "FULL JOIN"), (["FULL", "OUTER", "JOIN"], "FULL JOIN"),
  (["ANTI", "JOIN"], "ANTI JOIN"), (["SEMI", "JOIN"], "SEMI JOIN"),
  (["STRAIGHT_JOIN"], "STRAIGHT_JOIN")]

def joinKind : List (List String × String) → Parser (Option String)
  | [] => return none
  | (ks, shown) :: rest => do
    if ← takeKeywords ks then return some shown else joinKind rest

def join (r : Rules) : Parser (Option String) := do
  let start ← if ← takeKeyword "GLOBAL" then pure "GLOBAL " else pure ""
  let bare (kind : String) : Parser (Option String) := do
    return some (start ++ kind ++ " " ++ (← r.factor).render)
  if ← takeKeywords ["CROSS", "JOIN"] then bare "CROSS JOIN"
  else if ← takeKeywords ["CROSS", "APPLY"] then bare "CROSS APPLY"
  else if ← takeKeywords ["OUTER", "APPLY"] then bare "OUTER APPLY"
  else if ← takeKeywords ["ASOF", "JOIN"] then
    let table ← r.factor
    keyword "MATCH_CONDITION"
    let condition ← parens r.exprText
    return some (start ++ "ASOF JOIN " ++ table.render ++ " MATCH_CONDITION (" ++ condition ++ ")"
      ++ (← constraint r false))
  else
    let natural ← takeKeyword "NATURAL"
    match ← joinKind joinKinds with
    | some kind =>
      let table ← r.factor
      let shown := if natural then "NATURAL " ++ kind else kind
      return some (start ++ shown ++ " " ++ table.render ++ (← constraint r natural))
    | none =>
      if natural || (← atAny ["CROSS", "OUTER", "ASOF", "INNER", "LEFT", "RIGHT", "FULL", "ANTI",
          "SEMI"]) then fail
      else return none

/-- A table with the tables joined to it. -/
def joined (r : Rules) : Parser Joined := do
  let table ← r.factor
  return ⟨table, ← many (join r)⟩

/-- What stands in parentheses in place of a table, if it is no query: joined tables, or one table,
whose alias may stand after the parentheses. -/
def grouped (r : Rules) : Parser Factor := do
  let j ← joined r
  symbol ")"
  let label ← tableAlias
  match j.joins, j.factor.kind with
  | [], .table _ | [], .other _ =>
    match j.factor.label, label with
    | some _, some _ => fail
    | none, some a => return { j.factor with label := some a }
    | _, none => return j.factor
  | _, _ => return ⟨.joined j.render, "", label, ""⟩

def factor (r : Rules) : Parser Factor := do
  if ← takeKeyword "LATERAL" then lateral r
  else if ← takeKeyword "TABLE" then
    return ⟨.other ("TABLE(" ++ (← parens r.exprText) ++ ")"), "", ← tableAlias, ""⟩
  else if ← takeSymbol "(" then
    match ← attempt (derived r "") with
    | some f => pivots r f
    | none => grouped r
  else if ← takeKeyword "UNNEST" then unnest r
  else
    match ← get with
    | t :: .symbol "(" :: ts =>
      if t.key == "VALUES" then
        set (Token.symbol "(" :: ts)
        return ⟨.other ("(" ++ (← rows r) ++ ")"), "", ← tableAlias, ""⟩
      else namedTable r >>= pivots r
    | _ => namedTable r >>= pivots r

end LedgerQuery.Sql.Parser
