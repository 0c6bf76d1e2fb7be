import LedgerQuery.Sql.Parser.Form

/-!
# Expressions

Operators are read by how tightly they bind: an operand takes every operator that binds more
tightly than the one before it, so operators of one strength group to the left.
-/

namespace LedgerQuery.Sql.Parser

/-! ## Atoms -/

/-- A value of a type that is named before it. -/
def typedValue (r : Rules) : Parser Expr := do
  let t ← dataType
  match t.kind with
  | .known => return .other (t.text ++ " " ++ (← literal).render)
  | .interval => interval r
  | .unknown => fail

/-- A word without a form of its own: a function, a set of characters, or a name. -/
def word (r : Rules) (i : Ident) : Parser Expr := do
  match ← peek with
  | some (.symbol "(") => call r [i]
  | some (.literal l) =>
    if i.value.startsWith "_" && l.isIntroduced then
      return .other (i.render ++ " " ++ (← literal).render)
    else return .name [] i
  | _ => return .name [] i

def collated (e : Expr) : Parser Expr := do
  match ← after "COLLATE" objectText with
  | some c => return .other (e.render ++ " COLLATE " ++ c)
  | none => return e

/-- The words that stand for nothing but their form. -/
def isReserved (i : Ident) : Bool := ["EXISTS", "INTERVAL", "STRUCT", "TRIM"].contains i.key

/-- What a word starts: its form, or where that does not fit, what any word starts. -/
def wordOrForm (r : Rules) (i : Ident) : Parser Expr := fun ts =>
  match form r i ts with
  | .ok (some e, rest) => collated e rest
  | .ok (none, _) => (word r i >>= collated) ts
  | .error h =>
    if isReserved i then .error h
    else
      match word r i ts with
      | .ok (e, rest) => .ok (e, rest)
      | .error _ => .error h

def parenthesized (r : Rules) : Parser Expr := do
  let e ← if ← atQuery then do pure (Expr.subquery (← r.queryText)) else
    match ← r.exprs with
    | [e] => pure (.nested e)
    | es => pure (.other ("(" ++ renderList es ++ ")"))
  symbol ")"
  return e

def symbolOrLiteral (r : Rules) : Parser Expr := do
  if ← takeSymbol "(" then parenthesized r
  else if ← takeSymbol "[" then array r ""
  else if ← takeSymbol "-" then return .unary .minus (← r.operand 40)
  else if ← takeSymbol "+" then return .unary .plus (← r.operand 40)
  else if ← takeSymbol "~" then return .unary .complement (← r.operand 30)
  else return .literal (← literal)

def atom (r : Rules) : Parser Expr := do
  match ← attempt (typedValue r) with
  | some e => return e
  | none =>
    match ← get with
    | .word i :: ts =>
      set ts
      wordOrForm r i
    | _ => symbolOrLiteral r >>= collated

/-! ## Access -/

/-- A part of an array between brackets, the opening one taken. -/
def slice (r : Rules) : Parser String := do
  let low ← if ← atSymbol ":" then pure "" else r.exprText
  if ← takeSymbol "]" then return low
  symbol ":"
  if ← takeSymbol "]" then return low ++ ":"
  let high ← r.exprText
  if ← takeSymbol "]" then return low ++ ":" ++ high
  symbol ":"
  if ← takeSymbol "]" then return low ++ ":" ++ high
  let step ← r.exprText
  symbol "]"
  return low ++ ":" ++ high ++ ":" ++ step

/-- What is reached from an expression through one point or bracket, if there is one. A point
before a star is left. -/
def access (r : Rules) (e : Expr) : Parser (Option Expr) := do
  match ← get with
  | .symbol "." :: .symbol "*" :: _ => return none
  | .symbol "." :: .literal (.text s) :: ts =>
    set ts
    return some (e.reach (.name [] ⟨s, some '\''⟩))
  | .symbol "." :: ts =>
    set ts
    return some (e.reach (← r.operand 100))
  | .symbol "[" :: ts =>
    set ts
    return some (.other (e.render ++ "[" ++ (← slice r) ++ "]"))
  | _ => return none

/-- What is reached from an expression. The number of tokens bounds the steps. -/
def accesses (r : Rules) : Nat → Expr → Parser Expr
  | 0, e => return e
  | n + 1, e => do
    match ← access r e with
    | some e => accesses r n e
    | none => return e

/-! ## Operators -/

/-- The operators by their symbols, each with how tightly it binds. -/
def symbolOperators : List (String × BinaryOp × Nat) := [
  ("=", .eq, 20), ("==", .eq, 20), ("<>", .ne, 20), ("<", .lt, 20), ("<=", .le, 20),
  (">", .gt, 20), (">=", .ge, 20), (":=", .other ":=", 20), ("~", .other "~", 20),
  ("~*", .other "~*", 20), ("!~", .other "!~", 20), ("!~*", .other "!~*", 20),
  ("~~", .other "~~", 20), ("~~*", .other "~~*", 20), ("!~~", .other "!~~", 20),
  ("!~~*", .other "!~~*", 20), ("<=>", .other "<=>", 20), ("|", .other "|", 21),
  ("^", .other "^", 22), ("<<", .other "<<", 22), (">>", .other ">>", 22),
  ("&", .other "&", 23), ("+", .other "+", 30), ("-", .other "-", 30), ("*", .other "*", 40),
  ("/", .other "/", 40), ("//", .other "//", 40), ("%", .other "%", 40),
  ("||", .other "||", 40), ("->", .other "->", 16), ("->>", .other "->>", 16),
  ("<@", .other "<@", 16)]

def wordOperators : List (String × BinaryOp × Nat) := [
  ("OR", .or, 5), ("AND", .and, 10), ("XOR", .other "XOR", 24),
  ("OVERLAPS", .other "OVERLAPS", 20)]

/-- The tests of an expression by their words, each with how tightly it binds. -/
def tests : List (String × Nat) := [
  ("IN", 20), ("BETWEEN", 20), ("LIKE", 19), ("ILIKE", 19), ("RLIKE", 19), ("REGEXP", 19),
  ("SIMILAR", 19)]

/-- How tightly the operator at the front binds; nothing binds where there is none. -/
def strength : List Token → Nat
  | .symbol "::" :: _ => 50
  | .symbol s :: _ => ((symbolOperators.lookup s).map Prod.snd).getD 0
  | t :: ts =>
    match wordOperators.lookup t.key, tests.lookup t.key with
    | some (_, n), _ | none, some n => n
    | none, none =>
      match t.key with
      | "AT" => if (ts.take 2).map Token.key == ["TIME", "ZONE"] then 41 else 0
      | "NOT" => ((ts.head?.map Token.key).bind fun k => tests.lookup k).getD 0
      | "IS" => 17
      | "OPERATOR" => 20
      | "DIV" => 40
      | _ => 0
  | [] => 0

/-- The operators that compare with any or all values of a list. -/
def comparesList : BinaryOp → Bool
  | .eq | .ne | .lt | .le | .gt | .ge => true
  | .other s => ["~", "~*", "!~", "!~*", "~~", "~~*", "!~~", "!~~*"].contains s
  | .and | .or => false

def operation (r : Rules) (n : Nat) (left : Expr) (op : BinaryOp) : Parser Expr := do
  match ← takeAny ["ANY", "ALL", "SOME"] with
  | none => return .binary op left (← r.operand n)
  | some k =>
    symbol "("
    let right ←
      if ← atQuery then do
        putBack (.symbol "(")
        r.operand n
      else do
        let e ← r.operand n
        symbol ")"
        pure e
    unless comparesList op do fail
    let list := match right with
      | .subquery _ => right.render
      | _ => "(" ++ right.render ++ ")"
    return .other (left.render ++ " " ++ op.render ++ " " ++ k ++ list)

/-- The form of a text in which its characters are normalized. -/
def normalized : Parser String := do
  let start ← if ← takeKeyword "NOT" then pure "NOT " else pure ""
  let normal ← takeAny ["NFC", "NFD", "NFKC", "NFKD"]
  keyword "NORMALIZED"
  return start ++ Frame.suffix "" normal " " ++ "NORMALIZED"

/-- What an expression is said to be. -/
def quality (r : Rules) : Parser String := do
  for ks in [["NULL"], ["NOT", "NULL"], ["TRUE"], ["NOT", "TRUE"], ["FALSE"], ["NOT", "FALSE"],
      ["UNKNOWN"], ["NOT", "UNKNOWN"]] do
    if ← takeKeywords ks then return " ".intercalate ks
  if ← takeKeywords ["DISTINCT", "FROM"] then return "DISTINCT FROM " ++ (← r.exprText)
  else if ← takeKeywords ["NOT", "DISTINCT", "FROM"] then
    return "NOT DISTINCT FROM " ++ (← r.exprText)
  else normalized

/-- A list or a query that a value is looked for in. -/
def members (r : Rules) : Parser String := do
  if ← takeKeyword "UNNEST" then return "UNNEST(" ++ (← parens r.exprText) ++ ")"
  else
    symbol "("
    let inside ← match ← attempt r.queryText with
      | some q => pure q
      | none => r.exprTexts
    symbol ")"
    return "(" ++ inside ++ ")"

def escapeClause : Parser String := do
  match ← after "ESCAPE" text with
  | some c => return " ESCAPE '" ++ c ++ "'"
  | none => return ""

/-- A test of an expression, without the word that negates it. -/
def test (r : Rules) : Parser String := do
  match ← takeAny (tests.map Prod.fst) with
  | some "IN" => return "IN " ++ (← members r)
  | some "BETWEEN" =>
    let low ← r.operand 20
    keyword "AND"
    return "BETWEEN " ++ low.render ++ " AND " ++ (← r.operand 20).render
  | some "SIMILAR" =>
    keyword "TO"
    let pattern ← r.operand 19
    return "SIMILAR TO " ++ pattern.render ++ (← escapeClause)
  | some k =>
    if k == "REGEXP" || k == "RLIKE" then return k ++ " " ++ (← r.operand 19).render
    else
      let any ← if ← takeKeyword "ANY" then pure "ANY " else pure ""
      let pattern ← r.operand 19
      return k ++ " " ++ any ++ pattern.render ++ (← escapeClause)
  | none => fail

def operatorName : Parser String := do
  symbol "("
  let first ← next
  let rest ← many do if ← takeSymbol "." then return some (← next) else return none
  symbol ")"
  return "OPERATOR(" ++ ".".intercalate ((first :: rest).map Token.render) ++ ")"

/-- The operator at the front, of the given strength, with what follows it. -/
def extend (r : Rules) (n : Nat) (left : Expr) : Parser Expr := do
  let t ← next
  let said (what : String) : Parser Expr := return .other (left.render ++ " " ++ what)
  match t with
  | .symbol "::" => return .other (left.render ++ "::" ++ (← dataType).text)
  | .symbol s =>
    match symbolOperators.lookup s with
    | some (op, _) => operation r n left op
    | none => fail
  | .literal _ => fail
  | .word i =>
    match wordOperators.lookup i.key with
    | some (op, _) => operation r n left op
    | none =>
      match i.key with
      | "OPERATOR" => operation r n left (.other (← operatorName))
      | "IS" => said ("IS " ++ (← quality r))
      | "AT" =>
        keywords ["TIME", "ZONE"]
        said ("AT TIME ZONE " ++ (← r.operand n).render)
      | "NOT" => said ("NOT " ++ (← test r))
      | _ =>
        putBack t
        said (← test r)

/-- The operators after an expression that bind more tightly than `least`. Each takes a token, so
the number of tokens bounds them. -/
def operators (r : Rules) (least : Nat) : Nat → Expr → Parser Expr
  | 0, e => return e
  | fuel + 1, e => do
    let n := strength (← get)
    if n ≤ least then return e
    else operators r least fuel (← extend r n e)

/-- An expression whose operators bind more tightly than `least`. -/
def operand (r : Rules) (least : Nat) : Parser Expr := do
  let e ← atom r
  let e ← accesses r (← get).length e
  operators r least (← get).length e

end LedgerQuery.Sql.Parser
