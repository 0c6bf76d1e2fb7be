import LedgerQuery.Sql.Expr
import LedgerQuery.Sql.Parser.Basic

/-!
# Names and literals
-/

namespace LedgerQuery.Sql.Parser

/-- A name: a word, which may be a keyword, or a text in single quotes. -/
def ident : Parser Ident := do
  match ← next with
  | .word i => return i
  | .literal (.text s) => return ⟨s, some '\''⟩
  | _ => fail

def objectName : Parser (List Ident) := do
  let first ← ident
  let rest ← many do if ← takeSymbol "." then return some (← ident) else return none
  return first :: rest

def objectText : Parser String := do return renderName (← objectName)

def columns : Parser String := do
  return "(" ++ commas ((← parens (list ident)).map Ident.render) ++ ")"

/-- A literal. A word in double quotes is a text where only a literal can stand. -/
def literal : Parser Literal := do
  match ← next with
  | .literal l => return l
  | .word i =>
    match i.key, i.quote with
    | "TRUE", _ => return .bool true
    | "FALSE", _ => return .bool false
    | "NULL", _ => return .null
    | _, some '"' => return .quotedText i.value
    | _, _ => fail
  | .symbol ":" =>
    match ← next with
    | .word i => return .placeholder (":" ++ i.value)
    | .literal (.number s false) => return .placeholder (":" ++ s)
    | _ => fail
  | .symbol _ => fail

/-- A whole number below `2 ^ 64`, in its shortest text. -/
def count : Parser String := do
  match ← next with
  | .literal (.number s _) =>
    match Number.decimal? (2 ^ 64) s with
    | some n => return Number.decimalDigits n
    | none => fail
  | _ => fail

def text : Parser String := do
  match ← next with
  | .literal (.text s) | .literal (.escaped s) | .literal (.unicode s) => return s
  | .word i => return i.value
  | _ => fail

end LedgerQuery.Sql.Parser
