import LedgerQuery.Sql.Statement
import LedgerQuery.Sql.Parser.DataType

/-!
# Nested forms

How the forms inside other forms are read. The rules for one depth of nesting are built from the
rules for the next, and the last depth has none.
-/

namespace LedgerQuery.Sql.Parser

structure Rules where
  /-- An expression whose operators bind more tightly than the number. -/
  operand : Nat → Parser Expr
  /-- An expression without operators. -/
  atom : Parser Expr
  query : Parser Statement.Query
  factor : Parser Factor

namespace Rules

/-- Where nothing more can be nested. -/
def none : Rules := ⟨fun _ => throw .tooDeep, throw .tooDeep, throw .tooDeep, throw .tooDeep⟩

def expr (r : Rules) : Parser Expr := r.operand 0

def exprs (r : Rules) : Parser (List Expr) := list r.expr

def exprText (r : Rules) : Parser String := do return (← r.expr).render

def exprTexts (r : Rules) : Parser String := do return renderList (← r.exprs)

def queryText (r : Rules) : Parser String := do return (← r.query).render

end Rules

/-- Whether a query comes next, as the only form that starts with these words. -/
def atQuery : Parser Bool := atAny ["SELECT", "WITH"]

/-- A direction of ordering, if there is one. -/
def ascending : Parser (Option Bool) := do
  match ← takeAny ["ASC", "DESC"] with
  | some k => return some (k == "ASC")
  | none => return none

def nullsFirst : Parser (Option Bool) := do
  if ← takeKeywords ["NULLS", "FIRST"] then return some true
  else if ← takeKeywords ["NULLS", "LAST"] then return some false
  else return none

def fill (r : Rules) : Parser String := do
  let start ← after "FROM" r.exprText
  let stop ← after "TO" r.exprText
  let step ← after "STEP" r.exprText
  let parts := [("FROM ", start), ("TO ", stop), ("STEP ", step)]
  return " ".intercalate (parts.filterMap fun p => p.2.map (p.1 ++ ·))

def sortItem (r : Rules) : Parser SortItem := do
  let e ← r.expr
  let direction ← ascending
  let nulls ← nullsFirst
  return ⟨e, direction, nulls, ← afterAll ["WITH", "FILL"] (fill r)⟩

def sortTexts (r : Rules) : Parser String := do
  return commas ((← list (sortItem r)).map SortItem.render)

end LedgerQuery.Sql.Parser
