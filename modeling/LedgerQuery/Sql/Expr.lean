import LedgerQuery.Sql.Literal

/-!
# Expressions

An expression as it is read. The forms that a plan can be made from have a shape of their own; of
any other form only its text is kept. The text of an expression is canonical: keywords in upper
case, one space around a binary operator, a comma and a space between arguments.
-/

namespace LedgerQuery.Sql

inductive UnaryOp
  | not
  | minus
  | plus
  | complement
deriving DecidableEq, Repr

def UnaryOp.render : UnaryOp → String
  | .not => "NOT "
  | .minus => "-"
  | .plus => "+"
  | .complement => "~"

inductive BinaryOp
  | and
  | or
  | eq
  | ne
  | lt
  | le
  | gt
  | ge
  | other (text : String)
deriving DecidableEq, Repr

def BinaryOp.render : BinaryOp → String
  | .and => "AND"
  | .or => "OR"
  | .eq => "="
  | .ne => "<>"
  | .lt => "<"
  | .le => "<="
  | .gt => ">"
  | .ge => ">="
  | .other text => text

/-- Which of repeated arguments a function sees. -/
inductive Duplicates
  | all
  | distinct
deriving DecidableEq, Repr

def Duplicates.render : Duplicates → String
  | .all => "ALL "
  | .distinct => "DISTINCT "

/-- A call without its arguments. -/
structure Frame where
  name : List Ident
  /-- A first list of arguments, where there are two. -/
  parameters : Option String
  duplicates : Option Duplicates
  /-- What follows the arguments inside the parentheses. -/
  clauses : List String
  withinGroup : Option String
  filter : Option String
  nulls : Option String
  /-- The rows around a row that a function sees. -/
  window : Option String
deriving DecidableEq, Repr

namespace Frame

def ofName (name : List Ident) : Frame := ⟨name, none, none, [], none, none, none, none⟩

/-- A text after a space and a keyword, if there is one. -/
def suffix (start : String) (text : Option String) (stop : String) : String :=
  match text with
  | some t => start ++ t ++ stop
  | none => ""

/-- The text of a call. Without arguments it has no parentheses. -/
def render (f : Frame) (arguments : Option String) : String :=
  let duplicates := (f.duplicates.map Duplicates.render).getD ""
  let list := match arguments with
    | none => ""
    | some a =>
      let gap := if a.isEmpty || f.clauses.isEmpty then "" else " "
      "(" ++ duplicates ++ a ++ gap ++ " ".intercalate f.clauses ++ ")"
  renderName f.name ++ suffix "" f.parameters "" ++ list
    ++ suffix " WITHIN GROUP (ORDER BY " f.withinGroup ")"
    ++ suffix " FILTER (WHERE " f.filter ")"
    ++ suffix " " f.nulls ""
    ++ suffix " OVER " f.window ""

end Frame

inductive Expr
  /-- A name with the names before it. -/
  | name (qualifier : List Ident) (last : Ident)
  | literal (l : Literal)
  /-- An expression in parentheses. -/
  | nested (e : Expr)
  | unary (op : UnaryOp) (e : Expr)
  | binary (op : BinaryOp) (left right : Expr)
  /-- A call on one expression. -/
  | call (f : Frame) (e : Expr)
  /-- A call on `*`. -/
  | callStar (f : Frame)
  /-- A call on anything else, or on nothing at all. -/
  | callOther (f : Frame) (arguments : Option String)
  /-- A query in parentheses. -/
  | subquery (text : String)
  | other (text : String)
deriving DecidableEq, Repr

def Expr.render : Expr → String
  | .name qualifier last => renderName (qualifier ++ [last])
  | .literal l => l.render
  | .nested e => "(" ++ e.render ++ ")"
  | .unary op e => op.render ++ e.render
  | .binary op l r => l.render ++ " " ++ op.render ++ " " ++ r.render
  | .call f e => f.render (some e.render)
  | .callStar f => f.render (some "*")
  | .callOther f arguments => f.render arguments
  | .subquery text => "(" ++ text ++ ")"
  | .other text => text

def renderList (es : List Expr) : String := commas (es.map Expr.render)

/-- What is reached through a point after an expression: a name or a function of a name has the
names before it as its qualifier. -/
def Expr.reach (e part : Expr) : Expr :=
  match e, part with
  | .name qualifier i, .name qualifier' j => .name (qualifier ++ i :: qualifier') j
  | .name qualifier i, .call f a => .call { f with name := qualifier ++ i :: f.name } a
  | .name qualifier i, .callStar f => .callStar { f with name := qualifier ++ i :: f.name }
  | .name qualifier i, .callOther f a =>
    .callOther { f with name := qualifier ++ i :: f.name } a
  | e, part => .other (e.render ++ "." ++ part.render)

end LedgerQuery.Sql
