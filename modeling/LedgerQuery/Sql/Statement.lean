import LedgerQuery.Sql.Expr

/-!
# Statements

A query as it is read, and the text that shows it. The parts that a plan is made from have a shape
of their own; the others keep their text.
-/

namespace LedgerQuery.Sql

def clause (keyword : String) (text : Option String) : String :=
  Frame.suffix (" " ++ keyword ++ " ") text ""

def listClause (keyword : String) (texts : List String) : String :=
  if texts.isEmpty then "" else " " ++ keyword ++ " " ++ commas texts

/-- A word after a space, if it is there. -/
def flag (word : String) (present : Bool) : String := if present then " " ++ word else ""

/-! ## Ordering -/

structure SortItem where
  expr : Expr
  ascending : Option Bool
  nullsFirst : Option Bool
  /-- How gaps between rows are filled. -/
  fill : Option String
deriving DecidableEq, Repr

def SortItem.render (i : SortItem) : String :=
  let direction := match i.ascending with
    | some true => " ASC"
    | some false => " DESC"
    | none => ""
  let nulls := match i.nullsFirst with
    | some true => " NULLS FIRST"
    | some false => " NULLS LAST"
    | none => ""
  i.expr.render ++ direction ++ nulls ++ clause "WITH FILL" i.fill

/-! ## Select lists -/

inductive Entry
  | plain (e : Expr)
  | named (e : Expr) (label : Ident)
  /-- All columns, with what is left out or put in. -/
  | star (options : String)
  /-- All columns of one table. -/
  | qualifiedStar (qualifier : List Ident) (options : String)
deriving DecidableEq, Repr

def Entry.render : Entry → String
  | .plain e => e.render
  | .named e label => e.render ++ " AS " ++ label.render
  | .star options => "*" ++ options
  | .qualifiedStar qualifier options => renderName qualifier ++ ".*" ++ options

/-! ## Tables -/

inductive FactorKind
  | table (name : List Ident)
  /-- Joined tables in parentheses. -/
  | joined (text : String)
  | other (text : String)
deriving DecidableEq, Repr

/-- A table or what stands for one. -/
structure Factor where
  kind : FactorKind
  /-- What stands between a table and its alias. -/
  details : String
  label : Option String
  /-- What follows the alias. -/
  hints : String
deriving DecidableEq, Repr

def Factor.render (f : Factor) : String :=
  let kind := match f.kind with
    | .table name => renderName name
    | .joined text => "(" ++ text ++ ")"
    | .other text => text
  kind ++ f.details ++ clause "AS" f.label ++ f.hints

structure Joined where
  factor : Factor
  joins : List String
deriving DecidableEq, Repr

def Joined.render (j : Joined) : String := " ".intercalate (j.factor.render :: j.joins)

/-! ## Selections -/

inductive GroupBy
  | all (modifiers : List String)
  /-- Without expressions there is no grouping clause. -/
  | exprs (es : List Expr) (modifiers : List String)
deriving DecidableEq, Repr

def GroupBy.render : GroupBy → String
  | .all modifiers => " GROUP BY " ++ " ".intercalate ("ALL" :: modifiers)
  | .exprs [] _ => ""
  | .exprs es modifiers => " GROUP BY " ++ " ".intercalate (renderList es :: modifiers)

structure Select where
  /-- How repeated rows are removed, if they are. -/
  distinct : Option String
  top : Option String
  entries : List Entry
  into : Option String
  tables : List Joined
  prewhere : Option Expr
  condition : Option Expr
  groupBy : GroupBy
  clusterBy : List String
  distributeBy : List String
  sortBy : List String
  having : Option Expr
  windows : List String
  qualify : Option Expr
  windowsFirst : Bool
deriving DecidableEq, Repr

def Select.render (s : Select) : String :=
  let entries := match s.entries with
    | [] => ""
    | es => " " ++ commas (es.map Entry.render)
  let windows := listClause "WINDOW" s.windows
  let qualify := clause "QUALIFY" (s.qualify.map Expr.render)
  "SELECT" ++ Frame.suffix " " s.distinct "" ++ Frame.suffix " " s.top "" ++ entries
    ++ clause "INTO" s.into
    ++ listClause "FROM" (s.tables.map Joined.render)
    ++ clause "PREWHERE" (s.prewhere.map Expr.render)
    ++ clause "WHERE" (s.condition.map Expr.render)
    ++ s.groupBy.render
    ++ listClause "CLUSTER BY" s.clusterBy
    ++ listClause "DISTRIBUTE BY" s.distributeBy
    ++ listClause "SORT BY" s.sortBy
    ++ clause "HAVING" (s.having.map Expr.render)
    ++ (if s.windowsFirst then windows ++ qualify else qualify ++ windows)

/-! ## Queries -/

inductive Body
  | select (s : Select)
  | other (text : String)
deriving DecidableEq, Repr

def Body.render : Body → String
  | .select s => s.render
  | .other text => text

inductive Limit
  /-- At most so many rows, after so many, for each value of the expressions. -/
  | upTo (limit : Option Expr) (offset : Option String) (per : List Expr)
  /-- The number of rows left out before the number of rows. -/
  | offsetFirst (offset limit : Expr)
deriving DecidableEq, Repr

def Limit.render : Limit → String
  | .upTo limit offset per =>
    clause "LIMIT" (limit.map Expr.render) ++ clause "OFFSET" offset
      ++ listClause "BY" (per.map Expr.render)
  | .offsetFirst offset limit => " LIMIT " ++ offset.render ++ ", " ++ limit.render

structure Statement.Query where
  /-- Queries with names, to be used as tables. -/
  named : Option String
  body : Body
  orderBy : Option (List SortItem)
  limit : Option Limit
  settings : List String
  fetch : Option String
  locks : List String
  format : Option String
deriving DecidableEq, Repr

namespace Statement

/-- A query without anything around its body. -/
def Query.ofBody (body : Body) : Query := ⟨none, body, none, none, [], none, [], none⟩

def Query.render (q : Query) : String :=
  let named := match q.named with
    | some text => text ++ " "
    | none => ""
  let limit := match q.limit with
    | some l => l.render
    | none => ""
  named ++ q.body.render
    ++ clause "ORDER BY" (q.orderBy.map fun is => commas (is.map SortItem.render))
    ++ limit
    ++ listClause "SETTINGS" q.settings
    ++ clause "FETCH" q.fetch
    ++ String.join (q.locks.map (" " ++ ·))
    ++ clause "FORMAT" q.format

end Statement

inductive Statement
  | query (q : Statement.Query)
  | other (text : String)
deriving DecidableEq, Repr

def Statement.render : Statement → String
  | .query q => q.render
  | .other text => text

end LedgerQuery.Sql
