import LedgerQuery.Sql.Error
import LedgerQuery.Sql.Parser.Statement
import LedgerQuery.Query.Plan
import LedgerQuery.Text.Strip

/-!
# From statements to plans

A plan is made from one selection over one table. Its parts are looked at in a fixed order, and the
first that a plan has no place for is the reason that there is none.
-/

namespace LedgerQuery.Sql

open Query (Plan Predicate SelectItem Selected Operand OrderItem Having Direction Comparison)

namespace Expr

/-- The column that an expression names. Of a name with several parts the last counts. -/
def column? : Expr → Except PlanError String
  | .name _ last => .ok last.value
  | .nested e => e.column?
  | e => .error (.unsupportedExpression e.render)

/-- A literal keeps its spelling, quotes included. -/
def literal? : Expr → Except PlanError String
  | .literal l => .ok l.render
  | e => .error (.unsupportedExpression e.render)

def call? : Expr → Except PlanError Query.Call
  | .callStar f => .ok ⟨renderName f.name, .star⟩
  | .call f e => do .ok ⟨renderName f.name, .column (← e.column?)⟩
  | e => .error (.unsupportedExpression e.render)

def isCall : Expr → Bool
  | .call .. | .callStar _ | .callOther .. => true
  | _ => false

def operand? (e : Expr) : Except PlanError Operand := do
  if e.isCall then .ok (.call (← e.call?)) else .ok (.column (← e.column?))

def selected? (e : Expr) : Except PlanError Selected := do
  if e.isCall then .ok (.call (← e.call?)) else .ok (.column (← e.column?))

/-- The two sides of an equality: the column and the value. A literal on the left is the value. -/
def sides (left right : Expr) : Expr × Expr :=
  match left with
  | .literal _ => (right, left)
  | _ => (left, right)

def predicate? : Expr → Except PlanError Predicate
  | .nested e => e.predicate?
  | .binary .and l r => do .ok (.logical .and [← l.predicate?, ← r.predicate?])
  | .binary .or l r => do .ok (.logical .or [← l.predicate?, ← r.predicate?])
  | .binary .eq l r => do
    let (column, value) := sides l r
    .ok (.equals (← column.column?) (← value.literal?))
  | .binary op _ _ => .error (.unsupportedOperator op.render)
  | e => .error (.unsupportedExpression e.render)

end Expr

def BinaryOp.comparison? : BinaryOp → Option Comparison
  | .eq => some .eq
  | .ne => some .ne
  | .lt => some .lt
  | .le => some .le
  | .gt => some .gt
  | .ge => some .ge
  | .and | .or | .other _ => none

namespace Expr

def having? : Expr → Except PlanError Having
  | .nested e => e.having?
  | .binary op l r =>
    match op.comparison? with
    | some c => do .ok ⟨← l.operand?, c, ← r.literal?⟩
    | none => .error (.unsupportedOperator op.render)
  | e => .error (.unsupportedExpression e.render)

/-- A limit is a whole number below `2 ^ 64`, which may have a plus sign. -/
def limit? (e : Expr) : Except PlanError Nat :=
  match Number.decimal? (2 ^ 64) e.render with
  | some n => .ok n
  | none => .error (.invalidLimit e.render)

end Expr

def Entry.item? : Entry → Except PlanError SelectItem
  | .plain e => do .ok ⟨← e.selected?, none⟩
  | .named e label => do .ok ⟨← e.selected?, some label.value⟩
  | .star _ => .ok ⟨.star, none⟩
  | e => .error (.unsupportedExpression e.render)

/-- Rows go up unless they are said to go down. -/
def SortItem.item? (i : SortItem) : Except PlanError OrderItem := do
  .ok ⟨← i.expr.operand?, if i.ascending == some false then .desc else .asc⟩

/-- The name of the one table of a selection, without the quotes around it. -/
def Select.table? (s : Select) : Except PlanError String :=
  match s.tables with
  | [] => .error .noTable
  | [t] =>
    if t.joins.isEmpty then
      match t.factor.kind with
      | .table name => .ok (Text.strip (fun c => c == '"' || c == '`') (renderName name))
      | _ => .error (.unsupportedTableFactor t.factor.render)
    else .error (.unsupportedQuery "JOINs are not supported")
  | ts => .error (.multipleTables ts.length)

def GroupBy.columns? : GroupBy → Except PlanError (Option (List String))
  | .all _ => .error (.unsupportedQuery "GROUP BY ALL")
  | .exprs [] _ => .ok none
  | .exprs es _ => do .ok (some (← es.mapM Expr.column?))

def Limit.rows? : Limit → Except PlanError (Option Nat)
  | .upTo limit none _ => limit.mapM Expr.limit?
  | l => .error (.unsupportedQuery ("OFFSET in " ++ l.render))

def Statement.Query.plan? (q : Statement.Query) : Except PlanError Plan :=
  match q.body with
  | .other text => .error (.unsupportedQuery text)
  | .select s => do
    let table ← s.table?
    let projection ← s.entries.mapM Entry.item?
    let selection ← s.condition.mapM Expr.predicate?
    let groupBy ← s.groupBy.columns?
    let having ← s.having.mapM Expr.having?
    let orderBy ← q.orderBy.mapM fun is => is.mapM SortItem.item?
    let limit ← q.limit.mapM Limit.rows?
    .ok ⟨projection, table, selection, groupBy, having, orderBy, limit.join⟩

def Statement.plan? : Statement → Except PlanError Plan
  | .query q => q.plan?
  | .other text => .error (.unsupportedStatement text)

/-- The plan of a text, which must hold exactly one statement. -/
def plan (sql : String) : Except PlanError Plan :=
  match statements? sql with
  | none => .error .unparsable
  | some [s] => s.plan?
  | some ss => .error (.statementCount ss.length)

end LedgerQuery.Sql
