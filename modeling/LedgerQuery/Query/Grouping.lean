import LedgerQuery.Query.Ordering
import LedgerQuery.Query.Rows

/-!
# Grouped queries

A row that stands for a group may only show what all its records share: the columns grouped by, and
aggregates. This is checked for the select list, for the order and for the condition on groups.
-/

namespace LedgerQuery

open Chain

namespace Query

/-! ## Checks -/

/-- Every column grouped by is a column of the table. -/
def checkGroupColumns (t : Table) : List String → Except Error Unit
  | [] => .ok ()
  | c :: cs =>
    match column t c with
    | .ok _ => checkGroupColumns t cs
    | .error e => .error e

/-- A selected column is one that rows are grouped by. -/
def checkSelected (t : Table) (groupBy : List String) : Selected → Except Error Unit
  | .column name =>
    match column t name with
    | .error e => .error e
    | .ok c => if groupBy.contains c then .ok () else .error (.ungroupedColumn name)
  | .star =>
    match t.columns.find? (fun c => !groupBy.contains c) with
    | some c => .error (.ungroupedColumn c)
    | none => .ok ()
  | .call _ => .ok ()

def checkSelect (t : Table) (groupBy : List String) : List SelectItem → Except Error Unit
  | [] => .ok ()
  | item :: items =>
    match checkSelected t groupBy item.expr with
    | .ok () => checkSelect t groupBy items
    | .error e => .error e

/-- The columns grouped by exist, and every selected column is one of them. -/
def verifyColumns (t : Table) (groupBy : List String) (select : List SelectItem) :
    Except Error Unit :=
  match checkGroupColumns t groupBy with
  | .ok () => checkSelect t groupBy select
  | .error e => .error e

/-- A column carried along for the order is one that rows are grouped by. -/
def verifyOrder (groupBy : List String) : List Operand → Except Error Unit
  | [] => .ok ()
  | .column name :: xs =>
    if groupBy.contains name then verifyOrder groupBy xs else .error (.ungroupedOrder name)
  | .call _ :: xs => verifyOrder groupBy xs

/-! ## Conditions -/

/-- The target of a condition as an operand to be carried along, unless its column is selected. -/
def havingExtra (s : Scope) (t : Table) (target : Operand) (resolved : String) :
    Except Error (Option Operand) :=
  if s.selected.contains resolved then .ok none
  else
    match target with
    | .call c => .ok (some (.call c))
    | .column _ =>
      match column t resolved with
      | .error e => .error e
      | .ok c =>
        if (s.groupBy.getD []).contains c then .ok (some (.column c))
        else .error (.ungroupedColumn c)

/-- The condition on groups, and what has to be carried along for it. -/
def havingFilter (s : Scope) (t : Table) (h : Having) :
    Except Error (GroupFilter × Option Operand) :=
  let resolved := s.resolve h.target.name
  match havingExtra s t h.target resolved with
  | .ok extra => .ok (.ofLiteral resolved h.op h.value, extra)
  | .error e => .error e

/-- Adds an operand unless it is there. -/
def addExtra (extras : List Operand) : Option Operand → List Operand
  | some x => if extras.contains x then extras else extras ++ [x]
  | none => extras

/-! ## Groups -/

def groupRecords (s : Scope) (t : Table) (order : Order) (records : List Record) :
    Except Error Rows :=
  let groupBy := s.groupBy.getD []
  let select := s.plan.projection
  match verifyColumns t groupBy select with
  | .error e => .error e
  | .ok () =>
    match verifyOrder groupBy order.extras with
    | .error e => .error e
    | .ok () =>
      match s.plan.having with
      | none => Rows.ofGroups t select groupBy order.extras none records
      | some h =>
        match havingFilter s t h with
        | .error e => .error e
        | .ok (f, extra) =>
          Rows.ofGroups t select groupBy (addExtra order.extras extra) (some f) records

end Query

end LedgerQuery
