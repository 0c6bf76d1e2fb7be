import LedgerQuery.Chain.Record
import LedgerQuery.Query.Error
import LedgerQuery.Query.Plan

/-!
# Aggregates

A count, sum, average, least or greatest value over the records of a group. Empty cells take no
part; without any value only a count has a result.
-/

namespace LedgerQuery

open Chain
open Number (Binary64)

namespace Query

inductive Summary
  | count
  | sum
  | avg
  | min
  | max
deriving DecidableEq, Repr

def Summary.ofName? (name : String) : Option Summary :=
  match Text.lower name with
  | "count" => some .count
  | "sum" => some .sum
  | "avg" => some .avg
  | "min" => some .min
  | "max" => some .max
  | _ => none

def column (t : Table) (name : String) : Except Error String :=
  match t.column? name with
  | some c => .ok c
  | none => .error (.unknownColumn name t)

/-- What is computed from the records of a group: without a column, their number. -/
structure Aggregate where
  summary : Summary
  column : Option String
deriving DecidableEq, Repr

namespace Aggregate

/-- The aggregate that a call stands for. Only a count takes `*`. -/
def ofCall (t : Table) (c : Call) : Except Error Aggregate :=
  match Summary.ofName? c.function, c.argument with
  | none, _ => .error (.unsupportedFunction c.name)
  | some .count, .star => .ok ⟨.count, none⟩
  | some _, .star => .error (.unsupportedFunction c.name)
  | some summary, .column name =>
    match Query.column t name with
    | .ok column => .ok ⟨summary, some column⟩
    | .error e => .error e

/-- Adds a cell to a total. Numbers below `2 ^ 128` are added exactly. -/
def add (column : String) : Cell → Cell → Except Error Cell
  | _, .text _ | .text _, _ => .error (.notNumeric column)
  | .null, b => .ok b
  | .integer m, .integer n =>
    if m + n < 2 ^ 128 then .ok (.integer (m + n)) else .error (.sumOverflow column)
  | a, b => .ok (.float (a.toFloat?.getD (.zero false) + b.toFloat?.getD (.zero false)))

def sum (column : String) (cells : List Cell) : Except Error Cell :=
  cells.foldlM (add column) .null

def addFloat (column : String) (total : Binary64) (a : Cell) : Except Error Binary64 :=
  match a.toFloat? with
  | some x => .ok (total + x)
  | none => .error (.notNumeric column)

def average (column : String) (cells : List Cell) : Except Error Cell :=
  match cells.foldlM (addFloat column) (.zero false) with
  | .ok total =>
    if cells.isEmpty then .ok .null else .ok (.float (total / .ofNat cells.length))
  | .error e => .error e

/-- The least cell, the first of equal ones. -/
def least : List Cell → Cell
  | [] => .null
  | a :: as => as.foldl (fun m b => if m.compare b = .gt then b else m) a

/-- The greatest cell, the last of equal ones. -/
def greatest : List Cell → Cell
  | [] => .null
  | a :: as => as.foldl (fun m b => if m.compare b = .gt then m else b) a

/-- The cells of a column that are not empty. -/
def values (column : String) (rs : List Record) : List Cell :=
  (rs.filterMap fun r => r.cell? column).filter fun a => !a.isNull

def eval (a : Aggregate) (rs : List Record) : Except Error Cell :=
  match a.column with
  | none => .ok (.integer rs.length)
  | some column =>
    let cells := values column rs
    match a.summary with
    | .count => .ok (.integer cells.length)
    | .sum => sum column cells
    | .avg => average column cells
    | .min => .ok (least cells)
    | .max => .ok (greatest cells)

end Aggregate

end Query

end LedgerQuery
