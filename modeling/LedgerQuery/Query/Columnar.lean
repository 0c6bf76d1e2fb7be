import LedgerQuery.Query.ResultSet

/-!
# Columns of one type

A result turned into columns, each of one type: numbers below `2 ^ 64` if there is nothing else,
doubles if all are numbers, texts otherwise. Empty cells stay empty.
-/

namespace LedgerQuery.Query

open Number (Binary64)

inductive Column
  | integers (cells : List (Option Nat))
  | floats (cells : List (Option Binary64))
  | texts (cells : List (Option String))
deriving DecidableEq, Repr

namespace Column

/-- Whether a cell is empty or a number of 64 bits. -/
def fitsInteger : Cell → Bool
  | .null => true
  | .integer n => n < 2 ^ 64
  | _ => false

def integer? : Cell → Option Nat
  | .integer n => some n
  | _ => none

def text? (a : Cell) : Option String := if a.isNull then none else some a.display

def ofCells (cells : List Cell) : Column :=
  if cells.all fitsInteger then .integers (cells.map integer?)
  else if cells.all fun a => a.isNull || a.toFloat?.isSome then .floats (cells.map Cell.toFloat?)
  else .texts (cells.map text?)

end Column

/-- The columns of a result with their labels; a result without columns has none. -/
def ResultSet.columnar? (s : ResultSet) : Option (List (String × Column)) :=
  if s.labels.isEmpty then none
  else some (s.labels.zipIdx.map fun p =>
    (p.1, .ofCells (s.rows.map fun row => row[p.2]?.getD .null)))

end LedgerQuery.Query
