import LedgerQuery.Query.Ordering
import LedgerQuery.Query.Rows

/-!
# Results

The rows of a query with their columns. Columns are found by alias or by name; rows are ordered, cut
to a number and stripped of what was only carried along.
-/

namespace LedgerQuery.Query

structure ResultSet where
  table : Table
  columns : List String
  labels : List String
  /-- Every column with its first position. -/
  index : List (String × Nat)
  aliases : List (String × String)
  rows : List (List Cell)
  /-- How many of the first columns are selected. -/
  projected : Nat
deriving DecidableEq, Repr

/-- The comparison of two cells in a direction. -/
def Direction.apply : Direction → Ordering → Ordering
  | .asc, o => o
  | .desc, o => o.swap

namespace ResultSet

def ofRows (t : Table) (r : Rows) (aliases : List (String × String)) : ResultSet :=
  ⟨t, r.columns, r.labels, r.index, aliases, r.rows, r.projected⟩

/-! ## Columns by name -/

/-- The position of a column given by alias or by name. -/
def resolve? (s : ResultSet) (name : String) : Option Nat :=
  s.index.lookup (resolve s.aliases name)

def value? (s : ResultSet) (row : Nat) (name : String) : Option Cell := do
  let position ← s.resolve? name
  let cells ← s.rows[row]?
  cells[position]?

def column? (s : ResultSet) (name : String) : Option (List Cell) :=
  (s.resolve? name).map fun i => s.rows.map fun row => row[i]?.getD .null

/-! ## Ordering, cutting, stripping -/

/-- The comparison of two rows by the cells in some places, the first difference deciding. -/
def compareRows : List (Nat × Direction) → List Cell → List Cell → Ordering
  | [], _, _ => .eq
  | (i, d) :: keys, a, b =>
    (d.apply ((a[i]?.getD .null).compare (b[i]?.getD .null))).then (compareRows keys a b)

def keyPositions (s : ResultSet) : List (String × Direction) →
    Except Error (List (Nat × Direction))
  | [] => .ok []
  | (column, d) :: keys =>
    match s.index.lookup column with
    | none => .error (.unknownColumn column s.table)
    | some i =>
      match s.keyPositions keys with
      | .ok rest => .ok ((i, d) :: rest)
      | .error e => .error e

/-- Orders the rows; rows that compare equal stay in their order. -/
def order (s : ResultSet) (keys : List (String × Direction)) : Except Error ResultSet :=
  match s.keyPositions keys with
  | .error e => .error e
  | .ok positions =>
    .ok { s with rows := s.rows.mergeSort fun a b => (compareRows positions a b).isLE }

def limit (s : ResultSet) (n : Nat) : ResultSet := { s with rows := s.rows.take n }

/-- Drops the columns that were only carried along. A result without such columns stays as it is. -/
def project (s : ResultSet) : ResultSet :=
  if s.projected = s.columns.length then s
  else
    { s with
      columns := s.columns.take s.projected
      labels := s.labels.take s.projected
      rows := s.rows.map (List.take s.projected)
      index := s.index.filter fun p => p.2 < s.projected }

end ResultSet

end LedgerQuery.Query
