import LedgerQuery.Keyed
import LedgerQuery.Query.Having
import LedgerQuery.Query.Layout

/-!
# Rows

Records become rows: one row for each record, or one for each group of records that agree in the
columns grouped by. Groups stand in the order in which they are first seen.
-/

namespace LedgerQuery

open Chain

namespace Query

structure Rows where
  columns : List String
  labels : List String
  /-- How many of the first columns are selected. -/
  projected : Nat
  rows : List (List Cell)
deriving DecidableEq, Repr

/-- Every column with its first position. -/
def positions (columns : List String) : List (String × Nat) :=
  columns.zipIdx.foldl (fun m p => Keyed.insertNew p.1 p.2 m) []

namespace Rows

def ofLayout (l : Layout) (rows : List (List Cell)) : Rows :=
  ⟨l.slots.map fun s => s.column, l.slots.map fun s => s.label, l.projected, rows⟩

def index (r : Rows) : List (String × Nat) := positions r.columns

def ofRecords (t : Table) (select : List SelectItem) (extras : List Operand)
    (records : List Record) : Except Error Rows :=
  match Layout.build t Layout.noCalls select extras with
  | .error e => .error e
  | .ok l => .ok (ofLayout l (records.map fun r => l.slots.map fun s => r.cell s.column))

/-- The records with equal cells in the columns grouped by. Without such columns there is one group,
even of no records. -/
def groups (groupBy : List String) (records : List Record) : List (List Record) :=
  if groupBy.isEmpty then [records]
  else (Keyed.group (fun r => groupBy.map r.cell) records).map Prod.snd

/-- The cell of a group in a slot. A plain column has that of the first record. -/
def groupCell (members : List Record) (s : Slot) : Except Error Cell :=
  match s.content with
  | .field => .ok (match members with
    | [] => .null
    | r :: _ => r.cell s.column)
  | .aggregate a => a.eval members

def groupRow (slots : List Slot) (members : List Record) : Except Error (List Cell) :=
  slots.mapM (groupCell members)

/-- Where a condition on groups looks. -/
def filterPosition (t : Table) (slots : List Slot) (f : GroupFilter) :
    Except Error (Nat × GroupFilter) :=
  match Layout.position? slots f.column with
  | some i => .ok (i, f)
  | none => .error (.unknownColumn f.column t)

def kept (condition : Option (Nat × GroupFilter)) (row : List Cell) : Bool :=
  match condition with
  | none => true
  | some (i, f) => f.keeps (row[i]?.getD .null)

def ofGroups (t : Table) (select : List SelectItem) (groupBy : List String)
    (extras : List Operand) (having : Option GroupFilter) (records : List Record) :
    Except Error Rows :=
  match Layout.build t (Aggregate.ofCall t) select extras with
  | .error e => .error e
  | .ok l =>
    match having.mapM (filterPosition t l.slots) with
    | .error e => .error e
    | .ok condition =>
      match (groups groupBy records).mapM (groupRow l.slots) with
      | .error e => .error e
      | .ok rows => .ok (ofLayout l (rows.filter (kept condition)))

end Rows

end Query

end LedgerQuery
