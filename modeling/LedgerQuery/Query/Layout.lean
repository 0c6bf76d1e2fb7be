import LedgerQuery.Query.Aggregate

/-!
# Layouts of rows

A layout says what stands in each place of a row: first the columns of the select list, then the
ones that are only carried along.
-/

namespace LedgerQuery.Query

/-- What a place in a row is filled with. -/
inductive Content
  | field
  | aggregate (a : Aggregate)
deriving DecidableEq, Repr

structure Slot where
  column : String
  /-- The header: the alias if there is one, else the column. -/
  label : String
  content : Content
deriving DecidableEq, Repr

/-- A slot for a column under an alias or its own name. -/
def Slot.named (column : String) (label : Option String) (content : Content) : Slot :=
  ⟨column, label.getD column, content⟩

structure Layout where
  slots : List Slot
  /-- How many of the first slots are selected. -/
  projected : Nat
deriving DecidableEq, Repr

namespace Layout

def position? (slots : List Slot) (column : String) : Option Nat :=
  slots.findIdx? fun s => s.column == column

/-- What becomes of a call: an aggregate where rows are groups. -/
abbrev OnCall := Call → Except Error Aggregate

/-- Where every row is a record there are no aggregates. -/
def noCalls : OnCall := fun c => .error (.aggregateOutsideGroup c.name)

def ofItem (t : Table) (onCall : OnCall) (item : SelectItem) : Except Error (List Slot) :=
  match item.expr with
  | .column name =>
    match column t name with
    | .ok c => .ok [.named c item.label .field]
    | .error e => .error e
  | .star => .ok (t.columns.map fun c => .named c none .field)
  | .call c =>
    match onCall c with
    | .ok a => .ok [.named c.name item.label (.aggregate a)]
    | .error e => .error e

def ofItems (t : Table) (onCall : OnCall) : List SelectItem → Except Error (List Slot)
  | [] => .ok []
  | item :: items =>
    match ofItem t onCall item with
    | .error e => .error e
    | .ok slots =>
      match ofItems t onCall items with
      | .ok rest => .ok (slots ++ rest)
      | .error e => .error e

def ofOperand (t : Table) (onCall : OnCall) : Operand → Except Error Slot
  | .column name =>
    match column t name with
    | .ok c => .ok (.named c none .field)
    | .error e => .error e
  | .call c =>
    match onCall c with
    | .ok a => .ok (.named c.name none (.aggregate a))
    | .error e => .error e

/-- Adds the slots of operands whose columns have none yet. -/
def carry (t : Table) (onCall : OnCall) (slots : List Slot) :
    List Operand → Except Error (List Slot)
  | [] => .ok slots
  | x :: xs =>
    match ofOperand t onCall x with
    | .error e => .error e
    | .ok s =>
      if (position? slots s.column).isSome then carry t onCall slots xs
      else carry t onCall (slots ++ [s]) xs

/-- The layout of a select list with operands carried along. -/
def build (t : Table) (onCall : OnCall) (select : List SelectItem) (extras : List Operand) :
    Except Error Layout :=
  match ofItems t onCall select with
  | .error e => .error e
  | .ok slots =>
    match carry t onCall slots extras with
    | .error e => .error e
    | .ok all => .ok ⟨all, slots.length⟩

end Layout

end LedgerQuery.Query
