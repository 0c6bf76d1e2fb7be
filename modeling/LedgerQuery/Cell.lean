import LedgerQuery.Number.Natural
import LedgerQuery.Number.Notation

/-!
# Cells

A cell of a row is empty, a natural number, a double or a text. Cells are ordered for sorting and
for least and greatest values: empty cells first, then numbers, then texts by code points. Two
natural numbers compare exactly; a natural number and a double compare as doubles.
-/

namespace LedgerQuery

open Number (Binary64)

inductive Cell
  | null
  | integer (n : Nat)
  | float (x : Binary64)
  | text (s : String)
deriving DecidableEq, Repr

namespace Cell

def isNull : Cell → Bool
  | .null => true
  | _ => false

def toFloat? : Cell → Option Binary64
  | .integer n => some (.ofNat n)
  | .float x => some x
  | .null | .text _ => none

/-- Empty cells come before numbers, and numbers before texts. -/
def rank : Cell → Nat
  | .null => 0
  | .integer _ | .float _ => 1
  | .text _ => 2

protected def compare : Cell → Cell → Ordering
  | .integer m, .integer n => Ord.compare m n
  | .integer m, .float y => (Binary64.ofNat m).compare y
  | .float x, .integer n => x.compare (.ofNat n)
  | .float x, .float y => x.compare y
  | .text s, .text t => Ord.compare s t
  | a, b => Ord.compare a.rank b.rank

def display : Cell → String
  | .null => "NULL"
  | .integer n => Number.decimalDigits n
  | .float x => x.render .plain
  | .text s => s

def ofText? : Option String → Cell
  | some s => .text s
  | none => .null

def ofNat? : Option Nat → Cell
  | some n => .integer n
  | none => .null

/-! ## Sorting -/

/-- Whether `a` may stand before `b`. -/
def le (a b : Cell) : Bool := (a.compare b).isLE

/-- Rounding to doubles can make a large number equal to two different ones; such cells have no
place in one order. -/
def Comparable (cells : List Cell) : Prop :=
  ∀ a ∈ cells, ∀ b ∈ cells, ∀ c ∈ cells, a.le b → b.le c → a.le c

instance (cells : List Cell) : Decidable (Comparable cells) := by
  unfold Comparable; infer_instance

/-- The cells in order, equal ones in the order given, if the order is one on these cells. -/
def sort? (cells : List Cell) : Option (List Cell) :=
  if Comparable cells then some (cells.mergeSort le) else none

theorem isNull_iff {a : Cell} : a.isNull = true ↔ a = .null := by cases a <;> simp [isNull]

end Cell

end LedgerQuery
