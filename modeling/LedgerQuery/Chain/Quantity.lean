import LedgerQuery.Number.Natural

/-!
# Quantities

A quantity is a number of a fixed width in bits. Nodes write it in hexadecimal after `0x`.
-/

namespace LedgerQuery.Chain

/-- A number of `width` bits. -/
structure Quantity (width : Nat) where
  val : Nat
  isLt : val < 2 ^ width
deriving DecidableEq, Repr

namespace Quantity

variable {width : Nat}

instance : Inhabited (Quantity width) := ⟨⟨0, Nat.two_pow_pos width⟩⟩

def ofNat? (width n : Nat) : Option (Quantity width) :=
  if h : n < 2 ^ width then some ⟨n, h⟩ else none

theorem ofNat?_val (q : Quantity width) : ofNat? width q.val = some q := by
  simp [ofNat?, q.isLt]

/-- Digits after `0x`, without leading zeros. -/
def render (q : Quantity width) : String := "0x" ++ Number.hexDigits q.val

inductive Fault
  | noMark (raw : String)
  | noDigits (raw : String)
  | badDigits (raw : String) (reason : Number.NumeralError)
  | outOfRange (raw : String)
deriving DecidableEq, Repr

def Fault.message : Fault → String
  | .noMark raw => "quantity " ++ raw ++ " is missing the 0x prefix"
  | .noDigits raw => "quantity " ++ raw ++ " has no digits"
  | .badDigits raw reason => "invalid quantity " ++ raw ++ ": " ++ reason.message
  | .outOfRange raw => "quantity " ++ raw ++ " out of range"

/-- The number in a text that marks it as hexadecimal, below `2 ^ 128`. -/
def parse (raw : String) : Except Fault Nat :=
  match raw.toList with
  | '0' :: 'x' :: ds | '0' :: 'X' :: ds =>
    match ds with
    | [] => .error (.noDigits raw)
    | ds =>
      match Number.read 16 (2 ^ 128) ds with
      | .ok n => .ok n
      | .error e => .error (.badDigits raw e)
  | _ => .error (.noMark raw)

def read (width : Nat) (raw : String) : Except Fault (Quantity width) :=
  match parse raw with
  | .error e => .error e
  | .ok n =>
    match ofNat? width n with
    | some q => .ok q
    | none => .error (.outOfRange raw)

end Quantity

end LedgerQuery.Chain
