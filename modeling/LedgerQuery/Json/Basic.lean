import LedgerQuery.Number.Natural
import LedgerQuery.Number.Notation
import LedgerQuery.Text.Shown

/-!
# JSON trees

A tree keeps what its text says: members in the order written, repeated keys, numbers digit by
digit. It also says where a text stops being JSON, so that a fault of the text and a fault of the
data can be reported in the order in which they stand.
-/

namespace LedgerQuery

/-- Why a JSON text does not give the wanted value. -/
inductive Json.Fault
  /-- The text is not JSON. -/
  | malformed
  /-- The text is JSON of another shape. -/
  | data (message : String)
deriving DecidableEq, Repr

structure Json.Numeral where
  negative : Bool
  whole : List Char
  fraction : List Char
  /-- Sign and digits of the exponent. -/
  exponent : Option (Bool × List Char)
deriving DecidableEq, Repr

/-- A JSON value. A string with an unpaired surrogate has no text. An array or an object that is
not closed breaks off after its last element, and a value that cannot be read at all is `broken`. -/
inductive Json
  | null
  | bool (b : Bool)
  | num (n : Json.Numeral)
  | str (s : Option String)
  | arr (items : List Json) (closed : Bool)
  | obj (members : List (Option String × Json)) (closed : Bool)
  | broken
deriving Repr

namespace Json

/-! ## Building -/

def text (s : String) : Json := .str (some s)

def natural (n : Nat) : Json := .num ⟨false, Nat.toDigits 10 n, [], none⟩

def list (items : List Json) : Json := .arr items true

def object (members : List (String × Json)) : Json :=
  .obj (members.map fun m => (some m.1, m.2)) true

/-! ## Numbers -/

inductive Number
  | natural (n : Nat)
  /-- The number `-n`, for a positive `n`. -/
  | negative (n : Nat)
  | float (x : Number.Binary64)
deriving DecidableEq, Repr

open LedgerQuery.Number (Binary64)

/-- Appends digits to a value as long as it stays below `2 ^ 64`; also gives the digits left. -/
def appendDigits : Nat → List Char → Nat × List Char
  | v, [] => (v, [])
  | v, c :: cs =>
    let w := v * 10 + (Number.digit? 10 c).getD 0
    if w < 2 ^ 64 then appendDigits w cs else (v, c :: cs)

/-- `x * 10 ^ e` in doubles, by at most three divisions or one multiplication; nothing if it
leaves the range. -/
def scale (x : Binary64) (e : Int) : Option Binary64 :=
  if x.isZero then some x
  else if 308 < e then none
  else if 0 ≤ e then
    let y := x * .ofNat (10 ^ e.toNat)
    if y.isInfinite then none else some y
  else if -308 ≤ e then some (x / .ofNat (10 ^ (-e).toNat))
  else scale (x / .ofNat (10 ^ 308)) (e + 308)
termination_by (-e).toNat
decreasing_by omega

/-- The value of a numeral: an integer if it is written as one and fits 64 bits, else a double from
the digits that fit 64 bits; nothing if it leaves the range of doubles. A negative zero is a
double. -/
def Numeral.value? (n : Numeral) : Option Json.Number :=
  let (v, rest) := appendDigits 0 n.whole
  let signed (x : Binary64) : Json.Number := .float (if n.negative then -x else x)
  if rest.isEmpty && n.fraction.isEmpty && n.exponent.isNone then
    if !n.negative then some (.natural v)
    else if 0 < v ∧ v ≤ 2 ^ 63 then some (.negative v)
    else some (signed (.ofNat v))
  else
    let (w, ignored) := appendDigits v n.fraction
    let e : Int := rest.length - (n.fraction.length - ignored.length : Nat)
    let e := match n.exponent with
      | none => e
      | some (false, ds) => e + LedgerQuery.Number.valueOf ds
      | some (true, ds) => e - LedgerQuery.Number.valueOf ds
    (scale (.ofNat w) e).map signed

def Number.describe : Json.Number → String
  | .natural n => "integer `" ++ LedgerQuery.Number.decimalDigits n ++ "`"
  | .negative n => "integer `-" ++ LedgerQuery.Number.decimalDigits n ++ "`"
  | .float x => "floating point `" ++ x.render .tabular ++ "`"

/-! ## Faults of shape -/

def describe : Json → Except Fault String
  | .null => .ok "null"
  | .bool b => .ok (if b then "boolean `true`" else "boolean `false`")
  | .num n =>
    match n.value? with
    | some v => .ok v.describe
    | none => .error .malformed
  | .str (some s) => .ok ("string " ++ Text.shown s)
  | .arr _ _ => .ok "sequence"
  | .obj _ _ => .ok "map"
  | .str none | .broken => .error .malformed

/-- The fault of a value of another kind than the one expected. -/
def mismatch {α : Type} (expected : String) (j : Json) : Except Fault α :=
  match j.describe with
  | .ok found => .error (.data ("invalid type: " ++ found ++ ", expected " ++ expected))
  | .error f => .error f

/-! ## Trees read to the end -/

mutual

/-- Whether a value is read to its end. -/
def complete : Json → Bool
  | .arr items closed => closed && completeItems items
  | .obj members closed => closed && completeMembers members
  | .broken => false
  | .null | .bool _ | .num _ | .str _ => true

def completeItems : List Json → Bool
  | [] => true
  | j :: js => complete j && completeItems js

def completeMembers : List (Option String × Json) → Bool
  | [] => true
  | (_, j) :: ms => complete j && completeMembers ms

end

end Json

end LedgerQuery
