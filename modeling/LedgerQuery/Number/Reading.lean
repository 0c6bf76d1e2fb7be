import LedgerQuery.Number.Binary64
import LedgerQuery.Number.Natural

/-!
# Doubles read from text

A text is a double when it has a sign or none, digits with a point among them or none, and an
exponent or none. Infinity and the values that are no numbers are written as words.
-/

namespace LedgerQuery.Number

namespace Reading

/-- The words for values without digits. -/
def word? (negative : Bool) (cs : List Char) : Option Binary64 :=
  let w := cs.map Char.toLower
  if w == "inf".toList || w == "infinity".toList then some (.infinite negative)
  else if w == "nan".toList then some (.nan negative)
  else none

/-- Digits of an exponent after its sign. -/
def exponentDigits? (cs : List Char) : Option Nat :=
  if cs.isEmpty || !cs.all Char.isDigit then none else some (valueOf cs)

/-- The exponent after the digits of a number; there may be none. -/
def exponent? : List Char → Option Int
  | [] => some 0
  | 'e' :: cs | 'E' :: cs =>
    match cs with
    | '+' :: cs => (exponentDigits? cs).map Int.ofNat
    | '-' :: cs => (exponentDigits? cs).map fun n => -Int.ofNat n
    | cs => (exponentDigits? cs).map Int.ofNat
  | _ => none

/-- The digits after a point, and what follows them. -/
def fraction : List Char → List Char × List Char
  | '.' :: cs => cs.span Char.isDigit
  | cs => ([], cs)

/-- A number after its sign. -/
def digits? (negative : Bool) (cs : List Char) : Option Binary64 :=
  let (whole, cs) := cs.span Char.isDigit
  let (part, cs) := fraction cs
  if whole.isEmpty && part.isEmpty then none
  else (exponent? cs).map fun e => .ofDecimal negative (valueOf (whole ++ part)) (e - part.length)

def signed? (negative : Bool) (cs : List Char) : Option Binary64 :=
  (word? negative cs).or (digits? negative cs)

end Reading

/-- The double that a whole text stands for. -/
def Binary64.parse? (s : String) : Option Binary64 :=
  match s.toList with
  | '-' :: cs => Reading.signed? true cs
  | '+' :: cs => Reading.signed? false cs
  | cs => Reading.signed? false cs

end LedgerQuery.Number
