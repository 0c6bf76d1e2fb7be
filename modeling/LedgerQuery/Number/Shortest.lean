import LedgerQuery.Number.Binary64

/-!
# The fewest digits that read back

Among the decimal numbers that round to a given double the shortest ones are taken, and of these the
nearest. The search is in exact arithmetic: for each count of digits only the two neighbours of the
value on that decimal grid have to be tried.
-/

namespace LedgerQuery.Number

/-- Which of two decimals at the same distance is taken. -/
inductive Tie
  | up
  | even
deriving DecidableEq, Repr

/-- Digits `0.d₁d₂… * 10 ^ point`, the first one not zero. -/
structure Decimal where
  digits : List Char
  point : Int
deriving DecidableEq, Repr

namespace Shortest

/-- A positive double as a ratio, with the two ends of the interval that rounds to it, all over one
denominator. -/
structure Interval where
  low : Nat
  value : Nat
  high : Nat
  den : Nat
  closed : Bool

/-- The interval of reals that round to a positive finite double. The gap below a power of two is
half as wide as the gap above it. -/
def interval (x : Binary64) : Interval :=
  let m := x.significand
  let q := x.exponent
  let scale := if 0 ≤ q then 2 ^ q.toNat else 1
  let den := if 0 ≤ q then 4 else 4 * 2 ^ (-q).toNat
  let below := if x.fraction = 0 && 1 < x.exponentField then 1 else 2
  { low := (4 * m - below) * scale
    value := 4 * m * scale
    high := (4 * m + 2) * scale
    den := den
    closed := m % 2 == 0 }

/-- Whether `d * 10 ^ e` lies in the interval. -/
def Interval.holds (i : Interval) (d : Nat) (e : Int) : Bool :=
  let n := if 0 ≤ e then d * 10 ^ e.toNat * i.den else d * i.den
  let unit := if 0 ≤ e then 1 else 10 ^ (-e).toNat
  if i.closed then i.low * unit ≤ n && n ≤ i.high * unit
  else i.low * unit < n && n < i.high * unit

/-- The largest multiple of `10 ^ e` at or below the value. -/
def Interval.floor (i : Interval) (e : Int) : Nat :=
  if 0 ≤ e then i.value / (i.den * 10 ^ e.toNat) else i.value * 10 ^ (-e).toNat / i.den

/-- Compares twice the distance from `floor` with the width of the grid. -/
def Interval.half (i : Interval) (e : Int) : Ordering :=
  let width := if 0 ≤ e then i.den * 10 ^ e.toNat else i.den
  let total := if 0 ≤ e then i.value else i.value * 10 ^ (-e).toNat
  compare (2 * (total % width)) width

/-- The nearest multiple of `10 ^ e` in the interval, if there is one. -/
def Interval.onGrid? (i : Interval) (tie : Tie) (e : Int) : Option Nat :=
  let d := i.floor e
  match i.holds d e, i.holds (d + 1) e with
  | true, true =>
    match i.half e with
    | .lt => some d
    | .gt => some (d + 1)
    | .eq => some (match tie with | .up => d + 1 | .even => d + d % 2)
  | true, false => some d
  | false, true => some (d + 1)
  | false, false => none

/-- The number of digits before the point of a positive ratio, negative when zeros follow it. -/
def pointOf (num den : Nat) : Int :=
  let guess : Int := (Nat.toDigits 10 num).length - (Nat.toDigits 10 den).length
  let reaches : Bool :=
    if 0 ≤ guess then den * 10 ^ guess.toNat ≤ num else den ≤ num * 10 ^ (-guess).toNat
  if reaches then guess + 1 else guess

/-- Tries grids with one digit more each time. -/
def search (i : Interval) (tie : Tie) (point : Int) : Nat → Nat → Decimal
  | 0, n => ⟨Nat.toDigits 10 (i.floor (point - n)), point⟩
  | fuel + 1, n =>
    match i.onGrid? tie (point - n) with
    | some d =>
      let ds := Nat.toDigits 10 d
      ⟨(ds.reverse.dropWhile (· == '0')).reverse, point - n + ds.length⟩
    | none => search i tie point fuel (n + 1)

end Shortest

/-- The shortest decimal that rounds to a positive finite double. -/
def Binary64.shortest (tie : Tie) (x : Binary64) : Decimal :=
  let i := Shortest.interval x
  Shortest.search i tie (Shortest.pointOf i.value i.den) 17 1

end LedgerQuery.Number
