import LedgerQuery.Number.Power

/-!
# Binary floating point in 64 bits

A number is its bit pattern: a sign, an exponent field of 11 bits and a fraction of 52 bits. All
rounding is to the nearest, ties to the even neighbour, in exact arithmetic on natural numbers.
Comparison is the total order of the bit patterns: by sign, then by magnitude, so that the two zeros
and all the values that are not numbers have places of their own.
-/

namespace LedgerQuery.Number

/-- A double, by its bits. -/
structure Binary64 where
  bits : UInt64
deriving DecidableEq, Repr

/-- The quotient rounded to the nearest natural number, a half going to the even one. -/
def roundDiv (num den : Nat) : Nat :=
  let q := num / den
  let r := num % den
  if 2 * r < den then q
  else if den < 2 * r then q + 1
  else q + q % 2

namespace Binary64

/-! ## Parts -/

def isNegative (x : Binary64) : Bool := 2 ^ 63 ≤ x.bits.toNat

/-- Exponent field and fraction as one number; it grows with the absolute value. -/
def magnitude (x : Binary64) : Nat := x.bits.toNat % 2 ^ 63

def exponentField (x : Binary64) : Nat := x.magnitude / 2 ^ 52

def fraction (x : Binary64) : Nat := x.magnitude % 2 ^ 52

/-- The magnitude of the infinities. -/
def infiniteMagnitude : Nat := 2047 * 2 ^ 52

def isInfinite (x : Binary64) : Bool := x.magnitude == infiniteMagnitude

def isNaN (x : Binary64) : Bool := infiniteMagnitude < x.magnitude

/-- A finite value is `± significand * 2 ^ exponent`. -/
def significand (x : Binary64) : Nat :=
  if x.exponentField = 0 then x.fraction else 2 ^ 52 + x.fraction

def exponent (x : Binary64) : Int := max x.exponentField 1 - 1075

def isZero (x : Binary64) : Bool := x.magnitude == 0

/-! ## Building -/

/-- The value with the given sign and magnitude. -/
def ofMagnitude (negative : Bool) (m : Nat) : Binary64 :=
  ⟨.ofNat ((if negative then 2 ^ 63 else 0) + m)⟩

def zero (negative : Bool) : Binary64 := ofMagnitude negative 0

def infinite (negative : Bool) : Binary64 := ofMagnitude negative infiniteMagnitude

/-- The quiet value that is no number. -/
def nan (negative : Bool) : Binary64 := ofMagnitude negative (infiniteMagnitude + 2 ^ 51)

/-- The binary exponent of the last place of the double nearest to `num / den`. -/
def lastPlace (num den : Nat) : Int :=
  let guess : Int := (num.log2 : Int) - den.log2 - 52
  let reaches : Bool :=
    if 0 ≤ guess then den * 2 ^ (52 + guess.toNat) ≤ num
    else den * 2 ^ 52 ≤ num * 2 ^ (-guess).toNat
  max (-1074) (if reaches then guess else guess - 1)

/-- The magnitude of the double nearest to `num / den`. -/
def nearestMagnitude (num den : Nat) : Nat :=
  let q := lastPlace num den
  let m := if 0 ≤ q then roundDiv num (den * 2 ^ q.toNat) else roundDiv (num * 2 ^ (-q).toNat) den
  min infiniteMagnitude ((q + 1074).toNat * 2 ^ 52 + m)

/-- The double nearest to `num / den`, with a sign. -/
def ofRatio (negative : Bool) (num den : Nat) : Binary64 :=
  if num = 0 then zero negative else ofMagnitude negative (nearestMagnitude num den)

def ofNat (n : Nat) : Binary64 := ofRatio false n 1

/-- The double nearest to `± m * 2 ^ q`. -/
def ofScaled (negative : Bool) (m : Nat) (q : Int) : Binary64 :=
  if 0 ≤ q then ofRatio negative (m * 2 ^ q.toNat) 1 else ofRatio negative m (2 ^ (-q).toNat)

/-- The double nearest to `± m * 10 ^ e`. Exponents past the range of doubles are cut short
before any power is formed. -/
def ofDecimal (negative : Bool) (m : Nat) (e : Int) : Binary64 :=
  let top : Int := (Nat.toDigits 10 m).length + e
  if m = 0 || top < -330 then zero negative
  else if 330 < top then infinite negative
  else if 0 ≤ e then ofRatio negative (m * 10 ^ e.toNat) 1
  else ofRatio negative m (10 ^ (-e).toNat)

/-! ## Arithmetic -/

def neg (x : Binary64) : Binary64 := ofMagnitude (!x.isNegative) x.magnitude

/-- A finite value in units of `2 ^ q`, for `q` at most its exponent. -/
def inUnits (x : Binary64) (q : Int) : Int :=
  let m : Int := x.significand * 2 ^ (x.exponent - q).toNat
  if x.isNegative then -m else m

def add (x y : Binary64) : Binary64 :=
  if x.isNaN || y.isNaN then nan false
  else if x.isInfinite then
    if y.isInfinite && x.isNegative != y.isNegative then nan true else x
  else if y.isInfinite then y
  else
    let q := min x.exponent y.exponent
    let sum := x.inUnits q + y.inUnits q
    if sum = 0 then zero (x.isNegative && y.isNegative)
    else ofScaled (decide (sum < 0)) sum.natAbs q

def mul (x y : Binary64) : Binary64 :=
  let negative := x.isNegative != y.isNegative
  if x.isNaN || y.isNaN then nan false
  else if x.isInfinite || y.isInfinite then
    if x.isZero || y.isZero then nan true else infinite negative
  else ofScaled negative (x.significand * y.significand) (x.exponent + y.exponent)

def div (x y : Binary64) : Binary64 :=
  let negative := x.isNegative != y.isNegative
  if x.isNaN || y.isNaN then nan false
  else if x.isInfinite then
    if y.isInfinite then nan true else infinite negative
  else if y.isInfinite then zero negative
  else if y.isZero then
    if x.isZero then nan true else infinite negative
  else
    let q := x.exponent - y.exponent
    if 0 ≤ q then ofRatio negative (x.significand * 2 ^ q.toNat) y.significand
    else ofRatio negative x.significand (y.significand * 2 ^ (-q).toNat)

instance : Add Binary64 := ⟨add⟩
instance : Mul Binary64 := ⟨mul⟩
instance : Div Binary64 := ⟨div⟩
instance : Neg Binary64 := ⟨neg⟩

/-- The natural number nearest to a value, a half going up; negative values and values that are no
number give zero, and all values from `bound` on give the last number below it. -/
def toNatBelow (bound : Nat) (x : Binary64) : Nat :=
  if x.isNaN || x.isNegative then 0
  else if x.isInfinite then bound - 1
  else
    let n := if 0 ≤ x.exponent then x.significand * 2 ^ x.exponent.toNat
      else (2 * x.significand + 2 ^ (-x.exponent).toNat) / (2 * 2 ^ (-x.exponent).toNat)
    min n (bound - 1)

/-! ## Order -/

/-- The place of a value in the total order. -/
def place (x : Binary64) : Int := if x.isNegative then -1 - x.magnitude else x.magnitude

/-- The total order: the value below every other is the negative one with the largest magnitude. -/
protected def compare (x y : Binary64) : Ordering := Ord.compare x.place y.place

end Binary64

end LedgerQuery.Number
