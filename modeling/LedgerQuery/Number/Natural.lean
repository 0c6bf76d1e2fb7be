import LedgerQuery.Number.Power

/-!
# Natural numbers as text

Reading digits in a base up to sixteen, with a bound that the value has to stay below. A plus sign
may stand in front. The first fault met from the left is the one reported.
-/

namespace LedgerQuery.Number

/-- Why a text is no number. -/
inductive NumeralError
  | empty
  | invalidDigit
  | tooLarge
deriving DecidableEq, Repr

def NumeralError.message : NumeralError → String
  | .empty => "cannot parse integer from empty string"
  | .invalidDigit => "invalid digit found in string"
  | .tooLarge => "number too large to fit in target type"

/-- The value of a digit, letters standing for ten to fifteen in either case. -/
def digitValue? (c : Char) : Option Nat :=
  if '0' ≤ c ∧ c ≤ '9' then some (c.toNat - '0'.toNat)
  else if 'a' ≤ c ∧ c ≤ 'f' then some (c.toNat - 'a'.toNat + 10)
  else if 'A' ≤ c ∧ c ≤ 'F' then some (c.toNat - 'A'.toNat + 10)
  else none

def digit? (radix : Nat) (c : Char) : Option Nat :=
  (digitValue? c).filter (· < radix)

/-- Reads on from the value of the digits already read. -/
def readDigits (radix bound : Nat) : Nat → List Char → Except NumeralError Nat
  | value, [] => .ok value
  | value, c :: cs =>
    match digit? radix c with
    | none => .error .invalidDigit
    | some d =>
      if value * radix + d < bound then readDigits radix bound (value * radix + d) cs
      else .error .tooLarge

/-- Reads a whole text as a number below `bound`. -/
def read (radix bound : Nat) : List Char → Except NumeralError Nat
  | [] => .error .empty
  | ['+'] => .error .invalidDigit
  | '+' :: cs => readDigits radix bound 0 cs
  | cs => readDigits radix bound 0 cs

/-- Reads a whole decimal text as a number below `bound`. -/
def decimal? (bound : Nat) (s : String) : Option Nat := (read 10 bound s.toList).toOption

/-- The value of a run of decimal digits; other characters count as zero. -/
def valueOf (cs : List Char) : Nat :=
  cs.foldl (fun v c => v * 10 + (digit? 10 c).getD 0) 0

/-- Lower-case hexadecimal digits without leading zeros. -/
def hexDigits (n : Nat) : String := .ofList (Nat.toDigits 16 n)

def decimalDigits (n : Nat) : String := .ofList (Nat.toDigits 10 n)

def decimalInt : Int → String
  | .ofNat n => decimalDigits n
  | .negSucc n => "-" ++ decimalDigits (n + 1)

theorem readDigits_lt {radix bound v : Nat} {cs : List Char} {n : Nat} (hv : v < bound)
    (h : readDigits radix bound v cs = .ok n) : n < bound := by
  induction cs generalizing v with
  | nil => simp only [readDigits, Except.ok.injEq] at h; omega
  | cons c cs ih =>
    rw [readDigits] at h
    split at h
    · cases h
    · split at h
      · next hb => exact ih hb h
      · cases h

/-- A number that was read is below the bound. -/
theorem read_lt {radix bound : Nat} {cs : List Char} {n : Nat} (hb : 0 < bound)
    (h : read radix bound cs = .ok n) : n < bound := by
  rw [read.eq_def] at h
  split at h
  · cases h
  · cases h
  · exact readDigits_lt hb h
  · exact readDigits_lt hb h

end LedgerQuery.Number
