import LedgerQuery.Number.Natural
import LedgerQuery.Number.Reading
import LedgerQuery.Toml.Basic

/-!
# Keys, texts, numbers and times
-/

namespace LedgerQuery.Toml

/-- Takes characters from the front of a text. -/
abbrev Reader := StateT (List Char) Option

namespace Reader

variable {α : Type}

def fail : Reader α := fun _ => none

def peek : Reader (Option Char) := do return (← get).head?

def next : Reader Char := fun cs =>
  match cs with
  | c :: cs => some (c, cs)
  | [] => none

def takeWhile (p : Char → Bool) : Reader (List Char) :=
  fun cs => some (cs.takeWhile p, cs.dropWhile p)

def take (s : String) : Reader Bool := fun cs =>
  if s.toList.isPrefixOf cs then some (true, cs.drop s.length) else some (false, cs)

def expect (s : String) : Reader Unit := do unless ← take s do fail

def takeEither (s t : String) : Reader Bool := do
  if ← take s then return true else take t

/-- Tries a form; where it does not fit, nothing is taken. -/
def attempt (r : Reader α) : Reader (Option α) := fun cs =>
  match r cs with
  | some (a, rest) => some (some a, rest)
  | none => some (none, cs)

end Reader

open Reader

def isGap (c : Char) : Bool := c == ' ' || c == '\t'

def gap : Reader Unit := do let _ ← takeWhile isGap

def lineEnd : Reader Bool := takeEither "\n" "\r\n"

def isVisible (c : Char) : Bool := c == '\t' || 32 ≤ c.toNat && c.toNat != 127

def comment : Reader Unit := do
  if ← take "#" then
    let _ ← takeWhile isVisible

/-- Gaps, comments and ends of lines. -/
def blanks : Nat → Reader Unit
  | 0 => return ()
  | n + 1 => do
    gap
    comment
    if ← lineEnd then blanks n

/-! ## Texts -/

def codePoint (n : Nat) : Reader Char := do
  let ds := (← get).take n
  if ds.length < n then fail
  match ds.mapM Number.digitValue? with
  | none => fail
  | some vs =>
    let v := vs.foldl (fun v d => v * 16 + d) 0
    if h : v.isValidChar then
      modify (·.drop n)
      return .ofNatAux v h
    else fail

def escape : Reader Char := do
  match ← next with
  | 'b' => return '\x08'
  | 't' => return '\t'
  | 'n' => return '\n'
  | 'f' => return '\x0c'
  | 'r' => return '\r'
  | '"' => return '"'
  | '\\' => return '\\'
  | 'u' => codePoint 4
  | 'U' => codePoint 8
  | _ => fail

/-- The rest of a text on one line. -/
def lineText (quote : Char) (escapes : Bool) : Nat → List Char → Reader String
  | 0, _ => fail
  | n + 1, acc => do
    let c ← next
    if c == quote then return .ofList acc.reverse
    else if escapes && c == '\\' then lineText quote escapes n ((← escape) :: acc)
    else if isVisible c then lineText quote escapes n (c :: acc)
    else fail

/-- Takes a backslash that ends a line, with all blanks after it. -/
def continuation : Reader Unit := do
  expect "\\"
  gap
  unless ← lineEnd do fail
  let _ ← takeWhile fun c => isGap c || c == '\n' || c == '\r'

/-- The rest of a text on several lines. Quotes right before the end belong to it. -/
def linesText (quote : Char) (escapes : Bool) : Nat → List Char → Reader String
  | 0, _ => fail
  | n + 1, acc => do
    let quotes := (← get).takeWhile (· == quote)
    if 5 < quotes.length then fail
    else if 3 ≤ quotes.length then
      modify (·.drop quotes.length)
      return .ofList (acc.reverse ++ quotes.drop 3)
    else if ← lineEnd then linesText quote escapes n ('\n' :: acc)
    else if escapes && (← peek) == some '\\' then
      match ← attempt continuation with
      | some _ => linesText quote escapes n acc
      | none =>
        let _ ← next
        linesText quote escapes n ((← escape) :: acc)
    else
      let c ← next
      if isVisible c then linesText quote escapes n (c :: acc) else fail

/-- The number of characters left bounds the length of a text. -/
def bounded {α : Type} (r : Nat → Reader α) : Reader α := do r ((← get).length + 1)

def text : Reader String := do
  if ← take "\"\"\"" then
    let _ ← lineEnd
    bounded fun n => linesText '"' true n []
  else if ← take "'''" then
    let _ ← lineEnd
    bounded fun n => linesText '\'' false n []
  else if ← take "\"" then bounded fun n => lineText '"' true n []
  else
    expect "'"
    bounded fun n => lineText '\'' false n []

/-! ## Keys -/

def isKeyPart (c : Char) : Bool := c.isAlphanum || c == '_' || c == '-'

def simpleKey : Reader String := do
  match ← peek with
  | some '"' =>
    let _ ← next
    bounded fun n => lineText '"' true n []
  | some '\'' =>
    let _ ← next
    bounded fun n => lineText '\'' false n []
  | _ =>
    match ← takeWhile isKeyPart with
    | [] => fail
    | cs => return .ofList cs

/-- Keys with points between them, the last one apart. -/
def dottedKey : Nat → Reader (List String × String)
  | 0 => fail
  | n + 1 => do
    gap
    let k ← simpleKey
    gap
    if ← take "." then
      let (path, last) ← dottedKey n
      return (k :: path, last)
    else return ([], k)

/-! ## Numbers -/

/-- Digits of a base; single underscores may stand between them. -/
def digits (radix : Nat) : Reader (List Char) := do
  let cs ← takeWhile fun c => (Number.digit? radix c).isSome || c == '_'
  let groups := cs.splitOn '_'
  if groups.any List.isEmpty then fail else return groups.flatten

/-- A whole number in a base other than ten, below `2 ^ 63`. -/
def radixInteger (radix : Nat) : Reader Value := do
  let ds ← digits radix
  let n := ds.foldl (fun v c => v * radix + (Number.digit? radix c).getD 0) 0
  if n < 2 ^ 63 then return .integer n else fail

/-- Decimal digits without a leading zero. -/
def wholeDigits : Reader (List Char) := do
  match ← digits 10 with
  | '0' :: _ :: _ => fail
  | ds => return ds

def exponent : Reader (List Char) := do
  if ← takeEither "e" "E" then
    let sign ← if ← take "+" then pure [] else if ← take "-" then pure ['-'] else pure []
    return 'e' :: sign ++ (← digits 10)
  else return []

/-- A decimal number: a fraction or an exponent makes it a float, which must not be too large. -/
def decimal (sign : List Char) : Reader Value := do
  let whole ← wholeDigits
  let fraction ← if ← take "." then pure ('.' :: (← digits 10)) else pure []
  let e ← exponent
  if fraction.isEmpty && e.isEmpty then
    let n : Int := Number.valueOf whole
    let n := if sign == ['-'] then -n else n
    if -(2 ^ 63) ≤ n && n < 2 ^ 63 then return .integer n else fail
  else
    match Number.Binary64.parse? (.ofList (sign ++ whole ++ fraction ++ e)) with
    | some x => if x.isInfinite && !x.isNegative then fail else return .float x
    | none => fail

def number : Reader Value := do
  if ← take "0x" then radixInteger 16
  else if ← take "0o" then radixInteger 8
  else if ← take "0b" then radixInteger 2
  else
    let sign ← if ← take "+" then pure ['+'] else if ← take "-" then pure ['-'] else pure []
    if ← take "inf" then return .float (.infinite (sign == ['-']))
    else if ← take "nan" then return .float (.nan (sign == ['-']))
    else decimal sign

/-! ## Times -/

/-- A number in exactly `n` digits, between two bounds. -/
def field (n low high : Nat) : Reader Nat := do
  let ds := (← get).take n
  if ds.length < n || !ds.all Char.isDigit then fail
  let v := Number.valueOf ds
  modify (·.drop n)
  if low ≤ v && v ≤ high then return v else fail

def padded (n v : Nat) : String :=
  let ds := Nat.toDigits 10 v
  .ofList (List.replicate (n - ds.length) '0' ++ ds)

def lastDay (year month : Nat) : Nat :=
  if month == 2 then
    if year % 4 == 0 && (year % 100 != 0 || year % 400 == 0) then 29 else 28
  else if [4, 6, 9, 11].contains month then 30
  else 31

def date : Reader String := do
  let year ← field 4 0 9999
  expect "-"
  let month ← field 2 1 12
  expect "-"
  let day ← field 2 1 (lastDay year month)
  return padded 4 year ++ "-" ++ padded 2 month ++ "-" ++ padded 2 day

/-- A fraction of a second, to nine digits. -/
def secondFraction : Reader String := do
  if ← take "." then
    match ← takeWhile Char.isDigit with
    | [] => fail
    | ds =>
      match ((ds.take 9).reverse.dropWhile (· == '0')).reverse with
      | [] => return ""
      | ds => return "." ++ .ofList ds
  else return ""

def timeOfDay : Reader String := do
  let hour ← field 2 0 23
  expect ":"
  let minute ← field 2 0 59
  expect ":"
  let second ← field 2 0 60
  return padded 2 hour ++ ":" ++ padded 2 minute ++ ":" ++ padded 2 second ++ (← secondFraction)

def zone : Reader String := do
  if ← takeEither "Z" "z" then return "Z"
  else
    match ← peek with
    | some c =>
      if c == '+' || c == '-' then
        let _ ← next
        let hour ← field 2 0 23
        expect ":"
        return c.toString ++ padded 2 hour ++ ":" ++ padded 2 (← field 2 0 59)
      else return ""
    | none => return ""

/-- A time of a day after the sign that sets it apart from the date. -/
def timeAfterDate : Reader String := do
  match ← next with
  | 'T' | 't' | ' ' =>
    let t ← timeOfDay
    return "T" ++ t ++ (← zone)
  | _ => fail

def time : Reader String := do
  match ← attempt date with
  | some d => return d ++ (← attempt timeAfterDate).getD ""
  | none => timeOfDay

end LedgerQuery.Toml
