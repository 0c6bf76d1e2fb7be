import LedgerQuery.Json.Basic

/-!
# Reading JSON text

A text is read into a tree that ends where the text stops being JSON. Blanks may stand between
tokens, and nothing else.
-/

namespace LedgerQuery.Json

/-- A text as a tree, and whether something other than blanks follows the value. -/
structure Document where
  value : Json
  trailing : Bool

/-- Reads the whole text as a value of some kind. What follows the value matters only if the value
is as wanted. -/
def Document.read {α : Type} (d : Document) (r : Json → Except Fault α) : Except Fault α :=
  match r d.value with
  | .ok a => if d.trailing then .error .malformed else .ok a
  | .error f => .error f

namespace Reader

def isBlank (c : Char) : Bool := c == ' ' || c == '\n' || c == '\t' || c == '\r'

def skip (cs : List Char) : List Char := cs.dropWhile isBlank

/-! ## Strings -/

def hexUnit : List Char → Option (Nat × List Char)
  | a :: b :: c :: d :: cs => do
    let a ← Number.digitValue? a
    let b ← Number.digitValue? b
    let c ← Number.digitValue? c
    let d ← Number.digitValue? d
    some (((a * 16 + b) * 16 + c) * 16 + d, cs)
  | _ => none

def isHigh (n : Nat) : Bool := 0xD800 ≤ n && n < 0xDC00

def isLow (n : Nat) : Bool := 0xDC00 ≤ n && n < 0xE000

/-- The character of an escape by code unit, after `\u`; two escapes make one character beyond
the first plane. An unpaired surrogate gives none. -/
def unit (cs : List Char) : Option (Option Char × List Char) := do
  let (n, cs) ← hexUnit cs
  if isHigh n then
    match cs with
    | '\\' :: 'u' :: ds =>
      let (m, ds) ← hexUnit ds
      if isLow m then some (some (.ofNat (0x10000 + (n - 0xD800) * 0x400 + (m - 0xDC00))), ds)
      else some (none, cs)
    | _ => some (none, cs)
  else if isLow n then some (none, cs)
  else some (some (.ofNat n), cs)

def escape : List Char → Option (Option Char × List Char)
  | '"' :: cs => some (some '"', cs)
  | '\\' :: cs => some (some '\\', cs)
  | '/' :: cs => some (some '/', cs)
  | 'b' :: cs => some (some '\x08', cs)
  | 'f' :: cs => some (some '\x0c', cs)
  | 'n' :: cs => some (some '\n', cs)
  | 'r' :: cs => some (some '\r', cs)
  | 't' :: cs => some (some '\t', cs)
  | 'u' :: cs => unit cs
  | _ => none

/-- The rest of a string after its opening quote. The characters read so far are kept last first;
there are none once a surrogate was unpaired. -/
def string : Nat → Option (List Char) → List Char → Option (Option String × List Char)
  | 0, _, _ => none
  | _ + 1, _, [] => none
  | _ + 1, acc, '"' :: cs => some (acc.map fun r => .ofList r.reverse, cs)
  | fuel + 1, acc, '\\' :: cs =>
    match escape cs with
    | none => none
    | some (c, cs) => string fuel (acc.bind fun r => c.map fun c => c :: r) cs
  | fuel + 1, acc, c :: cs =>
    if c < ' ' then none else string fuel (acc.map fun r => c :: r) cs

/-! ## Numbers -/

def digits (cs : List Char) : Option (List Char × List Char) :=
  match cs.span Char.isDigit with
  | ([], _) => none
  | p => some p

/-- Digits without a leading zero. -/
def wholePart : List Char → Option (List Char × List Char)
  | '0' :: cs =>
    match cs with
    | c :: _ => if c.isDigit then none else some (['0'], cs)
    | [] => some (['0'], [])
  | cs => digits cs

def fractionPart : List Char → Option (List Char × List Char)
  | '.' :: cs => digits cs
  | cs => some ([], cs)

def exponentPart : List Char → Option (Option (Bool × List Char) × List Char)
  | 'e' :: cs | 'E' :: cs =>
    match cs with
    | '+' :: cs => (digits cs).map fun p => (some (false, p.1), p.2)
    | '-' :: cs => (digits cs).map fun p => (some (true, p.1), p.2)
    | cs => (digits cs).map fun p => (some (false, p.1), p.2)
  | cs => some (none, cs)

def numeral (negative : Bool) (cs : List Char) : Option (Numeral × List Char) := do
  let (whole, cs) ← wholePart cs
  let (fraction, cs) ← fractionPart cs
  let (exponent, cs) ← exponentPart cs
  some (⟨negative, whole, fraction, exponent⟩, cs)

/-! ## Values -/

/-- A value that was read or broke off. -/
def orBroken : Option (Json × List Char) → Json × Option (List Char)
  | some (j, cs) => (j, some cs)
  | none => (.broken, none)

/-- A value that is neither an array nor an object. -/
def scalar : List Char → Option (Json × List Char)
  | 'n' :: 'u' :: 'l' :: 'l' :: cs => some (.null, cs)
  | 't' :: 'r' :: 'u' :: 'e' :: cs => some (.bool true, cs)
  | 'f' :: 'a' :: 'l' :: 's' :: 'e' :: cs => some (.bool false, cs)
  | '"' :: cs => (string (cs.length + 1) (some []) cs).map fun p => (.str p.1, p.2)
  | '-' :: cs => (numeral true cs).map fun p => (.num p.1, p.2)
  | cs => (numeral false cs).map fun p => (.num p.1, p.2)

mutual

/-- The value at the start of a text, and the text after it unless the value breaks off. -/
def value : Nat → List Char → Json × Option (List Char)
  | 0, _ => (.broken, none)
  | fuel + 1, cs =>
    match skip cs with
    | '[' :: cs =>
      match skip cs with
      | ']' :: cs => (.arr [] true, some cs)
      | cs =>
        let (items, rest) := elements fuel cs
        (.arr items rest.isSome, rest)
    | '\x7b' :: cs =>
      match skip cs with
      | '\x7d' :: cs => (.obj [] true, some cs)
      | cs =>
        let (ms, rest) := members fuel cs
        (.obj ms rest.isSome, rest)
    | cs => orBroken (scalar cs)

def elements : Nat → List Char → List Json × Option (List Char)
  | 0, _ => ([], none)
  | fuel + 1, cs =>
    match value fuel cs with
    | (j, none) => ([j], none)
    | (j, some cs) =>
      match skip cs with
      | ',' :: cs =>
        let (js, rest) := elements fuel cs
        (j :: js, rest)
      | ']' :: cs => ([j], some cs)
      | _ => ([j], none)

def members : Nat → List Char → List (Option String × Json) × Option (List Char)
  | 0, _ => ([], none)
  | fuel + 1, cs =>
    match skip cs with
    | '"' :: cs =>
      match string (cs.length + 1) (some []) cs with
      | none => ([], none)
      | some (key, cs) =>
        match skip cs with
        | ':' :: cs =>
          match value fuel cs with
          | (j, none) => ([(key, j)], none)
          | (j, some cs) =>
            match skip cs with
            | ',' :: cs =>
              let (ms, rest) := members fuel cs
              ((key, j) :: ms, rest)
            | '\x7d' :: cs => ([(key, j)], some cs)
            | _ => ([(key, j)], none)
        | _ => ([(key, .broken)], none)
    | _ => ([], none)

end

end Reader

def parse (s : String) : Document :=
  let cs := s.toList
  match Reader.value (cs.length + 1) cs with
  | (j, none) => ⟨j, false⟩
  | (j, some rest) => ⟨j, !(Reader.skip rest).isEmpty⟩

end LedgerQuery.Json
