import LedgerQuery.Sql.Token

/-!
# Reading from tokens

A parser takes tokens from the front of a list. It stops where the tokens do not fit, or where
forms are nested too deeply; only the first of these lets another form be tried.
-/

namespace LedgerQuery.Sql

/-- Why reading stops. -/
inductive Halt
  | mismatch
  | tooDeep
deriving DecidableEq, Repr

abbrev Parser := StateT (List Token) (Except Halt)

namespace Parser

variable {α : Type}

def fail : Parser α := throw .mismatch

def peek : Parser (Option Token) := do return (← get).head?

def next : Parser Token := do
  match ← get with
  | t :: ts => set ts; return t
  | [] => fail

def putBack (t : Token) : Parser Unit := modify (t :: ·)

/-- Tries a form. Where the tokens do not fit, none is taken. -/
def attempt (p : Parser α) : Parser (Option α) := fun ts =>
  match p ts with
  | .ok (a, rest) => .ok (some a, rest)
  | .error .mismatch => .ok (none, ts)
  | .error .tooDeep => .error .tooDeep

def atKeyword (k : String) : Parser Bool := do
  return (← peek).any (·.key == k)

def atAny (ks : List String) : Parser Bool := do
  return (← peek).any fun t => ks.contains t.key

/-- Takes keywords if they are all there. -/
def takeKeywords (ks : List String) : Parser Bool := do
  let ts ← get
  if (ts.take ks.length).map Token.key == ks then
    set (ts.drop ks.length)
    return true
  else return false

def takeKeyword (k : String) : Parser Bool := takeKeywords [k]

def takeAny (ks : List String) : Parser (Option String) := do
  match ← get with
  | t :: ts =>
    if ks.contains t.key then
      set ts
      return some t.key
    else return none
  | [] => return none

def takeSymbol (s : String) : Parser Bool := do
  match ← get with
  | .symbol s' :: ts =>
    if s' == s then
      set ts
      return true
    else return false
  | _ => return false

def atSymbol (s : String) : Parser Bool := do return (← peek) == some (.symbol s)

def require (p : Parser Bool) : Parser Unit := do unless ← p do fail

def keyword (k : String) : Parser Unit := require (takeKeyword k)

def keywords (ks : List String) : Parser Unit := require (takeKeywords ks)

def oneOf (ks : List String) : Parser String := do
  match ← takeAny ks with
  | some k => return k
  | none => fail

def symbol (s : String) : Parser Unit := require (takeSymbol s)

/-- What follows a form in a list, as long as commas do. Every element takes its comma, so the
number of tokens bounds the list. -/
def listTail (p : Parser α) : Nat → Parser (List α)
  | 0 => return []
  | n + 1 => do
    if ← takeSymbol "," then
      let a ← p
      return a :: (← listTail p n)
    else return []

def list (p : Parser α) : Parser (List α) := do
  let a ← p
  return a :: (← listTail p (← get).length)

def parens (p : Parser α) : Parser α := do
  symbol "("
  let a ← p
  symbol ")"
  return a

def after (k : String) (p : Parser α) : Parser (Option α) := do
  if ← takeKeyword k then return some (← p) else return none

def afterAll (ks : List String) (p : Parser α) : Parser (Option α) := do
  if ← takeKeywords ks then return some (← p) else return none

/-- A list after keywords, which may be left out. -/
def listAfter (ks : List String) (p : Parser α) : Parser (List α) := do
  return (← afterAll ks (list p)).getD []

/-- Takes forms as long as there are any. The number of tokens bounds them. -/
def manyUpTo (p : Parser (Option α)) : Nat → Parser (List α)
  | 0 => return []
  | n + 1 => do
    match ← p with
    | some a => return a :: (← manyUpTo p n)
    | none => return []

def many (p : Parser (Option α)) : Parser (List α) := do manyUpTo p ((← get).length + 1)

end Parser

end LedgerQuery.Sql
