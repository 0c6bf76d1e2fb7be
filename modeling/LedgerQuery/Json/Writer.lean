import LedgerQuery.Json.Basic

/-!
# Writing JSON text

Values are written without blanks, members in their order. Only quotes, backslashes and control
characters are escaped.
-/

namespace LedgerQuery.Json

namespace Writer

/-- A control character by its code point. -/
def unit (c : Char) : List Char :=
  ['\\', 'u', '0', '0', Nat.digitChar (c.toNat / 16), Nat.digitChar (c.toNat % 16)]

def char (c : Char) : List Char :=
  if c == '"' then ['\\', '"']
  else if c == '\\' then ['\\', '\\']
  else if c == '\x08' then ['\\', 'b']
  else if c == '\t' then ['\\', 't']
  else if c == '\n' then ['\\', 'n']
  else if c == '\x0c' then ['\\', 'f']
  else if c == '\r' then ['\\', 'r']
  else if c < ' ' then unit c
  else [c]

def string (s : String) : List Char := '"' :: (s.toList.flatMap char ++ ['"'])

def numeral (n : Numeral) : List Char :=
  (if n.negative then ['-'] else []) ++ n.whole ++
    (if n.fraction.isEmpty then [] else '.' :: n.fraction) ++
    match n.exponent with
    | none => []
    | some (negative, ds) => 'e' :: (if negative then ['-'] else []) ++ ds

mutual

/-- The text of a value. What has no text is written as `null`. -/
def value : Json → List Char
  | .null | .broken | .str none => ['n', 'u', 'l', 'l']
  | .bool true => ['t', 'r', 'u', 'e']
  | .bool false => ['f', 'a', 'l', 's', 'e']
  | .num n => numeral n
  | .str (some s) => string s
  | .arr items _ => '[' :: (elements items ++ [']'])
  | .obj ms _ => '\x7b' :: (members ms ++ ['\x7d'])

def elements : List Json → List Char
  | [] => []
  | [j] => value j
  | j :: i :: js => value j ++ ',' :: elements (i :: js)

def members : List (Option String × Json) → List Char
  | [] => []
  | [(k, j)] => string (k.getD "") ++ ':' :: value j
  | (k, j) :: m :: ms => string (k.getD "") ++ ':' :: value j ++ ',' :: members (m :: ms)

end

end Writer

def write (j : Json) : String := .ofList (Writer.value j)

end LedgerQuery.Json
