import LedgerQuery.Toml.Lexeme

/-!
# Reading documents
-/

namespace LedgerQuery.Toml

open Reader

/-- How deeply arrays and tables in braces can be nested. -/
def valueDepth : Nat := 80

/-- The elements of an array after the bracket that opens it. The number of characters left bounds
them. -/
def elements (value : Reader Value) : Nat → Reader Unit
  | 0 => fail
  | n + 1 => do
    bounded blanks
    if ← take "]" then return ()
    let _ ← value
    bounded blanks
    if ← take "," then elements value n else expect "]"

def assignment (value : Reader Value) : Reader (List String × String × Value) := do
  let (path, k) ← bounded dottedKey
  expect "="
  gap
  return (path, k, ← value)

/-- The entries of a table in braces, all of them on one line. -/
def inlineEntries (value : Reader Value) : Nat → Entries → Reader Unit
  | 0, _ => fail
  | n + 1, es => do
    let (path, k, v) ← assignment value
    match es.assign path k v with
    | none => fail
    | some es =>
      gap
      if ← take "," then inlineEntries value n es else expect "\x7d"

def isNumberStart (c : Char) : Bool := c.isDigit || c == '+' || c == '-' || c == 'i' || c == 'n'

/-- A value in which `depth` more values can be nested. -/
def value : Nat → Reader Value
  | 0 => fail
  | depth + 1 => do
    match ← peek with
    | some '"' | some '\'' => return .text (← text)
    | some '[' =>
      let _ ← next
      bounded (elements (value depth))
      return .compound
    | some '\x7b' =>
      let _ ← next
      gap
      unless ← take "\x7d" do bounded fun n => inlineEntries (value depth) n []
      return .compound
    | some 't' =>
      expect "true"
      return .bool true
    | some 'f' =>
      expect "false"
      return .bool false
    | some c =>
      if isNumberStart c then
        match ← attempt time with
        | some t => return .text t
        | none => number
      else fail
    | none => fail

def lineRest : Reader Unit := do
  gap
  comment
  unless ← lineEnd do
    unless (← get).isEmpty do fail

/-- One line after the header of the table that it belongs to. -/
def line (header : List String) (es : Entries) : Reader (List String × Entries) := do
  let start (closing : String) (f : List String → String → Entries → Option Entries) :
      Reader (List String × Entries) := do
    let (path, k) ← bounded dottedKey
    expect closing
    lineRest
    match f path k es with
    | some es => return (path ++ [k], es)
    | none => fail
  match ← peek with
  | none | some '#' | some '\n' | some '\r' =>
    lineRest
    return (header, es)
  | some '[' =>
    if ← take "[[" then start "]]" Entries.startNext
    else
      expect "["
      start "]" Entries.start
  | some _ =>
    let (path, k, v) ← assignment (value (valueDepth + 1))
    lineRest
    match es.assignUnder header path k v with
    | some es => return (header, es)
    | none => fail

def lines : Nat → List String → Entries → Reader Entries
  | 0, _, _ => fail
  | n + 1, header, es => do
    gap
    if (← get).isEmpty then return es
    let (header, es) ← line header es
    lines n header es

/-- The table of a document, if the text is one. -/
def parse (s : String) : Option Entries :=
  let cs := match s.toList with
    | '\uFEFF' :: cs => cs
    | cs => cs
  ((lines (cs.length + 1) [] []).run cs).map Prod.fst

end LedgerQuery.Toml
