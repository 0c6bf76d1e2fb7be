import LedgerQuery.Number.Natural

/-!
# Literals and names of SQL

Literals and identifiers as they are read, and the text that a statement shows them by. A quote
inside a quoted text is written twice, unless it already stands next to another quote or after a
backslash.
-/

namespace LedgerQuery.Sql

/-- The characters of a text between quotes `q`; `last` is the character before them. -/
def doubleQuotes (q : Char) : Char → List Char → List Char
  | _, [] => []
  | last, c :: cs =>
    if c != q then c :: doubleQuotes q c cs
    else if last == '\\' then c :: doubleQuotes q last cs
    else
      match cs with
      | [] => [q, q]
      | d :: ds =>
        if d == q then q :: q :: doubleQuotes q q ds
        else q :: q :: doubleQuotes q q (d :: ds)

def quoted (q : Char) (s : String) : String :=
  .ofList (q :: (doubleQuotes q '\x00' s.toList ++ [q]))

inductive Literal
  | number (text : String) (long : Bool)
  /-- A text in single quotes. -/
  | text (s : String)
  /-- A text in double quotes, where only a literal can stand. -/
  | quotedText (s : String)
  /-- A text with escapes by backslash. -/
  | escaped (s : String)
  /-- A text with escapes by code point. -/
  | unicode (s : String)
  | national (s : String)
  | hex (s : String)
  | bytes (quote : Char) (s : String)
  | raw (quote : Char) (s : String)
  /-- A text between dollar signs with a tag, which may be empty. -/
  | dollar (tag s : String)
  | bool (b : Bool)
  | null
  | placeholder (s : String)
deriving DecidableEq, Repr

namespace Literal

/-- One character of a text with escapes by backslash. -/
def escapeChar (c : Char) : List Char :=
  if c == '\'' then ['\\', '\'']
  else if c == '\\' then ['\\', '\\']
  else if c == '\n' then ['\\', 'n']
  else if c == '\t' then ['\\', 't']
  else if c == '\r' then ['\\', 'r']
  else [c]

/-- A number in upper-case hexadecimal digits, at least `width` of them. -/
def upperHex (width n : Nat) : List Char :=
  let ds := (Nat.toDigits 16 n).map Char.toUpper
  List.replicate (width - ds.length) '0' ++ ds

/-- One character of a text with escapes by code point. -/
def escapeUnicode (c : Char) : List Char :=
  if c == '\'' then ['\'', '\'']
  else if c == '\\' then ['\\', '\\']
  else if c.toNat < 128 then [c]
  else if c.toNat < 65536 then '\\' :: upperHex 4 c.toNat
  else '\\' :: '+' :: upperHex 6 c.toNat

/-- A text with its characters written by `f`, between quotes. -/
def spelled (start : String) (f : Char → List Char) (s : String) : String :=
  start ++ "'" ++ .ofList (s.toList.flatMap f) ++ "'"

def render : Literal → String
  | .number s long => if long then s ++ "L" else s
  | .text s => quoted '\'' s
  | .quotedText s => quoted '"' s
  | .escaped s => spelled "E" escapeChar s
  | .unicode s => spelled "U&" escapeUnicode s
  | .national s => "N'" ++ s ++ "'"
  | .hex s => "X'" ++ s ++ "'"
  | .bytes q s => "B" ++ q.toString ++ s ++ q.toString
  | .raw q s => "R" ++ q.toString ++ s ++ q.toString
  | .dollar tag s => "$" ++ tag ++ "$" ++ s ++ "$" ++ tag ++ "$"
  | .bool b => if b then "true" else "false"
  | .null => "NULL"
  | .placeholder s => s

/-- Whether a literal may stand after the name of a set of characters. -/
def isIntroduced : Literal → Bool
  | .text _ | .hex _ => true
  | _ => false

end Literal

structure Ident where
  value : String
  quote : Option Char
deriving DecidableEq, Repr

def Ident.render (i : Ident) : String :=
  match i.quote with
  | some q => quoted q i.value
  | none => i.value

def renderName (parts : List Ident) : String := ".".intercalate (parts.map Ident.render)

def commas (ts : List String) : String := ", ".intercalate ts

end LedgerQuery.Sql
