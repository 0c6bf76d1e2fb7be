import LedgerQuery.Sql.Token
import LedgerQuery.Unicode.Letters

/-!
# Reading tokens

A text is split into tokens from left to right; blanks and comments only separate them. Comments
between `/*` and `*/` nest. A text that cannot be split has no tokens.
-/

namespace LedgerQuery.Sql.Lexer

open Unicode (isLetter isNumeral isBlank)

/-! ## Words -/

def isWordStart (c : Char) : Bool := isLetter c || c == '_' || c == '#' || c == '@'

def isWordPart (c : Char) : Bool := isWordStart c || c.isDigit || c == '$'

def word (cs : List Char) : Token × List Char :=
  (.word ⟨.ofList (cs.takeWhile isWordPart), none⟩, cs.dropWhile isWordPart)

/-! ## Quoted texts -/

/-- The rest of a text between quotes `q`, in which two of them stand for one. -/
def quotedRest (q : Char) (acc : List Char) : List Char → Option (String × List Char)
  | [] => none
  | [c] => if c == q then some (.ofList acc.reverse, []) else none
  | c :: d :: cs =>
    if c != q then quotedRest q (c :: acc) (d :: cs)
    else if d == q then quotedRest q (q :: acc) cs
    else some (.ofList acc.reverse, d :: cs)

/-- What a backslash and a character stand for. -/
def backslashed (c : Char) : Char :=
  match c with
  | '0' => '\x00'
  | 'a' => '\x07'
  | 'b' => '\x08'
  | 'f' => '\x0c'
  | 'n' => '\n'
  | 'r' => '\r'
  | 't' => '\t'
  | 'Z' => '\x1a'
  | c => c

/-- The rest of a text between single quotes, in which a backslash takes away the meaning of a
quote. -/
def backslashRest (acc : List Char) : List Char → Option (String × List Char)
  | [] => none
  | '\\' :: c :: cs => backslashRest (backslashed c :: acc) cs
  | '\'' :: '\'' :: cs => backslashRest ('\'' :: acc) cs
  | '\'' :: cs => some (.ofList acc.reverse, cs)
  | c :: cs => backslashRest (c :: acc) cs

/-! ## Escapes -/

def char? (n : Nat) : Option Char := if h : n.isValidChar then some (.ofNatAux n h) else none

/-- A number in exactly `n` hexadecimal digits. -/
def hexNumber (n : Nat) (cs : List Char) : Option (Nat × List Char) :=
  let ds := cs.take n
  if ds.length < n then none
  else (ds.foldl (fun v c => do some ((← v) * 16 + (← Number.digitValue? c))) (some 0)).map
    fun v => (v, cs.drop n)

def hexChar (n : Nat) (cs : List Char) : Option (Char × List Char) := do
  let (v, cs) ← hexNumber n cs
  some (← char? v, cs)

def someDigits (radix n : Nat) (cs : List Char) : List Char :=
  (cs.take n).takeWhile fun c => (Number.digit? radix c).isSome

def byteChar (radix : Nat) (ds : List Char) : Option Char :=
  let n := ds.foldl (fun v c => v * radix + (Number.digit? radix c).getD 0) 0 % 256
  if n < 128 then some (.ofNat n) else none

def escape : List Char → Option (Char × List Char)
  | [] => none
  | 'b' :: cs => some ('\x08', cs)
  | 'f' :: cs => some ('\x0c', cs)
  | 'n' :: cs => some ('\n', cs)
  | 'r' :: cs => some ('\r', cs)
  | 't' :: cs => some ('\t', cs)
  | 'u' :: cs => hexChar 4 cs
  | 'U' :: cs => hexChar 8 cs
  | 'x' :: cs =>
    match someDigits 16 2 cs with
    | [] => some ('x', cs)
    | ds => (byteChar 16 ds).map fun c => (c, cs.drop ds.length)
  | c :: cs =>
    if (Number.digit? 8 c).isSome then
      let ds := c :: someDigits 8 2 cs
      (byteChar 8 ds).map fun c => (c, cs.drop (ds.length - 1))
    else some (c, cs)

/-- The rest of a text with escapes by backslash. -/
def escapedRest : Nat → List Char → List Char → Option (String × List Char)
  | 0, _, _ => none
  | _ + 1, _, [] => none
  | fuel + 1, acc, '\'' :: '\'' :: cs => escapedRest fuel ('\'' :: acc) cs
  | _ + 1, acc, '\'' :: cs => some (.ofList acc.reverse, cs)
  | fuel + 1, acc, '\\' :: cs => do
    let (c, cs) ← escape cs
    if c == '\x00' then none else escapedRest fuel (c :: acc) cs
  | fuel + 1, acc, c :: cs => escapedRest fuel (c :: acc) cs

/-- The rest of a text with escapes by code point. -/
def unicodeRest : Nat → List Char → List Char → Option (String × List Char)
  | 0, _, _ => none
  | _ + 1, _, [] => none
  | fuel + 1, acc, '\'' :: '\'' :: cs => unicodeRest fuel ('\'' :: acc) cs
  | _ + 1, acc, '\'' :: cs => some (.ofList acc.reverse, cs)
  | fuel + 1, acc, '\\' :: '\\' :: cs => unicodeRest fuel ('\\' :: acc) cs
  | fuel + 1, acc, '\\' :: '+' :: cs => do
    let (c, cs) ← hexChar 6 cs
    unicodeRest fuel (c :: acc) cs
  | fuel + 1, acc, '\\' :: cs => do
    let (c, cs) ← hexChar 4 cs
    unicodeRest fuel (c :: acc) cs
  | fuel + 1, acc, c :: cs => unicodeRest fuel (c :: acc) cs

/-! ## Numbers -/

def exponent (cs : List Char) : List Char × List Char :=
  match cs with
  | e :: s :: cs' =>
    if e != 'e' && e != 'E' then ([], cs)
    else if s == '+' || s == '-' then
      match cs'.span Char.isDigit with
      | ([], _) => ([], cs)
      | (ds, rest) => (e :: s :: ds, rest)
    else
      match (s :: cs').span Char.isDigit with
      | ([], _) => ([], cs)
      | (ds, rest) => (e :: ds, rest)
  | _ => ([], cs)

/-- The end of a number: an exponent, and a letter that makes it long. -/
def numberTail (ds : List Char) (cs : List Char) : Token × List Char :=
  let (e, cs) := exponent cs
  match cs with
  | 'L' :: cs => (.literal (.number (.ofList (ds ++ e)) true), cs)
  | cs => (.literal (.number (.ofList (ds ++ e)) false), cs)

/-- A number or a lone point. -/
def number (cs : List Char) : Token × List Char :=
  let (whole, cs) := cs.span Char.isDigit
  match whole, cs with
  | ['0'], 'x' :: cs =>
    let isHex := fun c => (Number.digitValue? c).isSome
    (.literal (.hex (.ofList (cs.takeWhile isHex))), cs.dropWhile isHex)
  | whole, '.' :: cs =>
    let (part, cs) := cs.span Char.isDigit
    if whole.isEmpty && part.isEmpty then (.symbol ".", cs)
    else numberTail (whole ++ '.' :: part) cs
  | whole, cs => numberTail whole cs

/-! ## Dollar signs -/

/-- The rest of a text up to two dollar signs in a row. -/
def dollarRest (acc : List Char) : List Char → Option (String × List Char)
  | '$' :: '$' :: cs => some (.ofList acc.reverse, cs)
  | ['$'] | [] => none
  | c :: cs => dollarRest (c :: acc) cs

/-- The rest of a text up to a tag between dollar signs. -/
def taggedRest (stop : List Char) (acc : List Char) : List Char → Option (String × List Char)
  | [] => if stop.isEmpty then some (.ofList acc.reverse, []) else none
  | c :: cs =>
    if stop.isPrefixOf (c :: cs) then
      some (.ofList acc.reverse, (c :: cs).drop stop.length)
    else taggedRest stop (c :: acc) cs

/-- What starts with a dollar sign: a text or a placeholder. -/
def dollar : List Char → Option (Token × List Char)
  | '$' :: cs => (dollarRest [] cs).map fun p => (.literal (.dollar "" p.1), p.2)
  | cs =>
    let isTag := fun c => isLetter c || isNumeral c || c == '_'
    let tag := cs.takeWhile isTag
    match cs.dropWhile isTag with
    | '$' :: cs =>
      (taggedRest ('$' :: (tag ++ ['$'])) [] cs).map fun p =>
        (.literal (.dollar (.ofList tag) p.1), p.2)
    | cs => some (.literal (.placeholder ("$" ++ .ofList tag)), cs)

/-! ## Comments -/

def afterComment : Nat → List Char → Option (List Char)
  | _, [] => none
  | depth, '/' :: '*' :: cs => afterComment (depth + 1) cs
  | depth, '*' :: '/' :: cs => if depth = 0 then some cs else afterComment (depth - 1) cs
  | depth, _ :: cs => afterComment depth cs

/-! ## Symbols -/

/-- Symbols of several characters, a longer one before its beginnings. -/
def longSymbols : List String := [
  "!~~*", "->>", "||/", "<=>", "!~*", "!~~", "~~*",
  "->", "||", "|/", "//", "=>", "==", "!=", "!!", "!~", "<=", "<>", "<<", "<@", ">=", ">>", "::",
  ":=", "&&", "^@", "~*", "~~"]

/-- The symbol at the start of a text. Two ways to write one symbol become one. -/
def symbol (cs : List Char) : Token × List Char :=
  match longSymbols.find? fun s => s.toList.isPrefixOf cs with
  | some s => (.symbol (if s == "!=" then "<>" else s), cs.drop s.length)
  | none => (.symbol (.ofList (cs.take 1)), cs.drop 1)

/-! ## Tokens -/

def literal (f : String → Literal) (p : Option (String × List Char)) :
    Option (Option Token × List Char) :=
  p.map fun p => (some (.literal (f p.1)), p.2)

/-- The token at the start of a text, and the text after it. Blanks and comments give none.
`afterWord` tells whether a word stands right before. -/
def step (afterWord : Bool) (cs : List Char) : Option (Option Token × List Char) :=
  let plain (p : Token × List Char) : Option (Option Token × List Char) := some (some p.1, p.2)
  match cs with
  | [] => some (none, [])
  | '-' :: '-' :: cs => some (none, (cs.dropWhile (· != '\n')).drop 1)
  | '/' :: '*' :: cs => (afterComment 0 cs).map fun cs => (none, cs)
  | 'b' :: '\'' :: cs | 'B' :: '\'' :: cs => literal (.bytes '\'') (quotedRest '\'' [] cs)
  | 'b' :: '"' :: cs | 'B' :: '"' :: cs => literal (.bytes '"') (quotedRest '"' [] cs)
  | 'r' :: '\'' :: cs | 'R' :: '\'' :: cs => literal (.raw '\'') (quotedRest '\'' [] cs)
  | 'r' :: '"' :: cs | 'R' :: '"' :: cs => literal (.raw '"') (quotedRest '"' [] cs)
  | 'n' :: '\'' :: cs | 'N' :: '\'' :: cs => literal .national (quotedRest '\'' [] cs)
  | 'e' :: '\'' :: cs | 'E' :: '\'' :: cs =>
    literal .escaped (escapedRest (cs.length + 1) [] cs)
  | 'u' :: '&' :: '\'' :: cs | 'U' :: '&' :: '\'' :: cs =>
    literal .unicode (unicodeRest (cs.length + 1) [] cs)
  | 'x' :: '\'' :: cs | 'X' :: '\'' :: cs => literal .hex (backslashRest [] cs)
  | '\'' :: cs => literal .text (quotedRest '\'' [] cs)
  | '"' :: cs => (quotedRest '"' [] cs).map fun p => (some (.word ⟨p.1, some '"'⟩), p.2)
  | '`' :: cs => (quotedRest '`' [] cs).map fun p => (some (.word ⟨p.1, some '`'⟩), p.2)
  | '.' :: '_' :: cs => if afterWord then some (some (.symbol "."), '_' :: cs) else none
  | '$' :: cs => (dollar cs).map fun p => (some p.1, p.2)
  | '?' :: cs =>
    plain (.literal (.placeholder ("?" ++ .ofList (cs.takeWhile isNumeral))),
      cs.dropWhile isNumeral)
  | c :: rest =>
    if isWordStart c then plain (word cs)
    else if c.isDigit || c == '.' then plain (number cs)
    else if isBlank c then some (none, rest)
    else plain (symbol cs)

def isWord : Option Token → Bool
  | some (.word _) => true
  | _ => false

def tokens : Nat → Bool → List Char → Option (List Token)
  | _, _, [] => some []
  | 0, _, _ :: _ => none
  | fuel + 1, afterWord, cs =>
    match step afterWord cs with
    | none => none
    | some (t, rest) => (tokens fuel (isWord t) rest).map fun ts => t.toList ++ ts

end Lexer

/-- The tokens of a text, if it can be split into tokens. -/
def lex (s : String) : Option (List Token) :=
  let cs := s.toList
  Lexer.tokens cs.length false cs

end LedgerQuery.Sql
