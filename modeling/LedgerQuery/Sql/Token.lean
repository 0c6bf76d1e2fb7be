import LedgerQuery.Sql.Literal

/-!
# Tokens

Words, literals and symbols. A word without quotes is a keyword whenever its upper case is one;
the letters of other scripts whose upper case is made of ASCII letters count as those letters.
-/

namespace LedgerQuery.Sql

/-- A character in upper case, as far as keywords are concerned. -/
def keyLetter (c : Char) : List Char :=
  if c.toNat < 128 then [c.toUpper]
  else if c == 'ſ' then ['S']
  else if c == 'ı' then ['I']
  else if c == 'ß' then ['S', 'S']
  else if c == 'ﬀ' then ['F', 'F']
  else if c == 'ﬁ' then ['F', 'I']
  else if c == 'ﬂ' then ['F', 'L']
  else if c == 'ﬃ' then ['F', 'F', 'I']
  else if c == 'ﬄ' then ['F', 'F', 'L']
  else if c == 'ﬅ' || c == 'ﬆ' then ['S', 'T']
  else [c]

/-- The keyword that an identifier may be; quotes make it none. -/
def Ident.key (i : Ident) : String :=
  match i.quote with
  | none => .ofList (i.value.toList.flatMap keyLetter)
  | some _ => ""

inductive Token
  | word (i : Ident)
  | literal (l : Literal)
  | symbol (s : String)
deriving DecidableEq, Repr

/-- The keyword that a token may be. -/
def Token.key : Token → String
  | .word i => i.key
  | .literal _ | .symbol _ => ""

def Token.render : Token → String
  | .word i => i.render
  | .literal l => l.render
  | .symbol s => s

end LedgerQuery.Sql
