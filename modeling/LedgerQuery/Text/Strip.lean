/-!
# Stripping the ends of a text

`strip p s` drops the characters of a class from both ends of `s` and keeps those in between.
-/

namespace LedgerQuery.Text

/-- The characters left after dropping those in the class `p` from both ends. -/
def stripChars (p : Char → Bool) (cs : List Char) : List Char :=
  ((cs.dropWhile p).reverse.dropWhile p).reverse

/-- `s` without the characters in the class `p` at its two ends. -/
def strip (p : Char → Bool) (s : String) : String := .ofList (stripChars p s.toList)

/-- The quotes that a literal may carry. -/
def isQuote (c : Char) : Bool := c == '\'' || c == '"'

/-- `s` without single and double quotes at its two ends. -/
def unquote (s : String) : String := strip isQuote s

end LedgerQuery.Text
