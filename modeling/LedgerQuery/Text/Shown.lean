import LedgerQuery.Unicode.Printable

/-!
# Texts shown in messages

A text quoted in a message stands between double quotes; quotes, backslashes and control
characters are escaped, and characters that do not show are given by their code point.
-/

namespace LedgerQuery.Text

/-- The code point of a character in hexadecimal between `\u` and braces. -/
def escapeCode (c : Char) : List Char :=
  '\\' :: 'u' :: '\x7b' :: (Nat.toDigits 16 c.toNat ++ ['\x7d'])

def showChar (c : Char) : List Char :=
  if c == '\x00' then ['\\', '0']
  else if c == '\t' then ['\\', 't']
  else if c == '\r' then ['\\', 'r']
  else if c == '\n' then ['\\', 'n']
  else if c == '"' then ['\\', '"']
  else if c == '\\' then ['\\', '\\']
  else if Unicode.isPrintable c then [c]
  else escapeCode c

/-- A text as it is quoted in a message. -/
def shown (s : String) : String :=
  .ofList ('"' :: (s.toList.flatMap showChar ++ ['"']))

end LedgerQuery.Text
