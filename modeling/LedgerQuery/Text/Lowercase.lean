import LedgerQuery.Unicode.Case

/-!
# Lower case

Names are compared in lower case, by the full rules of Unicode: a capital I with a dot becomes two
characters, and a capital sigma at the end of a word becomes a final sigma.
-/

namespace LedgerQuery.Text

open Unicode

/-- Whether the first character that is not case-ignorable has a case. -/
def nextCased (cs : List Char) : Bool :=
  match cs.dropWhile isCaseIgnorable with
  | [] => false
  | c :: _ => isCased c

/-- The lower case of one character between the characters before it, nearest first, and the
characters after it. -/
def lowerAt (before : List Char) (c : Char) (after : List Char) : List Char :=
  if c == 'Σ' then [if nextCased before && !nextCased after then 'ς' else 'σ']
  else if c == 'İ' then ['i', '\u0307']
  else [lowerLetter c]

/-- The lower case of the characters that follow `before`, which is kept nearest first. -/
def lowerFrom (before : List Char) : List Char → List Char
  | [] => []
  | c :: cs => lowerAt before c cs ++ lowerFrom (c :: before) cs

def lower (s : String) : String := .ofList (lowerFrom [] s.toList)

/-- Whether two texts are the same up to the case of ASCII letters. -/
def sameAscii (s t : String) : Bool := s.toList.map Char.toLower == t.toList.map Char.toLower

theorem toList_lower (s : String) : (lower s).toList = lowerFrom [] s.toList :=
  String.toList_ofList

theorem lowerAt_of_ascii (before : List Char) {c : Char} (after : List Char)
    (h : c.toNat < 128) : lowerAt before c after = [c.toLower] := by
  have hσ : (c == 'Σ') = false := by
    rw [beq_eq_false_iff_ne]; rintro rfl; revert h; decide
  have hi : (c == 'İ') = false := by
    rw [beq_eq_false_iff_ne]; rintro rfl; revert h; decide
  simp [lowerAt, hσ, hi, lowerLetter_of_ascii h]

end LedgerQuery.Text
