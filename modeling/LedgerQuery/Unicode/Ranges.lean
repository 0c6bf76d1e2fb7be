/-!
# Classes of code points

A class of code points is kept as the increasing array of its boundaries: it starts at the first,
stops before the second, starts again at the third, and so on.
-/

namespace LedgerQuery.Unicode

/-- A code point is in a class when an odd number of boundaries are at or below it. -/
def within (bounds : Array Nat) (n : Nat) : Bool :=
  bounds.foldl (fun inside b => if b ≤ n then !inside else inside) false

end LedgerQuery.Unicode
