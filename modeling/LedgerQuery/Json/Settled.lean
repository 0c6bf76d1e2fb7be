import LedgerQuery.Json.Basic

/-!
# Trees settled into values

A value that is read first and decoded later keeps less than its text: the members of an object are
sorted by key, and of a repeated key only the last member is kept. In return it has no faults of
text left.
-/

namespace LedgerQuery.Json

/-- Adds a member to sorted ones, in the place of one with the same key. -/
def insertSorted (k : String) (j : Json) : List (String × Json) → List (String × Json)
  | [] => [(k, j)]
  | (l, i) :: ms =>
    if k < l then (k, j) :: (l, i) :: ms
    else if k == l then (k, j) :: ms
    else (l, i) :: insertSorted k j ms

/-- Members in the order of their keys, the last one of each key. -/
def sortMembers (ms : List (String × Json)) : List (String × Json) :=
  ms.foldl (fun acc m => insertSorted m.1 m.2 acc) []

mutual

/-- A value without faults of text and with at most `depth` arrays and objects inside each other. -/
def settle (depth : Nat) : Json → Option Json
  | .null => some .null
  | .bool b => some (.bool b)
  | .num n => if n.value?.isSome then some (.num n) else none
  | .str (some s) => some (.str (some s))
  | .str none | .broken => none
  | .arr items closed =>
    if closed && 0 < depth then (settleItems (depth - 1) items).map list else none
  | .obj members closed =>
    if closed && 0 < depth then
      (settleMembers (depth - 1) members).map fun ms => object (sortMembers ms)
    else none

def settleItems (depth : Nat) : List Json → Option (List Json)
  | [] => some []
  | j :: js => do
    let j ← settle depth j
    let js ← settleItems depth js
    some (j :: js)

def settleMembers (depth : Nat) : List (Option String × Json) → Option (List (String × Json))
  | [] => some []
  | (none, _) :: _ => none
  | (some k, j) :: ms => do
    let j ← settle depth j
    let ms ← settleMembers depth ms
    some ((k, j) :: ms)

end

/-- How deep the value of a member of a document may be nested. -/
def memberDepth : Nat := 126

def anyValue (j : Json) : Except Fault Json :=
  match j.settle memberDepth with
  | some j => .ok j
  | none => .error .malformed

end LedgerQuery.Json
