import LedgerQuery.Number.Binary64

/-!
# Documents of keys and values

A document is a table of tables. A table comes from a header, from a dotted key, or from standing on
the way to another; which of these decides whether it may be named again. A key is given once.
-/

namespace LedgerQuery.Toml

open Number (Binary64)

inductive Value
  | text (s : String)
  | integer (n : Int)
  | float (x : Binary64)
  | bool (b : Bool)
  /-- An array or a table, without what it holds. -/
  | compound
deriving DecidableEq, Repr

/-- Where a table comes from. -/
inductive Origin
  | header
  | dottedKey
  /-- A table that only stands on the way to another. -/
  | passage
deriving DecidableEq, Repr

inductive Node
  | value (v : Value)
  | table (origin : Origin) (entries : List (String × Node))
  /-- Tables under one header that is written several times, the last one first. -/
  | tables (last : List (String × Node)) (earlier : Nat)
deriving Repr

abbrev Entries := List (String × Node)

namespace Entries

/-- Puts a node under a key, in place of the one that is there. -/
def put (k : String) (n : Node) : Entries → Entries
  | [] => [(k, n)]
  | (k', n') :: es => if k' == k then (k, n) :: es else (k', n') :: put k n es

/-- Changes the table that a path leads to. Tables that are missing on the way are made. A dotted
key does not pass through a table that has a header. -/
def change (dotted : Bool) (f : Origin → Entries → Option Entries) (origin : Origin) :
    List String → Entries → Option Entries
  | [], es => f origin es
  | k :: ks, es =>
    let fresh := if dotted then Origin.dottedKey else .passage
    match es.lookup k with
    | none => (change dotted f fresh ks []).map fun t => put k (.table fresh t) es
    | some (.table o t) =>
      if dotted && o == .header then none
      else (change dotted f o ks t).map fun t => put k (.table o t) es
    | some (.tables t n) => (change dotted f .header ks t).map fun t => put k (.tables t n) es
    | some (.value _) => none

/-- Gives a key its value. A dotted key ends in a table made by dotted keys. -/
def assign (path : List String) (k : String) (v : Value) : Entries → Option Entries :=
  let set (origin : Origin) (es : Entries) : Option Entries :=
    if (origin == .dottedKey) == path.isEmpty || (es.lookup k).isSome then none
    else some (put k (.value v) es)
  change true set .header path

/-- Starts a table under a header. It may have stood on the way to another before. -/
def start (path : List String) (k : String) : Entries → Option Entries :=
  let set (_ : Origin) (es : Entries) : Option Entries :=
    match es.lookup k with
    | none => some (put k (.table .header []) es)
    | some (.table .passage t) => some (put k (.table .header t) es)
    | some _ => none
  change false set .header path

/-- Starts another table under a header that may be written several times. -/
def startNext (path : List String) (k : String) : Entries → Option Entries :=
  let set (_ : Origin) (es : Entries) : Option Entries :=
    match es.lookup k with
    | none => some (put k (.tables [] 0) es)
    | some (.tables _ n) => some (put k (.tables [] (n + 1)) es)
    | some _ => none
  change false set .header path

def assignUnder (header path : List String) (k : String) (v : Value) : Entries → Option Entries :=
  change false (fun _ es => assign path k v es) .header header

end Entries

end LedgerQuery.Toml
