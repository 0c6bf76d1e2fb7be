import LedgerQuery.Number.Natural
import LedgerQuery.Text.Strip

/-!
# Addresses of nodes

An address is a URL. Its host may be written as an IPv4 address in any of the usual ways: with one
to four parts, each of them in decimal, octal or hexadecimal digits.
-/

namespace LedgerQuery.Node

/-- An IPv4 address and the number of the socket there. -/
structure Endpoint where
  host : Nat
  socket : Nat
deriving DecidableEq, Repr

namespace Endpoint

def localNode : Endpoint := ⟨127 * 2 ^ 24 + 1, 8545⟩

/-- Characters that are dropped at both ends of an address. -/
def isMargin (c : Char) : Bool := c.toNat ≤ 32

/-- Characters that are dropped wherever they stand. -/
def isIgnored (c : Char) : Bool := c == '\t' || c == '\n' || c == '\r'

def isSlash (c : Char) : Bool := c == '/' || c == '\\'

/-- The part of a text after a scheme, if it starts with this one. -/
def afterScheme? (scheme : List Char) (cs : List Char) : Option (List Char) :=
  if (cs.take scheme.length).map Char.toLower == scheme then some (cs.drop scheme.length)
  else none

/-- Characters written as `%` and two hexadecimal digits. -/
def unescape : List Char → List Char
  | '%' :: a :: b :: cs =>
    match Number.digitValue? a, Number.digitValue? b with
    | some x, some y => .ofNat (16 * x + y) :: unescape cs
    | _, _ => '%' :: unescape (a :: b :: cs)
  | c :: cs => c :: unescape cs
  | [] => []

def digits? (radix : Nat) (cs : List Char) : Option Nat :=
  cs.foldl (fun v c => do some ((← v) * radix + (← Number.digit? radix c))) (some 0)

/-- One part of an address; `0x` marks hexadecimal and `0` octal digits. -/
def part? : List Char → Option Nat
  | [] => none
  | '0' :: 'x' :: cs | '0' :: 'X' :: cs => digits? 16 cs
  | '0' :: cs => digits? 8 cs
  | cs => digits? 10 cs

/-- The address with the given parts: the last part fills all the bytes that are left. -/
def ofParts? (bytes : Nat) : List Nat → Option Nat
  | [] => none
  | [n] => if n < 256 ^ bytes then some n else none
  | n :: ns =>
    if 1 < bytes && n < 256 then
      (ofParts? (bytes - 1) ns).map fun rest => n * 256 ^ (bytes - 1) + rest
    else none

/-- An IPv4 address; a point may follow it. -/
def host? (cs : List Char) : Option Nat := do
  let parts := cs.splitOn '.'
  let parts := if parts.getLast? == some [] then parts.dropLast else parts
  ofParts? 4 (← parts.mapM part?)

/-- The number of a socket; there is one even if none is written. -/
def socket? : List Char → Option Nat
  | [] | [':'] => some 80
  | ':' :: cs => if cs.all Char.isDigit then (digits? 10 cs).filter (· < 2 ^ 16) else none
  | _ => none

/-- What stands after the last `@`. -/
def afterUser (cs : List Char) : List Char := (cs.reverse.takeWhile (· != '@')).reverse

/-- The endpoint of a URL without encryption. -/
def ofUrl? (url : String) : Option Endpoint := do
  let cs := (Text.stripChars isMargin url.toList).filter fun c => !isIgnored c
  let cs ← afterScheme? "http:".toList cs
  let cs := (cs.dropWhile isSlash).takeWhile fun c => !(isSlash c || c == '?' || c == '#')
  let cs := afterUser cs
  let host ← host? (unescape (cs.takeWhile (· != ':')))
  let socket ← socket? (cs.dropWhile (· != ':'))
  some ⟨host, socket⟩

end Endpoint

end LedgerQuery.Node
