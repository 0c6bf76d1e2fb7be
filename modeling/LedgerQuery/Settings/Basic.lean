import LedgerQuery.Number.Notation
import LedgerQuery.Text.Lowercase
import LedgerQuery.Toml.Reader

/-!
# Settings

Settings come from a document and from variables of the environment; variables win over the
document, and what neither gives has its standard value. Letter case does not matter in their names.
A value is turned into a text or a number as far as it can be.
-/

namespace LedgerQuery

structure Settings where
  rpcUrl : String
  requestTimeoutSecs : Nat
  logFilter : String
deriving DecidableEq, Repr

namespace Settings

open Toml (Value Node)

def standard : Settings := ⟨"http://127.0.0.1:8545", 30, "chainql=info,warn"⟩

inductive Fault
  | noDocument
  | brokenDocument
  | unusableValue (name : String)
deriving DecidableEq, Repr

def Fault.message (_ : Fault) : String := "Failed to load settings:"

/-! ## Values -/

def text? : Value → Option String
  | .text s => some s
  | .integer n => some (Number.decimalInt n)
  | .float x => some (x.render .plain)
  | .bool b => some (if b then "true" else "false")
  | .compound => none

/-- The number below `2 ^ 64` that a value stands for. A float is rounded. -/
def number? : Value → Option Nat
  | .text s =>
    let word := Text.lower s
    if word == "true" || word == "on" || word == "yes" then some 1
    else if word == "false" || word == "off" || word == "no" then some 0
    else Number.decimal? (2 ^ 64) s
  | .integer n => if n < 0 then none else some n.toNat
  | .float x => some (x.toNatBelow (2 ^ 64))
  | .bool b => some (if b then 1 else 0)
  | .compound => none

/-! ## Names -/

/-- The characters of the parts of a path. -/
def isPathPart (c : Char) : Bool := c.isAlphanum || c == ' ' || c == '_' || c == '-'

/-- An index in brackets, after the bracket that opens it. -/
def index? (cs : List Char) : Option (List Char) :=
  let cs := cs.dropWhile (· == ' ')
  let cs := if cs.head? == some '-' then cs.drop 1 else cs
  if !(cs.head?.any Char.isDigit) then none
  else
    match (cs.dropWhile Char.isDigit).dropWhile (· == ' ') with
    | ']' :: rest => some rest
    | _ => none

/-- Whether the rest of a name leads on along a path. The number of characters bounds the steps. -/
def leadsOn : Nat → List Char → Bool
  | _, [] => true
  | 0, _ => false
  | n + 1, '.' :: cs =>
    !(cs.takeWhile isPathPart).isEmpty && leadsOn n (cs.dropWhile isPathPart)
  | n + 1, '[' :: cs =>
    match index? cs with
    | some rest => leadsOn n rest
    | none => false
  | _ + 1, _ :: _ => false

/-- The setting that a name belongs to, and whether the name leads to a part of it. -/
def target (name : String) : String × Bool :=
  let cs := name.toList
  let head := cs.takeWhile isPathPart
  let rest := cs.dropWhile isPathPart
  if !head.isEmpty && !rest.isEmpty && leadsOn rest.length rest then
    (Text.lower (.ofList head), true)
  else (Text.lower name, false)

/-- A value under the setting that its name belongs to. A value for a part of a setting makes it
compound. -/
def settle (name : String) (v : Value) : String × Value :=
  let (setting, isPart) := target name
  (setting, if isPart then .compound else v)

/-- The value of a node; a table is compound. -/
def valueOf : Node → Value
  | .value v => v
  | .table .. | .tables .. => .compound

def ofDocument (es : Toml.Entries) : List (String × Value) :=
  es.map fun p => settle p.1 (valueOf p.2)

/-- The part of a text after each `__` is a part of a path. -/
def path : List Char → List Char
  | '_' :: '_' :: cs => '.' :: path cs
  | c :: cs => c :: path cs
  | [] => []

def variableStart : List Char := "chainql__".toList

/-- The value in a variable of the environment, if it is meant for a setting. -/
def ofVariable? (p : String × String) : Option (String × Value) :=
  let cs := (Text.lower p.1).toList
  if variableStart.isPrefixOf cs then
    some (settle (.ofList (path (cs.drop variableStart.length))) (.text p.2))
  else none

/-! ## Loading -/

/-- The last value for a setting, as far as it can be used. -/
def found {α : Type} (values : List (String × Value)) (name : String) (read : Value → Option α)
    (otherwise : α) : Except Fault α :=
  match values.reverse.lookup name with
  | none => .ok otherwise
  | some v =>
    match read v with
    | some a => .ok a
    | none => .error (.unusableValue name)

def ofValues (values : List (String × Value)) : Except Fault Settings := do
  let rpcUrl ← found values "rpc_url" text? standard.rpcUrl
  let requestTimeoutSecs ← found values "request_timeout_secs" number? standard.requestTimeoutSecs
  let logFilter ← found values "log_filter" text? standard.logFilter
  .ok ⟨rpcUrl, requestTimeoutSecs, logFilter⟩

/-- The values of a document, which may be absent unless it is required. -/
def documentValues (required : Bool) : Option String → Except Fault (List (String × Value))
  | none => if required then .error .noDocument else .ok []
  | some text =>
    match Toml.parse text with
    | some es => .ok (ofDocument es)
    | none => .error .brokenDocument

def load (required : Bool) (document : Option String) (environment : List (String × String)) :
    Except Fault Settings := do
  let values ← documentValues required document
  ofValues (values ++ environment.filterMap ofVariable?)

end Settings

end LedgerQuery
