import LedgerQuery.Json.Basic

/-!
# Records as JSON

A record is read from an object by the names of its members, or from an array by position. Members
are checked in the order in which they stand, then missing ones are reported in the order of the
fields. Members that are no fields are skipped.
-/

namespace LedgerQuery.Json

/-- Whether a record is read along with its text or from a settled value. -/
inductive Origin
  | text
  | value
deriving DecidableEq, Repr

def readText : Json → Except Fault String
  | .str (some s) => .ok s
  | j => mismatch "a string" j

def readNullable {α : Type} (r : Json → Except Fault α) : Json → Except Fault (Option α)
  | .null => .ok none
  | j => (r j).map some

def readList {α : Type} (r : Json → Except Fault α) : Json → Except Fault (List α)
  | .arr items closed =>
    match items.mapM r with
    | .ok as => if closed then .ok as else .error .malformed
    | .error f => .error f
  | j => mismatch "a sequence" j

/-- A field of a record: its name, whether it has to be there, and when a value is right for it. -/
structure Field where
  name : String
  required : Bool
  check : Json → Except Fault Unit

/-- How a record is put together from the values of its fields. -/
structure Shape (α : Type) where
  fields : List Field
  build : (String → Option Json) → Except Fault α

namespace Shape

variable {α : Type}

instance : Applicative Shape where
  pure a := ⟨[], fun _ => .ok a⟩
  seq f x := ⟨f.fields ++ (x ()).fields, fun get =>
    match f.build get with
    | .ok g => ((x ()).build get).map g
    | .error e => .error e⟩

def required (name : String) (r : Json → Except Fault α) : Shape α :=
  ⟨[⟨name, true, fun j => (r j).map fun _ => ()⟩], fun get =>
    match get name with
    | some j => r j
    | none => .error (.data ("missing field `" ++ name ++ "`"))⟩

def optional (name : String) (default : α) (r : Json → Except Fault α) : Shape α :=
  ⟨[⟨name, false, fun j => (r j).map fun _ => ()⟩], fun get =>
    match get name with
    | some j => r j
    | none => .ok default⟩

def nullable (name : String) (r : Json → Except Fault α) : Shape (Option α) :=
  optional name none (readNullable r)

/-- Checks members in their order; `seen` are the fields met before. -/
def checkMembers (fields : List Field) : List String → List (Option String × Json) →
    Except Fault Unit
  | _, [] => .ok ()
  | _, (none, _) :: _ => .error .malformed
  | seen, (some k, j) :: ms =>
    match fields.find? (fun f => f.name == k) with
    | none => if j.complete then checkMembers fields seen ms else .error .malformed
    | some f =>
      if seen.contains k then .error (.data ("duplicate field `" ++ k ++ "`"))
      else
        match f.check j with
        | .ok () => checkMembers fields (k :: seen) ms
        | .error e => .error e

/-- Checks elements against the fields in the same places. -/
def checkItems : List Field → List Json → Except Fault Unit
  | f :: fs, j :: js =>
    match f.check j with
    | .ok () => checkItems fs js
    | .error e => .error e
  | _, _ => .ok ()

/-- The fault of an array with more elements than the record has fields. -/
def excess : Origin → Nat → Fault
  | .text, _ => .malformed
  | .value, n => .data ("invalid length " ++ Number.decimalDigits n ++
      ", expected fewer elements in array")

/-- Reads a record; `label` names it in messages. -/
def read (s : Shape α) (label : String) (origin : Origin) : Json → Except Fault α
  | .obj members closed =>
    match checkMembers s.fields [] members with
    | .error e => .error e
    | .ok () =>
      if !closed then .error .malformed
      else
        let get (name : String) := members.lookup (some name)
        match s.fields.find? (fun f => f.required && (get f.name).isNone) with
        | some f => .error (.data ("missing field `" ++ f.name ++ "`"))
        | none => s.build get
  | .arr items closed =>
    match checkItems s.fields items with
    | .error e => .error e
    | .ok () =>
      if s.fields.length < items.length then .error (excess origin items.length)
      else if !closed then .error .malformed
      else
        match (s.fields.drop items.length).findIdx? (fun f => f.required) with
        | some i => .error (.data ("invalid length " ++
            Number.decimalDigits (items.length + i) ++ ", expected struct " ++ label ++ " with " ++
            Number.decimalDigits s.fields.length ++ " elements"))
        | none => s.build fun name => ((s.fields.map fun f => f.name).zip items).lookup name
  | j => mismatch ("struct " ++ label) j

end Shape

end LedgerQuery.Json
