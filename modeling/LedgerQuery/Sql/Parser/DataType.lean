import LedgerQuery.Sql.Parser.Name

/-!
# Data types
-/

namespace LedgerQuery.Sql.Parser

/-- What may follow the name of a data type. -/
inductive TypeShape
  | plain
  /-- A size. -/
  | sized
  /-- A size, and whether there are negative numbers. -/
  | integer
  /-- A number of characters. -/
  | text
  /-- A number of digits and of digits after the point. -/
  | exact

def namedTypes : List (String × String × TypeShape) := [
  ("BOOLEAN", "BOOLEAN", .plain), ("BOOL", "BOOL", .plain), ("REAL", "REAL", .plain),
  ("FLOAT4", "FLOAT4", .plain), ("FLOAT8", "FLOAT8", .plain), ("FLOAT32", "Float32", .plain),
  ("FLOAT64", "FLOAT64", .plain), ("INT16", "Int16", .plain), ("INT32", "Int32", .plain),
  ("INT64", "INT64", .plain), ("INT128", "Int128", .plain), ("INT256", "Int256", .plain),
  ("UINT8", "UInt8", .plain), ("UINT16", "UInt16", .plain), ("UINT32", "UInt32", .plain),
  ("UINT64", "UInt64", .plain), ("UINT128", "UInt128", .plain), ("UINT256", "UInt256", .plain),
  ("UUID", "UUID", .plain), ("DATE", "DATE", .plain), ("DATE32", "Date32", .plain),
  ("TIMESTAMP_NTZ", "TIMESTAMP_NTZ", .plain), ("JSON", "JSON", .plain),
  ("JSONB", "JSONB", .plain), ("REGCLASS", "REGCLASS", .plain), ("TEXT", "TEXT", .plain),
  ("TINYTEXT", "TINYTEXT", .plain), ("MEDIUMTEXT", "MEDIUMTEXT", .plain),
  ("LONGTEXT", "LONGTEXT", .plain), ("TINYBLOB", "TINYBLOB", .plain),
  ("MEDIUMBLOB", "MEDIUMBLOB", .plain), ("LONGBLOB", "LONGBLOB", .plain),
  ("BYTEA", "BYTEA", .plain), ("TRIGGER", "TRIGGER", .plain),
  ("FLOAT", "FLOAT", .sized), ("CLOB", "CLOB", .sized), ("BINARY", "BINARY", .sized),
  ("BLOB", "BLOB", .sized), ("BYTES", "BYTES", .sized), ("VARBIT", "VARBIT", .sized),
  ("DATETIME", "DATETIME", .sized), ("STRING", "STRING", .sized),
  ("TINYINT", "TINYINT", .integer), ("INT2", "INT2", .integer),
  ("SMALLINT", "SMALLINT", .integer), ("MEDIUMINT", "MEDIUMINT", .integer),
  ("INT", "INT", .integer), ("INT4", "INT4", .integer), ("INT8", "INT8", .integer),
  ("INTEGER", "INTEGER", .integer), ("BIGINT", "BIGINT", .integer),
  ("VARCHAR", "VARCHAR", .text), ("NVARCHAR", "NVARCHAR", .text),
  ("VARBINARY", "VARBINARY", .text), ("NUMERIC", "NUMERIC", .exact),
  ("DECIMAL", "DECIMAL", .exact), ("DEC", "DEC", .exact), ("BIGNUMERIC", "BIGNUMERIC", .exact),
  ("BIGDECIMAL", "BIGDECIMAL", .exact)]

def size : Parser String := do
  if ← takeSymbol "(" then
    let n ← count
    symbol ")"
    return "(" ++ n ++ ")"
  else return ""

def sizes (separator : String) : Parser String := do
  if ← takeSymbol "(" then
    let n ← count
    let m ← if ← takeSymbol "," then pure (separator ++ (← count)) else pure ""
    symbol ")"
    return "(" ++ n ++ m ++ ")"
  else return ""

def textLength : Parser String := do
  if ← takeSymbol "(" then
    let n ← if ← takeKeyword "MAX" then pure "MAX" else do
      let n ← count
      match ← takeAny ["CHARACTERS", "OCTETS"] with
      | some unit => pure (n ++ " " ++ unit)
      | none => pure n
    symbol ")"
    return "(" ++ n ++ ")"
  else return ""

def TypeShape.rest : TypeShape → Parser String
  | .plain => return ""
  | .sized => size
  | .integer => do
    let n ← size
    return n ++ if ← takeKeyword "UNSIGNED" then " UNSIGNED" else ""
  | .text => textLength
  | .exact => sizes ","

/-- What a time says about its zone. -/
def zone : Parser String := do
  if ← takeKeyword "WITH" then
    keywords ["TIME", "ZONE"]
    return " WITH TIME ZONE"
  else if ← takeKeyword "WITHOUT" then
    keywords ["TIME", "ZONE"]
    return " WITHOUT TIME ZONE"
  else return ""

def characters (name : String) : Parser String := do
  if ← takeKeyword "VARYING" then return name ++ " VARYING" ++ (← textLength)
  else if ← takeKeywords ["LARGE", "OBJECT"] then return name ++ " LARGE OBJECT" ++ (← size)
  else return name ++ (← textLength)

/-- What stands in parentheses after the name of an unknown type. -/
def modifiers : Parser (List String) := do
  if ← takeSymbol "(" then
    let ms ← many do
      match ← next with
      | .word i => return some (some i.render)
      | .literal (.number s _) => return some (some s)
      | .literal (.text s) => return some (some s)
      | .symbol "," => return some none
      | .symbol ")" => return none
      | _ => fail
    return ms.filterMap id
  else return []

inductive TypeKind
  | known
  | interval
  /-- A name that no data type is known by. -/
  | unknown
deriving DecidableEq

structure DataType where
  kind : TypeKind
  text : String

/-- The end of a list in angles. -/
def closeAngle : Parser Unit := do
  match ← next with
  | .symbol ">" => return ()
  | .symbol ">>" => putBack (.symbol ">")
  | _ => fail

/-- A data type by its name, where `element` reads the type of the elements of an array. -/
def baseType (element : Parser DataType) : Parser DataType := do
  match ← peek with
  | some (.word i) =>
    match namedTypes.lookup i.key with
    | some (shown, shape) =>
      let _ ← next
      return ⟨.known, shown ++ (← shape.rest)⟩
    | none =>
      match i.key with
      | "INTERVAL" => do
        let _ ← next
        return ⟨.interval, "INTERVAL"⟩
      | "DOUBLE" => do
        let _ ← next
        if ← takeKeyword "PRECISION" then return ⟨.known, "DOUBLE PRECISION"⟩
        else return ⟨.known, "DOUBLE" ++ (← sizes ",")⟩
      | "CHARACTER" | "CHAR" => do
        let _ ← next
        return ⟨.known, ← characters i.key⟩
      | "BIT" => do
        let _ ← next
        let varying ← takeKeyword "VARYING"
        return ⟨.known, "BIT" ++ (if varying then " VARYING" else "") ++ (← size)⟩
      | "TIMESTAMP" | "TIME" => do
        let _ ← next
        let n ← size
        return ⟨.known, i.key ++ n ++ (← zone)⟩
      | "TIMESTAMPTZ" | "TIMETZ" => do
        let _ ← next
        return ⟨.known, i.key ++ (← size)⟩
      | "ARRAY" => do
        let _ ← next
        symbol "<"
        let t ← element
        closeAngle
        return ⟨.known, "ARRAY<" ++ t.text ++ ">"⟩
      | _ => do
        let name ← objectText
        match ← modifiers with
        | [] => return ⟨.unknown, name⟩
        | ms => return ⟨.unknown, name ++ "(" ++ commas ms ++ ")"⟩
  | _ => fail

def brackets : Parser (Option String) := do
  if ← takeSymbol "[" then
    let n ← attempt count
    symbol "]"
    return some ("[" ++ n.getD "" ++ "]")
  else return none

def dataTypeUpTo : Nat → Parser DataType
  | 0 => fail
  | n + 1 => do
    let t ← baseType (dataTypeUpTo n)
    match ← many brackets with
    | [] => return t
    | bs => return ⟨.known, t.text ++ String.join bs⟩

/-- A data type. Every array takes a token, so the number of tokens bounds their depth. -/
def dataType : Parser DataType := do dataTypeUpTo ((← get).length + 1)

end LedgerQuery.Sql.Parser
