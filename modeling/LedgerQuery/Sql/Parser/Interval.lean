import LedgerQuery.Sql.Parser.Rules

/-!
# Spans of time
-/

namespace LedgerQuery.Sql.Parser

/-- The units that a span of time is given in. -/
def units : List String := [
  "YEAR", "YEARS", "MONTH", "MONTHS", "WEEK", "WEEKS", "DAY", "DAYS", "HOUR", "HOURS", "MINUTE",
  "MINUTES", "SECOND", "SECONDS", "CENTURY", "DECADE", "DOW", "DOY", "EPOCH", "ISODOW", "ISOYEAR",
  "JULIAN", "MICROSECOND", "MICROSECONDS", "MILLENIUM", "MILLENNIUM", "MILLISECOND",
  "MILLISECONDS", "NANOSECOND", "NANOSECONDS", "QUARTER", "TIMEZONE", "TIMEZONE_HOUR",
  "TIMEZONE_MINUTE"]

def timeParts : List String := [
  "DAYOFWEEK", "DAYOFYEAR", "DATE", "DATETIME", "ISOWEEK", "TIME", "TIMEZONE_ABBR",
  "TIMEZONE_REGION"]

/-- A part of a time. A name that is none counts as one. -/
def timePart : Parser String := do
  match ← peek with
  | some (.word i) =>
    let _ ← next
    if i.key == "WEEK" then
      if ← takeSymbol "(" then
        let day ← ident
        symbol ")"
        return "WEEK(" ++ day.render ++ ")"
      else return "WEEK"
    else if units.contains i.key || timeParts.contains i.key then return i.key
    else return i.render
  | some (.literal (.text _)) => return (← ident).render
  | _ => fail

/-- A text after a space, unless it is empty. -/
def spaced (s : String) : String := if s.isEmpty then "" else " " ++ s

def interval (r : Rules) : Parser Expr := do
  let value ← r.atom
  let first ← if ← atAny units then do pure (some (← timePart)) else pure none
  let rest ←
    if first == some "SECOND" then pure (spaced (← sizes ", "))
    else do
      let n ← size
      match ← after "TO" timePart with
      | none => pure (spaced n)
      | some last =>
        let m ← if last == "SECOND" then size else pure ""
        pure (spaced n ++ " TO " ++ last ++ spaced m)
  return .other ("INTERVAL " ++ value.render ++ Frame.suffix " " first "" ++ rest)

end LedgerQuery.Sql.Parser
