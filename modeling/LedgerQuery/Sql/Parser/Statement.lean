import LedgerQuery.Sql.Lexer
import LedgerQuery.Sql.Parser.Change
import LedgerQuery.Sql.Parser.Definition
import LedgerQuery.Sql.Parser.Session

/-!
# Statements

A text holds statements with semicolons between them. A statement that is no query keeps only its
text.
-/

namespace LedgerQuery.Sql

namespace Parser

/-- How deeply forms can be nested in a text. -/
def depth : Nat := 50

/-- All words up to the end of a statement. -/
def words : Parser (List String) := do
  let ts := (← get).takeWhile fun t => t != .symbol ";" && t != .symbol "="
  modify (·.drop ts.length)
  return ts.filterMap fun
    | .word i => some i.render
    | _ => none

/-- A statement that holds no other. -/
def plainStatement (r : Rules) : Parser Statement := do
  if ← (do return (← atAny ["SELECT", "WITH", "VALUES"]) || (← atSymbol "(")) then
    return .query (← r.query)
  else
    let other (p : Parser String) : Parser Statement := return .other (← p)
    match (← next).key with
    | "INSERT" => other (insert r "INSERT")
    | "REPLACE" => other (insert r "REPLACE")
    | "DELETE" => other (delete r)
    | "UPDATE" => other (update r)
    | "CREATE" => other (create r)
    | "DROP" => other drop
    | "TRUNCATE" => other truncate
    | "ALTER" => other (alter r)
    | "SHOW" => return .other (" ".intercalate ("SHOW" :: (← words)))
    | "SET" => other (setVariable r)
    | "USE" => return .other ("USE " ++ (← objectText))
    | "RENAME" => other rename
    | "MERGE" => other (merge r)
    | "COPY" => other copy
    | "CALL" => other (callStatement r)
    | "EXECUTE" => other (execute r)
    | "DEALLOCATE" => other deallocate
    | "DECLARE" => other (declareCursor r)
    | "FETCH" => other fetchCursor
    | "CLOSE" => other closeCursor
    | "PRAGMA" => other pragma
    | "DISCARD" => other discard
    | "KILL" => other kill
    | "GRANT" => other grant
    | "REVOKE" => other revoke
    | "COMMENT" => other comment
    | "ASSERT" => other (assertion r)
    | "ANALYZE" => other analyze
    | "RELEASE" => other release
    | "SAVEPOINT" => return .other ("SAVEPOINT " ++ (← ident).render)
    | "START" => other (transaction "START")
    | "BEGIN" => other (transaction "BEGIN")
    | "COMMIT" => other (transaction "COMMIT")
    | "ROLLBACK" => other (transaction "ROLLBACK")
    | _ => fail

/-- A statement that explains another, or a table. -/
def explanation (r : Rules) (k : String) : Parser Statement := do
  let analyze ← takeKeyword "ANALYZE"
  let verbose ← takeKeyword "VERBOSE"
  let start := k ++ flag "ANALYZE" analyze ++ flag "VERBOSE" verbose ++ " "
  match ← attempt (plainStatement r) with
  | some s => return .other (start ++ s.render)
  | none => return .other (k ++ " " ++ (← objectText))

def statement (r : Rules) : Parser Statement := do
  match ← takeAny ["EXPLAIN", "DESCRIBE", "DESC", "PREPARE"] with
  | some "PREPARE" => return .other (← prepare do return (← plainStatement r).render)
  | some k => explanation r k
  | none => plainStatement r

/-- The statements of a text. A semicolon must end a statement before another one starts, and the
word `END` after a statement ends the text. -/
def statements (r : Rules) : Nat → Bool → Parser (List Statement)
  | 0, _ => return []
  | fuel + 1, fresh => do
    match ← get with
    | [] => return []
    | .symbol ";" :: ts =>
      set ts
      statements r fuel true
    | t :: _ =>
      if fresh then
        let s ← statement r
        return s :: (← statements r fuel false)
      else if t.key == "END" then return []
      else fail

end Parser

/-- The statements of a text, if it can be read. -/
def statements? (s : String) : Option (List Statement) := do
  let ts ← lex s
  match Parser.statements (Parser.rules (Parser.depth - 1)) (ts.length + 1) true ts with
  | .ok (statements, _) => some statements
  | .error _ => none

end LedgerQuery.Sql
