import LedgerQuery.Proofs.Tokens
import LedgerQuery.Sql.Planner

/-!
# Selections of the records of a block

A select list whose text and whose tokens end where a blank and `FROM` follow (`SelectList`) can be
read apart from what follows them.  Before a comparison of the number of a block with a literal it
is read as the selection of its entries, whatever the literal is (`statements?_query`).
-/

namespace LedgerQuery.Sql

open Lexer

/-! ## Texts -/

def bareWord (s : String) : Token := .word ⟨s, none⟩

/-- Letters and digits before a blank are a word. -/
theorem steps_bareWord {s : String} {c : Char} {cs : List Char} (hs : s.toList = c :: cs)
    (hc : isWordStart c = true) (hp : (c :: cs).all isWordPart = true) (w : Bool)
    (rest : List Char) :
    steps 2 w (s.toList ++ ' ' :: rest) = some ([bareWord s], false, rest) := by
  have word : steps 1 w (s.toList ++ ' ' :: rest) = some ([bareWord s], true, ' ' :: rest) := by
    rw [hs, steps, step_of_spells (.bare hc hp) (by decide), ← hs, String.ofList_toList]
    rfl
  exact steps_append word (steps_blank _ _)

/-- A select list by its text: a blank after it ends its last token, and `FROM` its last entry. -/
structure SelectList where
  text : String
  first : Token
  others : List Token
  entries : List Entry
  /-- How many steps split the text. -/
  count : Nat
  afterWord : Bool
  start : first.key ∉ ["ALL", "DISTINCT", "TOP", "FROM"]
  short : count ≤ text.toList.length
  split : ∀ rest, steps count false (text.toList ++ ' ' :: rest) =
    some (first :: others, afterWord, ' ' :: rest)
  read : ∀ rest, Parser.list (Parser.entry (Parser.rules (Parser.depth - 2)))
    (first :: (others ++ bareWord "FROM" :: rest)) = .ok (entries, bareWord "FROM" :: rest)

namespace SelectList

variable (l : SelectList) (t : Table) {literal : List Char} {v : Literal}

/-- The list, read from a table where the number of the block is a literal. -/
def query (literal : List Char) : String :=
  "SELECT " ++ l.text ++ " FROM " ++ t.name ++ " WHERE blocknumber = " ++ .ofList literal

def source (v : Literal) : List Token :=
  [bareWord "FROM", bareWord t.name, bareWord "WHERE", bareWord "blocknumber", .symbol "=",
    .literal v]

def tokens (v : Literal) : List Token :=
  bareWord "SELECT" :: l.first :: (l.others ++ source t v)

def selection (v : Literal) : Select where
  distinct := none
  top := none
  entries := l.entries
  into := none
  tables := [⟨⟨.table [⟨t.name, none⟩], "", none, ""⟩, []⟩]
  prewhere := none
  condition := some (.binary .eq (.name [] ⟨"blocknumber", none⟩) (.literal v))
  groupBy := .exprs [] []
  clusterBy := []
  distributeBy := []
  sortBy := []
  having := none
  windows := []
  qualify := none
  windowsFirst := false

/-- The characters of a query, the select list and the number left open. -/
theorem toList_query : (l.query t literal).toList =
    "SELECT".toList ++ ' ' :: (l.text.toList ++ ' ' :: ("FROM".toList ++ ' ' ::
      (t.name.toList ++ ' ' :: ("WHERE".toList ++ ' ' :: ("blocknumber".toList ++ ' ' ::
        '=' :: ' ' :: literal))))) := by
  simp only [query, String.toList_append, String.toList_ofList, List.append_assoc]
  rfl

/-- The text is split into the tokens of the list, between others that do not depend on it. -/
theorem lex_query (hv : step false literal = some (some (.literal v), [])) (hne : literal ≠ []) :
    lex (l.query t literal) = some (l.tokens t v) := by
  have select (rest) : steps 2 false ("SELECT".toList ++ ' ' :: rest) =
      some ([bareWord "SELECT"], false, rest) :=
    steps_bareWord rfl rfl rfl _ _
  have source (rest) : steps 2 false ("FROM".toList ++ ' ' :: rest) =
      some ([bareWord "FROM"], false, rest) :=
    steps_bareWord rfl rfl rfl _ _
  have table (rest) : steps 2 false (t.name.toList ++ ' ' :: rest) =
      some ([bareWord t.name], false, rest) := by
    cases t <;> exact steps_bareWord rfl rfl rfl _ _
  have condition (rest) : steps 2 false ("WHERE".toList ++ ' ' :: rest) =
      some ([bareWord "WHERE"], false, rest) :=
    steps_bareWord rfl rfl rfl _ _
  have column (rest) : steps 2 false ("blocknumber".toList ++ ' ' :: rest) =
      some ([bareWord "blocknumber"], false, rest) :=
    steps_bareWord rfl rfl rfl _ _
  have symbol (rest) : steps 1 false ('=' :: ' ' :: rest) =
      some ([.symbol "="], false, ' ' :: rest) := rfl
  have equals (rest) : steps 2 false ('=' :: ' ' :: rest) = some ([.symbol "="], false, rest) :=
    steps_append (symbol rest) (steps_blank _ _)
  have value : steps 1 false literal = some ([.literal v], false, []) := by
    rw [steps, hv]
    rfl
  refine lex_of_steps (n := 2 + (l.count + (1 + (2 + (2 + (2 + (2 + (2 + 1))))))))
    (w := false) ?_ ?_
  · rw [toList_query]
    exact steps_append (select _) (steps_append (l.split _) (steps_append (steps_blank _ _)
      (steps_append (source _) (steps_append (table _) (steps_append (condition _)
        (steps_append (column _) (steps_append (equals _) value)))))))
  · have words : "SELECT".toList.length = 6 ∧ "FROM".toList.length = 4 ∧
        "WHERE".toList.length = 5 ∧ "blocknumber".toList.length = 11 := ⟨rfl, rfl, rfl, rfl⟩
    have list := l.short
    have literal := List.length_pos_iff.2 hne
    rw [toList_query]
    simp only [List.length_append, List.length_cons]
    omega

end SelectList

namespace Parser

variable {α β : Type} {ts rest : List Token}

/-- After a parser that succeeds, its continuation is run on the rest. -/
theorem bind_of_ok {p : Parser α} {a : α} (h : p ts = .ok (a, rest)) (f : α → Parser β) :
    (p >>= f) ts = f a rest := by
  show (p ts >>= fun x ↦ f x.1 x.2) = _
  rw [h]
  rfl

theorem get_eq (ts : List Token) : (get : Parser (List Token)) ts = .ok (ts, ts) := rfl

theorem takeKeyword_of_ne {k : String} {t : Token} (h : t.key ≠ k) :
    takeKeyword k (t :: ts) = .ok (false, t :: ts) := by
  have hk : ([t.key] == [k]) = false := by simpa using h
  show (if ([t.key] == [k]) = true then _ else _ : Parser Bool) (t :: ts) = _
  rw [hk]
  rfl

theorem atKeyword_of_ne {k : String} {t : Token} (h : t.key ≠ k) :
    atKeyword k (t :: ts) = .ok (false, t :: ts) := by
  show Except.ok (t.key == k, t :: ts) = _
  rw [beq_eq_false_iff_ne.2 h]

theorem after_of_ne {k : String} {t : Token} (h : t.key ≠ k) (p : Parser α) :
    after k p (t :: ts) = .ok (none, t :: ts) := by
  rw [after, bind_of_ok (takeKeyword_of_ne h)]
  rfl

theorem distinct_of_ne (r : Rules) {t : Token} (ha : t.key ≠ "ALL") (hd : t.key ≠ "DISTINCT") :
    distinct r (t :: ts) = .ok (none, t :: ts) := by
  rw [distinct, bind_of_ok (takeKeyword_of_ne ha), bind_of_ok (takeKeyword_of_ne hd)]
  rfl

variable (l : SelectList) (t : Table) {v : Literal}

open SelectList (source)

set_option maxRecDepth 10000 in
/-- The query is parsed as a selection from its table by number. -/
theorem select_query (v : Literal) :
    select (rules (depth - 2)) (l.tokens t v) = .ok (l.selection t v, []) := by
  have start := l.start
  simp only [List.mem_cons, List.not_mem_nil, or_false, not_or] at start
  obtain ⟨hall, hdistinct, htop, hfrom⟩ := start
  have hselect : keyword "SELECT" (l.tokens t v) = .ok ((), l.first :: (l.others ++ source t v)) :=
    rfl
  have hread : list (entry (rules (depth - 2))) (l.first :: (l.others ++ source t v)) =
      .ok (l.entries, source t v) := l.read _
  rw [select, bind_of_ok hselect, bind_of_ok (distinct_of_ne _ hall hdistinct),
    bind_of_ok (after_of_ne htop _), bind_of_ok (atKeyword_of_ne hfrom)]
  dsimp only
  rw [if_neg Bool.false_ne_true, bind_of_ok hread]
  cases t <;> rfl

set_option maxRecDepth 10000 in
theorem query_query (v : Literal) :
    query (rules (depth - 2)) (l.tokens t v) =
      .ok (.ofBody (.select (l.selection t v)), []) := by
  have hnamed : after "WITH" (namedQueries (rules (depth - 2))) (l.tokens t v) =
      .ok (none, l.tokens t v) :=
    after_of_ne (by decide) _
  have hat : atKeyword "SELECT" (l.tokens t v) = .ok (true, l.tokens t v) := rfl
  have hsimple : simpleBody (rules (depth - 2)) (l.tokens t v) =
      .ok (.select (l.selection t v), []) := by
    rw [simpleBody, bind_of_ok hat, if_pos rfl, bind_of_ok (select_query l t v)]
    rfl
  have hbody : body (rules (depth - 2)) (l.tokens t v) = .ok (.select (l.selection t v), []) := by
    have hintersections : intersections (rules (depth - 2)) (l.tokens t v) =
        .ok (.select (l.selection t v), []) := by
      rw [intersections, bind_of_ok hsimple]
      rfl
    rw [body, bind_of_ok hintersections]
    rfl
  rw [query, bind_of_ok hnamed, bind_of_ok hbody]
  rfl

/-- The query is parsed as one statement. -/
theorem statement_query (v : Literal) :
    statement (rules (depth - 1)) (l.tokens t v) =
      .ok (.query (.ofBody (.select (l.selection t v))), []) := by
  have htake : takeAny ["EXPLAIN", "DESCRIBE", "DESC", "PREPARE"] (l.tokens t v) =
      .ok (none, l.tokens t v) := rfl
  have hat : (do return (← atAny ["SELECT", "WITH", "VALUES"]) || (← atSymbol "(") : Parser Bool)
      (l.tokens t v) = .ok (true, l.tokens t v) := rfl
  have hquery : (rules (depth - 1)).query (l.tokens t v) =
      .ok (.ofBody (.select (l.selection t v)), []) := query_query l t v
  rw [statement, bind_of_ok htake]
  dsimp only
  rw [plainStatement, bind_of_ok hat, if_pos rfl, bind_of_ok hquery]
  rfl

/-- The text of the query is one statement. -/
theorem statements?_query {literal : List Char}
    (hv : step false literal = some (some (.literal v), [])) (hne : literal ≠ []) :
    statements? (l.query t literal) = some [.query (.ofBody (.select (l.selection t v)))] := by
  have hparsed : ∀ n, statements (rules (depth - 1)) (n + 2) true (l.tokens t v) =
      .ok ([.query (.ofBody (.select (l.selection t v)))], []) := by
    intro n
    rw [statements, bind_of_ok (get_eq _)]
    show (statement (rules (depth - 1)) >>= _) _ = _
    rw [bind_of_ok (statement_query l t v)]
    rfl
  have hlength : (l.tokens t v).length + 1 = (l.others ++ source t v).length + 1 + 2 := rfl
  rw [statements?, l.lex_query t hv hne, Option.bind_eq_bind, Option.bind_some, hlength, hparsed]

end Parser

end LedgerQuery.Sql
