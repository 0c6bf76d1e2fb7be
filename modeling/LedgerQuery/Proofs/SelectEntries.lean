import LedgerQuery.Proofs.Meaning
import LedgerQuery.Proofs.SelectList

/-!
# Entries of select lists

Entries with commas between them are a select list (`SelectList.ofEntries`).  An entry ends, by its
text as by its tokens, where a comma follows, or the end of the list: `*` does, and so do columns
and calls, with an alias or without one (`SelectEntry.plain`, `SelectEntry.named`).  An identifier
is read as a name unless it is a word that starts another form (`starOr_name`).
-/

namespace LedgerQuery.Sql

open Lexer
open Query (SelectItem Selected)

/-! ## Names -/

/-- The words that start more than a name, or come before the entries or the arguments. -/
def startWords : List String :=
  ["ALL", "DISTINCT", "TOP", "FROM", "ABSENT", "INTERVAL", "DOUBLE", "CHARACTER", "CHAR", "BIT",
    "TIMESTAMP", "TIME", "TIMESTAMPTZ", "TIMETZ", "ARRAY", "TRUE", "FALSE", "NULL",
    "CURRENT_CATALOG", "CURRENT_USER", "SESSION_USER", "USER", "CURRENT_TIMESTAMP", "CURRENT_TIME",
    "CURRENT_DATE", "LOCALTIME", "LOCALTIMESTAMP", "CASE", "CONVERT", "TRY_CONVERT", "CAST",
    "TRY_CAST", "SAFE_CAST", "EXISTS", "EXTRACT", "CEIL", "FLOOR", "POSITION", "SUBSTR",
    "SUBSTRING", "OVERLAY", "TRIM", "NOT", "MATCH", "STRUCT"] ++ Parser.namedTypes.map Prod.fst

/-- An identifier that is nothing but a name. Between quotes any is. -/
structure Ident.IsName (i : Ident) : Prop where
  key : i.key ∉ startWords
  bare : i.quote = none → Text.lower i.value ≠ "from"

theorem Ident.IsName.of_quote {i : Ident} (h : i.quote.isSome) : i.IsName := by
  obtain ⟨value, _ | q⟩ := i
  · cases h
  · have key : "" ∉ startWords := by decide +kernel
    exact ⟨key, fun h ↦ nomatch h⟩

/-- A name is none of the keywords by which a start of an expression is told. -/
theorem Ident.IsName.key_ne {i : Ident} (h : i.IsName) {k : String} (hk : k ∈ startWords) :
    i.key ≠ k := fun hi ↦ h.key (hi ▸ hk)

/-- What may stand after an operand in a select list or among arguments. -/
inductive EndsOperand : Token → Prop
  | comma : EndsOperand (.symbol ",")
  | source : EndsOperand (bareWord "FROM")
  | label : EndsOperand (bareWord "AS")
  | close : EndsOperand (.symbol ")")

/-- What may stand after an entry of a select list. -/
inductive EndsEntry : Token → Prop
  | comma : EndsEntry (.symbol ",")
  | source : EndsEntry (bareWord "FROM")

/-- What ends an entry of a select list ends an operand. -/
theorem EndsEntry.endsOperand {t : Token} (h : EndsEntry t) : EndsOperand t := by
  cases h with
  | comma => exact .comma
  | source => exact .source

/-- What may stand after a name: nothing that belongs to it, or one argument. -/
inductive AfterName : List Token → Prop
  | nothing {t : Token} {rest : List Token} (ends : EndsOperand t) : AfterName (t :: rest)
  | star {t : Token} {rest : List Token} (ends : EndsOperand t) :
      AfterName (.symbol "(" :: .symbol "*" :: .symbol ")" :: t :: rest)
  | argument {t : Token} {rest : List Token} (i : Ident) (ends : EndsOperand t) :
      AfterName (.symbol "(" :: .word i :: .symbol ")" :: t :: rest)

namespace Parser

variable {i : Ident} {t : Token} {ts rest : List Token}

/-- Parsers that agree on two inputs still agree when the same parser follows. -/
theorem bind_congr {α β : Type} {p q : Parser α} (h : p ts = q rest) (f : α → Parser β) :
    (p >>= f) ts = (q >>= f) rest := by
  show (p ts >>= fun x ↦ f x.1 x.2) = (q rest >>= fun x ↦ f x.1 x.2)
  rw [h]

/-- Keywords are not taken where another token stands. -/
theorem takeKeywords_of_ne {k : String} {ks : List String} (h : t.key ≠ k) :
    takeKeywords (k :: ks) (t :: ts) = .ok (false, t :: ts) := by
  have hk : (((t :: ts).take (k :: ks).length).map Token.key == k :: ks) = false :=
    beq_eq_false_iff_ne.2 fun he ↦ h (List.cons_eq_cons.1 he).1
  rw [takeKeywords, bind_of_ok (get_eq _), hk, if_neg Bool.false_ne_true]
  rfl

/-- A name starts no form that has a keyword of its own. -/
theorem form_name (r : Rules) (hi : i.IsName) : form r i = pure none := by
  have hk := hi.key
  unfold form
  dsimp only
  generalize i.key = k at hk
  split
  case h_33 => rfl
  all_goals exact absurd (by simp [startWords]) hk

/-- A name is taken for that of a data type which is not known. -/
theorem baseType_name (element : Parser DataType) (hi : i.IsName) (hts : AfterName ts) :
    ∃ f : List String → String, baseType element (.word i :: ts) =
      (modifiers >>= fun ms ↦ return ⟨.unknown, f ms⟩) ts := by
  refine ⟨fun ms ↦ if ms.isEmpty then renderName [i] else renderName [i] ++ "(" ++ commas ms ++ ")",
    ?_⟩
  have hk := hi.key
  have hlookup : namedTypes.lookup i.key = none :=
    List.lookup_eq_none_iff.2 fun p hp ↦ bne_iff_ne.2 fun h ↦
      hk (List.mem_append_right _ (List.mem_map.2 ⟨p, hp, h.symm⟩))
  have hpeek : peek (.word i :: ts) = .ok (some (.word i), .word i :: ts) := rfl
  rw [baseType, bind_of_ok hpeek]
  dsimp only
  rw [hlookup]
  dsimp only
  generalize i.key = k at hk
  split
  case h_11 =>
    cases hts with
    | nothing ends => cases ends <;> rfl
    | star ends => rfl
    | argument c ends => cases ends <;> rfl
  all_goals exact absurd (by simp [startWords]) hk

/-- A name starts no value of a data type. -/
theorem typedValue_name (r : Rules) (hi : i.IsName) (hts : AfterName ts) :
    typedValue r (.word i :: ts) = .error .mismatch := by
  have htype : dataType (.word i :: ts) = .error .mismatch ∨
      ∃ text rest, dataType (.word i :: ts) = .ok (⟨.unknown, text⟩, rest) := by
    obtain ⟨f, hf⟩ := baseType_name (dataTypeUpTo (.word i :: ts).length) hi hts
    rw [dataType, bind_of_ok (get_eq _), dataTypeUpTo, bind_congr hf]
    cases hts with
    | nothing ends => cases ends <;> exact .inr ⟨f [], _, rfl⟩
    | star ends => exact .inl rfl
    | argument c ends => cases ends <;> exact .inr ⟨f [c.render], _, rfl⟩
  rw [typedValue]
  rcases htype with h | ⟨text, rest, h⟩
  · show (dataType (.word i :: ts) >>= _) = _
    rw [h]
    rfl
  · rw [bind_of_ok h]
    rfl

/-- What an expression is that starts with a name. -/
theorem atom_name (r : Rules) (hi : i.IsName) (hts : AfterName ts) :
    atom r (.word i :: ts) = (word r i >>= collated) ts := by
  have htyped : attempt (typedValue r) (.word i :: ts) = .ok (none, .word i :: ts) := by
    rw [attempt, typedValue_name r hi hts]
  have hform : wordOrForm r i ts = (word r i >>= collated) ts := by
    rw [wordOrForm, form_name r hi]
    rfl
  rw [atom, bind_of_ok htyped]
  exact hform

/-- An operand is its first word, if nothing that binds follows. -/
theorem operand_of_word (r : Rules) {e : Expr} (hi : i.IsName) (hts : AfterName ts)
    (ht : EndsOperand t) (he : word r i ts = .ok (e, t :: rest)) :
    operand r 0 (.word i :: ts) = .ok (e, t :: rest) := by
  have hcollated : collated e (t :: rest) = .ok (e, t :: rest) := by
    cases ht <;> rfl
  have hatom : atom r (.word i :: ts) = .ok (e, t :: rest) := by
    rw [atom_name r hi hts, bind_of_ok he, hcollated]
  rw [operand, bind_of_ok hatom]
  cases ht <;> rfl

/-- An operand in a select list or among arguments that starts with a name. -/
theorem starOr_of_word (n : Nat) {e : Expr} (hi : i.IsName) (hts : AfterName ts)
    (ht : EndsOperand t) (he : word (rules n) i ts = .ok (e, t :: rest)) :
    starOr (rules (n + 1)) (.word i :: ts) = .ok (.expr e, t :: rest) := by
  have hqualifier : attempt starQualifier (.word i :: ts) = .ok (none, .word i :: ts) := by
    cases hts with
    | nothing ends => cases ends <;> rfl
    | star ends => rfl
    | argument c ends => rfl
  have hstar : takeSymbol "*" (.word i :: ts) = .ok (false, .word i :: ts) := rfl
  have hnames : checkNames (.word i :: ts) = .ok ((), .word i :: ts) := by
    cases hts with
    | nothing ends => cases ends <;> rfl
    | star ends => rfl
    | argument c ends => rfl
  have hexpr : (rules (n + 1)).expr (.word i :: ts) = .ok (e, t :: rest) :=
    operand_of_word _ hi hts ht he
  rw [starOr, bind_of_ok hqualifier]
  dsimp only
  rw [bind_of_ok hstar, if_neg Bool.false_ne_true, bind_of_ok hnames, bind_of_ok hexpr]
  rfl

/-- A name that nothing follows is an entry by itself. -/
theorem starOr_name (n : Nat) (hi : i.IsName) (ht : EndsOperand t) :
    starOr (rules (n + 1)) (.word i :: t :: rest) = .ok (.expr (.name [] i), t :: rest) := by
  have hword : word (rules n) i (t :: rest) = .ok (.name [] i, t :: rest) := by
    cases ht <;> rfl
  exact starOr_of_word n hi (.nothing ht) ht hword

/-- A call of the star is an entry by itself. -/
theorem starOr_callStar (n : Nat) (hi : i.IsName) (ht : EndsOperand t) :
    starOr (rules (n + 1)) (.word i :: .symbol "(" :: .symbol "*" :: .symbol ")" :: t :: rest) =
      .ok (.expr (.callStar (.ofName [i])), t :: rest) := by
  have hword : word (rules n) i (.symbol "(" :: .symbol "*" :: .symbol ")" :: t :: rest) =
      .ok (.callStar (.ofName [i]), t :: rest) := by
    cases ht <;> rfl
  exact starOr_of_word n hi (.star ht) ht hword

/-- The arguments of a call may be one name. -/
theorem argumentList_name (n : Nat) {c : Ident} (hc : c.IsName) :
    argumentList (rules (n + 1)) (.word c :: .symbol ")" :: rest) =
      .ok (⟨none, [.expr (.name [] c)], []⟩, rest) := by
  have absent : (Token.word c).key ≠ "ABSENT" := hc.key_ne (by simp [startWords])
  have null : (Token.word c).key ≠ "NULL" := hc.key_ne (by simp [startWords])
  have all : (Token.word c).key ≠ "ALL" := hc.key_ne (by simp [startWords])
  have distinct : (Token.word c).key ≠ "DISTINCT" := hc.key_ne (by simp [startWords])
  have hnulls : documentNulls (.word c :: .symbol ")" :: rest) =
      .ok (none, .word c :: .symbol ")" :: rest) := by
    rw [documentNulls, bind_of_ok (takeKeywords_of_ne absent), if_neg Bool.false_ne_true,
      bind_of_ok (takeKeywords_of_ne null)]
    rfl
  have hclose : takeSymbol ")" (.word c :: .symbol ")" :: rest) =
      .ok (false, .word c :: .symbol ")" :: rest) := rfl
  have hduplicates : duplicates (.word c :: .symbol ")" :: rest) =
      .ok (none, .word c :: .symbol ")" :: rest) := by
    rw [duplicates, bind_of_ok (takeKeyword_of_ne all), if_neg Bool.false_ne_true,
      bind_of_ok (takeKeyword_of_ne distinct)]
    rfl
  have hargument : argument (rules (n + 1)) (.word c :: .symbol ")" :: rest) =
      .ok (.expr (.name [] c), .symbol ")" :: rest) := by
    have hnamed : attempt (namedArgument (rules (n + 1))) (.word c :: .symbol ")" :: rest) =
        .ok (none, .word c :: .symbol ")" :: rest) := rfl
    rw [argument, bind_of_ok hnamed]
    dsimp only
    rw [plainArgument, bind_of_ok (starOr_name n hc .close)]
    rfl
  have harguments : list (argument (rules (n + 1))) (.word c :: .symbol ")" :: rest) =
      .ok ([.expr (.name [] c)], .symbol ")" :: rest) := by
    rw [list, bind_of_ok hargument]
    rfl
  rw [argumentList, bind_of_ok hnulls, bind_of_ok hclose, if_neg Bool.false_ne_true,
    bind_of_ok hduplicates, bind_of_ok harguments]
  rfl

/-- A call of a function with one name is an entry by itself. -/
theorem starOr_call (n : Nat) (hi : i.IsName) {c : Ident} (hc : c.IsName) (ht : EndsOperand t) :
    starOr (rules (n + 2)) (.word i :: .symbol "(" :: .word c :: .symbol ")" :: t :: rest) =
      .ok (.expr (.call (.ofName [i]) (.name [] c)), t :: rest) := by
  have hcall : call (rules (n + 1)) [i] (.symbol "(" :: .word c :: .symbol ")" :: t :: rest) =
      .ok (.call (.ofName [i]) (.name [] c), t :: rest) := by
    have hopen : symbol "(" (.symbol "(" :: .word c :: .symbol ")" :: t :: rest) =
        .ok ((), .word c :: .symbol ")" :: t :: rest) := rfl
    rw [call, bind_of_ok hopen, bind_of_ok (argumentList_name n hc)]
    cases ht <;> rfl
  exact starOr_of_word (n + 1) hi (.argument c ht) ht hcall

/-- An operand with the alias that follows it, if one does. -/
theorem entry_of_starOr {r : Rules} {e : Expr} {ts' : List Token} {a : Option Ident}
    (he : starOr r ts = .ok (.expr e, ts'))
    (hb : ∀ value, e = .name [] ⟨value, none⟩ → Text.lower value ≠ "from")
    (ha : alias? notEntryAliases ts' = .ok (a, rest)) :
    entry r ts = .ok (a.elim (.plain e) (.named e), rest) := by
  rw [entry, bind_of_ok he]
  dsimp only
  split
  · rw [if_neg fun h ↦ hb _ rfl (beq_iff_eq.1 h)]
    show (alias? notEntryAliases >>= _) _ = _
    rw [bind_of_ok ha]
    cases a <;> rfl
  · show (alias? notEntryAliases >>= _) _ = _
    rw [bind_of_ok ha]
    cases a <;> rfl

end Parser

/-! ## Operands -/

/-- An operand by its text: a comma or a blank after it ends its last token, and what ends an
operand what is read from its tokens. -/
structure SelectOperand where
  text : List Char
  first : Token
  others : List Token
  expr : Expr
  /-- How many steps split the text. -/
  count : Nat
  afterWord : Bool
  start : first.key ∉ ["ALL", "DISTINCT", "TOP", "FROM"]
  bare : ∀ value, expr = .name [] ⟨value, none⟩ → Text.lower value ≠ "from"
  short : count ≤ text.length
  split : ∀ d ∈ [',', ' '], ∀ rest, steps count false (text ++ d :: rest) =
    some (first :: others, afterWord, d :: rest)
  read : ∀ t, EndsOperand t → ∀ rest, Parser.starOr (Parser.rules (Parser.depth - 2))
    (first :: (others ++ t :: rest)) = .ok (.expr expr, t :: rest)

namespace SelectOperand

variable {cs : List Char} {i : Ident}

theorem start_of_isName (h : i.IsName) : i.key ∉ ["ALL", "DISTINCT", "TOP", "FROM"] :=
  fun hm ↦ h.key (List.mem_append_left _ (List.mem_append_left _ hm))

/-- A spelled name is one token. -/
theorem steps_of_spells (h : Spells cs i) {d : Char} (hd : d ∈ [',', ' ', '(', ')']) (w : Bool)
    (rest : List Char) : steps 1 w (cs ++ d :: rest) = some ([.word i], true, d :: rest) := by
  rw [steps, step_of_spells h hd]
  rfl

theorem steps_open (w : Bool) (cs : List Char) :
    steps 1 w ('(' :: cs) = some ([.symbol "("], false, cs) := rfl

theorem steps_close (w : Bool) (cs : List Char) :
    steps 1 w (')' :: cs) = some ([.symbol ")"], false, cs) := rfl

def column (h : Spells cs i) (hi : i.IsName) : SelectOperand where
  text := cs
  first := .word i
  others := []
  expr := .name [] i
  count := 1
  afterWord := true
  start := start_of_isName hi
  bare := by
    rintro value ⟨⟩
    exact hi.bare rfl
  short := h.length_pos
  split := fun _ hd ↦ steps_of_spells h (List.mem_append_left _ hd) false
  read := fun _ ht _ ↦ Parser.starOr_name _ hi ht

def callStar (h : Spells cs i) (hi : i.IsName) : SelectOperand where
  text := cs ++ ['(', '*', ')']
  first := .word i
  others := [.symbol "(", .symbol "*", .symbol ")"]
  expr := .callStar (.ofName [i])
  count := 1 + (1 + (1 + 1))
  afterWord := false
  start := start_of_isName hi
  bare := fun _ h ↦ nomatch h
  short := by
    rw [List.length_append]
    exact Nat.add_le_add_right h.length_pos 3
  split := by
    intro d _ rest
    have star (cs) :
        steps 1 false ('*' :: ')' :: cs) = some ([.symbol "*"], false, ')' :: cs) := rfl
    rw [List.append_assoc]
    exact steps_append (steps_of_spells h (by decide) _ _) (steps_append (steps_open _ _)
      (steps_append (star _) (steps_close _ _)))
  read := fun _ ht _ ↦ Parser.starOr_callStar _ hi ht

def call {as : List Char} {c : Ident} (h : Spells cs i) (hi : i.IsName) (hs : Spells as c)
    (hc : c.IsName) : SelectOperand where
  text := cs ++ '(' :: (as ++ [')'])
  first := .word i
  others := [.symbol "(", .word c, .symbol ")"]
  expr := .call (.ofName [i]) (.name [] c)
  count := 1 + (1 + (1 + 1))
  afterWord := false
  start := start_of_isName hi
  bare := fun _ h ↦ nomatch h
  short := by
    have := h.length_pos
    have := hs.length_pos
    simp only [List.length_append, List.length_cons, List.length_nil]
    omega
  split := by
    intro d _ rest
    simp only [List.append_assoc, List.cons_append, List.nil_append]
    exact steps_append (steps_of_spells h (by decide) _ _) (steps_append (steps_open _ _)
      (steps_append (steps_of_spells hs (by decide) _ _) (steps_close _ _)))
  read := fun _ ht _ ↦ Parser.starOr_call _ hi hc ht

end SelectOperand

/-! ## Entries -/

/-- An entry by its text: a comma or a blank after it ends its last token, and a comma or `FROM`
what is read from its tokens. -/
structure SelectEntry where
  text : List Char
  first : Token
  others : List Token
  entry : Entry
  /-- How many steps split the text. -/
  count : Nat
  afterWord : Bool
  start : first.key ∉ ["ALL", "DISTINCT", "TOP", "FROM"]
  short : count ≤ text.length
  split : ∀ d ∈ [',', ' '], ∀ rest, steps count false (text ++ d :: rest) =
    some (first :: others, afterWord, d :: rest)
  read : ∀ t, EndsEntry t → ∀ rest, Parser.entry (Parser.rules (Parser.depth - 2))
    (first :: (others ++ t :: rest)) = .ok (entry, t :: rest)

namespace SelectEntry

set_option maxRecDepth 10000 in
def star : SelectEntry where
  text := ['*']
  first := .symbol "*"
  others := []
  entry := .star ""
  count := 1
  afterWord := false
  start := by decide
  short := by decide
  split := by
    intro d hd rest
    simp only [List.mem_cons, List.not_mem_nil, or_false] at hd
    rcases hd with rfl | rfl <;> rfl
  read := by
    intro t ht rest
    cases ht <;> rfl

def plain (x : SelectOperand) : SelectEntry where
  text := x.text
  first := x.first
  others := x.others
  entry := .plain x.expr
  count := x.count
  afterWord := x.afterWord
  start := x.start
  short := x.short
  split := x.split
  read := by
    intro t ht rest
    have label : Parser.alias? Parser.notEntryAliases (t :: rest) = .ok (none, t :: rest) := by
      cases ht <;> rfl
    exact Parser.entry_of_starOr (x.read t ht.endsOperand rest) x.bare label

def named {as : List Char} {a : Ident} (x : SelectOperand) (ha : Spells as a) : SelectEntry where
  text := x.text ++ ' ' :: ("AS".toList ++ ' ' :: as)
  first := x.first
  others := x.others ++ [bareWord "AS", .word a]
  entry := .named x.expr a
  count := x.count + (1 + (2 + 1))
  afterWord := true
  start := x.start
  short := by
    have := x.short
    have := ha.length_pos
    have keyword : "AS".toList.length = 2 := rfl
    simp only [List.length_append, List.length_cons]
    omega
  split := by
    intro d hd rest
    have keyword (rest) : steps 2 false ("AS".toList ++ ' ' :: rest) =
        some ([bareWord "AS"], false, rest) :=
      steps_bareWord rfl rfl rfl _ _
    have label := SelectOperand.steps_of_spells ha (List.mem_append_left ['(', ')'] hd) false rest
    simp only [List.append_assoc, List.cons_append]
    exact steps_append (x.split ' ' (by decide) _) (steps_append (steps_blank _ _)
      (steps_append (keyword _) label))
  read := by
    intro t _ rest
    have label : Parser.alias? Parser.notEntryAliases (bareWord "AS" :: .word a :: t :: rest) =
      .ok (some a, t :: rest) := rfl
    rw [List.append_assoc]
    exact Parser.entry_of_starOr (x.read _ .label _) x.bare label

/-! ## Lists of entries -/

/-- The text of entries with commas before them. -/
def moreText (es : List SelectEntry) : List Char := es.flatMap fun e ↦ ',' :: ' ' :: e.text

def moreTokens (es : List SelectEntry) : List Token :=
  es.flatMap fun e ↦ .symbol "," :: e.first :: e.others

def moreCount (es : List SelectEntry) : Nat := (es.map fun e ↦ 2 + e.count).sum

/-- The further entries take no more steps than they have characters. -/
theorem moreCount_le (es : List SelectEntry) : moreCount es ≤ (moreText es).length := by
  induction es with
  | nil => exact Nat.le_refl 0
  | cons e es ih =>
    have := e.short
    rw [moreCount, moreText] at ih ⊢
    simp only [List.map_cons, List.sum_cons, List.flatMap_cons, List.length_append,
      List.length_cons]
    omega

theorem length_le_moreTokens (es : List SelectEntry) : es.length ≤ (moreTokens es).length := by
  induction es with
  | nil => exact Nat.le_refl 0
  | cons e es ih =>
    rw [moreTokens] at ih ⊢
    simp only [List.flatMap_cons, List.length_append, List.length_cons]
    omega

/-- The text of a select list is read as the tokens of its entries. -/
theorem steps_entries (e : SelectEntry) (es : List SelectEntry) (rest : List Char) :
    steps (e.count + moreCount es) false (e.text ++ (moreText es ++ ' ' :: rest)) =
      some (e.first :: (e.others ++ moreTokens es), (es.getLast?.getD e).afterWord,
        ' ' :: rest) := by
  induction es generalizing e with
  | nil =>
    have last := e.split ' ' (by decide) rest
    rwa [← List.append_nil e.others] at last
  | cons e' es ih =>
    have comma (w : Bool) (rest : List Char) :
        steps 2 w (',' :: ' ' :: rest) = some ([.symbol ","], false, rest) := by
      have symbol : steps 1 w (',' :: ' ' :: rest) = some ([.symbol ","], false, ' ' :: rest) := rfl
      exact steps_append symbol (steps_blank _ _)
    have whole := steps_append (e.split ',' (by decide) _) (steps_append (comma _ _) (ih e'))
    have last : ((e' :: es).getLast?.getD e) = es.getLast?.getD e' := by
      rw [List.getLast?_cons]
      rfl
    have count : e.count + moreCount (e' :: es) = e.count + (2 + (e'.count + moreCount es)) := by
      simp only [moreCount, List.map_cons, List.sum_cons]
      omega
    have text : e.text ++ (moreText (e' :: es) ++ ' ' :: rest) =
        e.text ++ ',' :: ' ' :: (e'.text ++ (moreText es ++ ' ' :: rest)) := by
      simp only [moreText, List.flatMap_cons, List.append_assoc, List.cons_append]
    rw [count, text, whole, last]
    simp only [moreTokens, List.flatMap_cons, List.cons_append, List.nil_append]

end SelectEntry

namespace Parser

open SelectEntry (moreTokens)

variable (rest : List Token)

/-- An entry is parsed from its tokens, whether it has an alias or not. -/
theorem entry_of_selectEntry (e : SelectEntry) (es : List SelectEntry) :
    entry (rules (depth - 2))
        (e.first :: (e.others ++ (moreTokens es ++ bareWord "FROM" :: rest))) =
      .ok (e.entry, moreTokens es ++ bareWord "FROM" :: rest) := by
  cases es with
  | nil => exact e.read _ .source rest
  | cons e' es => exact e.read _ .comma _

/-- The further entries are parsed after their commas. -/
theorem listTail_entries (es : List SelectEntry) {n : Nat} (hn : es.length ≤ n) :
    listTail (entry (rules (depth - 2))) n (moreTokens es ++ bareWord "FROM" :: rest) =
      .ok (es.map SelectEntry.entry, bareWord "FROM" :: rest) := by
  induction es generalizing n with
  | nil => cases n <;> rfl
  | cons e es ih =>
    obtain ⟨n, rfl⟩ := Nat.exists_eq_add_of_le' (Nat.le_trans (Nat.succ_pos _) hn)
    have hcomma : takeSymbol "," (moreTokens (e :: es) ++ bareWord "FROM" :: rest) =
        .ok (true, e.first :: (e.others ++ (moreTokens es ++ bareWord "FROM" :: rest))) := by
      simp only [moreTokens, List.flatMap_cons, List.append_assoc, List.cons_append]
      rfl
    rw [listTail, bind_of_ok hcomma, if_pos rfl, bind_of_ok (entry_of_selectEntry rest e es),
      bind_of_ok (ih (Nat.le_of_succ_le_succ hn))]
    rfl

end Parser

/-- Entries with commas between them are a select list. -/
def SelectList.ofEntries (e : SelectEntry) (es : List SelectEntry) : SelectList where
  text := .ofList (e.text ++ SelectEntry.moreText es)
  first := e.first
  others := e.others ++ SelectEntry.moreTokens es
  entries := e.entry :: es.map SelectEntry.entry
  count := e.count + SelectEntry.moreCount es
  afterWord := (es.getLast?.getD e).afterWord
  start := e.start
  short := by
    rw [String.toList_ofList, List.length_append]
    exact Nat.add_le_add e.short (SelectEntry.moreCount_le es)
  split := by
    intro rest
    rw [String.toList_ofList, List.append_assoc]
    exact SelectEntry.steps_entries e es rest
  read := by
    intro rest
    have enough : es.length ≤ (SelectEntry.moreTokens es ++ bareWord "FROM" :: rest).length := by
      rw [List.length_append]
      exact Nat.le_add_right_of_le (SelectEntry.length_le_moreTokens es)
    rw [List.append_assoc, Parser.list, Parser.bind_of_ok (Parser.entry_of_selectEntry _ e es),
      Parser.bind_of_ok (Parser.get_eq _), Parser.bind_of_ok (Parser.listTail_entries _ es enough)]
    rfl

/-! ## Texts of select lists -/

/-- Entries of plans that can be spelled: names and aliases between quotes, functions without. -/
inductive Spellable : SelectItem → Prop
  | star : Spellable ⟨.star, none⟩
  | column {name : String} {label : Option String} (plain : '"' ∉ name.toList)
      (labels : ∀ a ∈ label, '"' ∉ a.toList) : Spellable ⟨.column name, label⟩
  | callStar {function : String} {label : Option String}
      (spells : Spells function.toList ⟨function, none⟩) (isName : Ident.IsName ⟨function, none⟩)
      (labels : ∀ a ∈ label, '"' ∉ a.toList) : Spellable ⟨.call ⟨function, .star⟩, label⟩
  | call {function name : String} {label : Option String}
      (spells : Spells function.toList ⟨function, none⟩) (isName : Ident.IsName ⟨function, none⟩)
      (plain : '"' ∉ name.toList) (labels : ∀ a ∈ label, '"' ∉ a.toList) :
      Spellable ⟨.call ⟨function, .column name⟩, label⟩

/-- A text is spelled without quotes if it is a word. -/
theorem spells_bare {s : String} {c : Char} {cs : List Char} (hs : s.toList = c :: cs)
    (start : isWordStart c = true) (parts : s.toList.all isWordPart = true) :
    Spells s.toList ⟨s, none⟩ := by
  rw [hs] at parts
  have spells := Spells.bare start parts
  rwa [← hs, String.ofList_toList] at spells

/-- Between quotes every text is spelled that has no quote in it. -/
theorem spells_quoted {s : String} (h : '"' ∉ s.toList) :
    Spells ('"' :: (s.toList ++ ['"'])) ⟨s, some '"'⟩ := by
  have spells := Spells.quoted h
  rwa [String.ofList_toList] at spells

/-- There is a spelling of a selected name or call, if its label can be quoted. -/
theorem SelectOperand.exists_entry (x : SelectOperand) {what : Selected} {label : Option String}
    (hx : x.expr.selected? = .ok what) (labels : ∀ a ∈ label, '"' ∉ a.toList) :
    ∃ e : SelectEntry, e.entry.item? = .ok ⟨what, label⟩ := by
  cases label with
  | none =>
    refine ⟨.plain x, ?_⟩
    show (x.expr.selected? >>= _) = _
    rw [hx]
    rfl
  | some a =>
    refine ⟨.named x (spells_quoted (labels a rfl)), ?_⟩
    show (x.expr.selected? >>= _) = _
    rw [hx]
    rfl

/-- There is a spelling of each entry of a select list that can be read at all. -/
theorem Spellable.exists_entry {item : SelectItem} (h : Spellable item) :
    ∃ e : SelectEntry, e.entry.item? = .ok item := by
  cases h with
  | star => exact ⟨.star, rfl⟩
  | column plain labels =>
    exact (SelectOperand.column (spells_quoted plain) (.of_quote rfl)).exists_entry rfl labels
  | callStar spells isName labels =>
    exact (SelectOperand.callStar spells isName).exists_entry rfl labels
  | call spells isName plain labels =>
    exact (SelectOperand.call spells isName (spells_quoted plain)
      (.of_quote rfl)).exists_entry rfl labels

/-- Every list of such entries is what some text selects. -/
theorem exists_selectList {select : List SelectItem} (hne : select ≠ [])
    (h : ∀ item ∈ select, Spellable item) :
    ∃ l : SelectList, l.entries.mapM Entry.item? = .ok select := by
  have entries : ∃ es : List SelectEntry,
      List.Forall₂ (fun e item ↦ e.item? = .ok item) (es.map SelectEntry.entry) select := by
    clear hne
    induction select with
    | nil => exact ⟨[], .nil⟩
    | cons item select ih =>
      obtain ⟨e, he⟩ := (h item List.mem_cons_self).exists_entry
      obtain ⟨es, hes⟩ := ih fun item hi ↦ h item (List.mem_cons_of_mem _ hi)
      exact ⟨e :: es, .cons he hes⟩
  obtain ⟨_ | ⟨e, es⟩, hes⟩ := entries
  · cases hes
    exact absurd rfl hne
  · exact ⟨.ofEntries e es, (list_mapM_eq_ok_iff fun _ _ ↦ Iff.rfl).2 hes⟩

end LedgerQuery.Sql
