import LedgerQuery.Proofs.BlockNumber
import LedgerQuery.Proofs.Meaning

/-!
# Texts in literals

A text that a query writes between single quotes, each quote in it doubled, is read as this text
(`Sql.Lexer.step_text`).  The plan keeps how the literal is shown, and whoever uses it takes away
the quotes around it, of either kind and however many, and leaves those inside as they are shown.
What comes out (`Sql.keptText`) is the text itself exactly if it neither starts nor ends with a
quote and its single quotes stand in pairs or after a backslash (`Sql.keptText_eq_iff`).  Lookups
and conditions on groups all use what comes out (`Query.text_literals`).
-/

namespace LedgerQuery

/-! ## Ends without quotes -/

namespace Text

variable {p : Char → Bool} {cs : List Char}

theorem not_of_mem_head?_dropWhile : ∀ c ∈ (cs.dropWhile p).head?, p c = false := by
  intro c hc
  have ends := List.head?_dropWhile_not p cs
  rw [hc] at ends
  simpa using ends

theorem stripChars_starts (p : Char → Bool) (cs : List Char) :
    stripChars p cs <+: cs.dropWhile p := by
  rw [stripChars, ← List.reverse_suffix, List.reverse_reverse]
  exact List.dropWhile_suffix p

/-- What is left has no character of the class at its start. -/
theorem not_of_mem_head?_stripChars : ∀ c ∈ (stripChars p cs).head?, p c = false := by
  intro c hc
  obtain ⟨rest, whole⟩ := stripChars_starts p cs
  have first : c ∈ (cs.dropWhile p).head? := by
    rw [← whole, List.head?_append, hc]
    rfl
  exact not_of_mem_head?_dropWhile c first

/-- What is left has no character of the class at its end. -/
theorem not_of_mem_getLast?_stripChars : ∀ c ∈ (stripChars p cs).getLast?, p c = false := by
  intro c hc
  rw [stripChars, List.getLast?_reverse] at hc
  exact not_of_mem_head?_dropWhile c hc

theorem length_stripChars_le (p : Char → Bool) (cs : List Char) :
    (stripChars p cs).length ≤ cs.length :=
  (stripChars_starts p cs).length_le.trans (List.dropWhile_suffix p).length_le

/-- Characters of the class around a text make no difference. -/
theorem stripChars_surrounded {a b : Char} (ha : p a = true) (hb : p b = true) :
    stripChars p (a :: (cs ++ [b])) = stripChars p cs := by
  rw [stripChars, stripChars, List.dropWhile_cons_of_pos ha, List.dropWhile_append]
  split
  · next none =>
    rw [List.isEmpty_iff.1 none, List.dropWhile_cons_of_pos hb]
    rfl
  · rw [List.reverse_append, List.reverse_singleton, List.singleton_append,
      List.dropWhile_cons_of_pos hb]

end Text

namespace Sql

/-! ## Quotes inside -/

/-- The text that a literal is taken for: what is shown of it between all quotes at its ends. -/
def keptText (cs : List Char) : List Char :=
  Text.stripChars Text.isQuote (doubleQuotes '\'' '\x00' cs)

/-- A text whose single quotes stand in pairs or after a backslash. -/
inductive PairedQuotes : List Char → Prop
  | nil : PairedQuotes []
  | other {c : Char} {cs : List Char} (quote : c ≠ '\'') (backslash : c ≠ '\\')
      (rest : PairedQuotes cs) : PairedQuotes (c :: cs)
  | pair {cs : List Char} (rest : PairedQuotes cs) : PairedQuotes ('\'' :: '\'' :: cs)
  | escaped (n : Nat) {cs : List Char} (ends : cs.head? ≠ some '\'') (rest : PairedQuotes cs) :
      PairedQuotes ('\\' :: (List.replicate n '\'' ++ cs))

section DoubleQuotes

variable {q last : Char} {cs : List Char}

theorem doubleQuotes_of_ne {c : Char} (hc : c ≠ q) (last : Char) (cs : List Char) :
    doubleQuotes q last (c :: cs) = c :: doubleQuotes q c cs := by
  rw [doubleQuotes.eq_def]
  exact if_pos (bne_iff_ne.2 hc)

theorem doubleQuotes_pair (hl : last ≠ '\\') (cs : List Char) :
    doubleQuotes q last (q :: q :: cs) = q :: q :: doubleQuotes q q cs := by
  rw [doubleQuotes.eq_def]
  simp [hl]

theorem doubleQuotes_lone (hl : last ≠ '\\') (hc : cs.head? ≠ some q) :
    doubleQuotes q last (q :: cs) = q :: q :: doubleQuotes q q cs := by
  rw [doubleQuotes.eq_def]
  cases cs with
  | nil => simp [hl, doubleQuotes]
  | cons c cs =>
    have hc : (c == q) = false := beq_eq_false_iff_ne.2 fun h ↦ hc (congrArg some h)
    simp [hl, hc]

theorem doubleQuotes_escaped (cs : List Char) :
    doubleQuotes q '\\' (q :: cs) = q :: doubleQuotes q '\\' cs := by
  rw [doubleQuotes.eq_def]
  simp

/-- The character before a text counts only if the text starts with a quote. -/
theorem doubleQuotes_last (hc : cs.head? ≠ some q) (last last' : Char) :
    doubleQuotes q last cs = doubleQuotes q last' cs := by
  cases cs with
  | nil => rfl
  | cons c cs =>
    have hc : c ≠ q := fun h ↦ hc (congrArg some h)
    rw [doubleQuotes_of_ne hc, doubleQuotes_of_ne hc]

theorem head?_doubleQuotes (q last : Char) (cs : List Char) :
    (doubleQuotes q last cs).head? = cs.head? := by
  fun_cases doubleQuotes q last cs <;> simp_all

theorem getLast?_doubleQuotes (q last : Char) (cs : List Char) :
    (doubleQuotes q last cs).getLast? = cs.getLast? := by
  fun_induction doubleQuotes q last cs <;> simp_all [List.getLast?_cons]

theorem exists_replicate (q : Char) (cs : List Char) :
    ∃ n rest, cs = List.replicate n q ++ rest ∧ rest.head? ≠ some q := by
  induction cs with
  | nil => exact ⟨0, [], rfl, nofun⟩
  | cons c cs ih =>
    by_cases hc : c = q
    · obtain ⟨n, rest, rfl, ends⟩ := ih
      exact ⟨n + 1, rest, by rw [hc]; rfl, ends⟩
    · exact ⟨0, c :: cs, rfl, fun h ↦ hc (Option.some_inj.1 h)⟩

theorem doubleQuotes_replicate (n : Nat) (cs : List Char) :
    doubleQuotes q '\\' (List.replicate n q ++ cs) =
      List.replicate n q ++ doubleQuotes q '\\' cs := by
  induction n with
  | zero => rfl
  | succ n ih =>
    rw [List.replicate_succ, List.cons_append, doubleQuotes_escaped, ih, List.cons_append]

theorem doubleQuotes_of_paired (h : PairedQuotes cs) (hl : last ≠ '\\') :
    doubleQuotes '\'' last cs = cs := by
  induction h generalizing last with
  | nil => rfl
  | other quote backslash _ ih => rw [doubleQuotes_of_ne quote, ih backslash]
  | pair _ ih => rw [doubleQuotes_pair hl, ih (by decide)]
  | escaped n ends _ ih =>
    rw [doubleQuotes_of_ne (by decide), doubleQuotes_replicate, doubleQuotes_last ends _ '\x00',
      ih (by decide)]

theorem paired_of_doubleQuotes (hl : last ≠ '\\') (h : doubleQuotes '\'' last cs = cs) :
    PairedQuotes cs := by
  induction hn : cs.length using Nat.strongRecOn generalizing cs last with
  | ind n ih =>
  subst hn
  cases cs with
  | nil => exact .nil
  | cons c cs =>
    by_cases quote : c = '\''
    · subst quote
      by_cases next : cs.head? = some '\''
      · obtain ⟨cs, rfl⟩ := List.head?_eq_some_iff.1 next
        rw [doubleQuotes_pair hl] at h
        have rest := (List.cons.inj (List.cons.inj h).2).2
        refine .pair (ih cs.length ?_ (by decide) rest rfl)
        rw [List.length_cons, List.length_cons]
        omega
      · -- A quote that stands alone is written twice.
        rw [doubleQuotes_lone hl next] at h
        exact absurd (congrArg List.head? (List.cons.inj h).2).symm next
    · rw [doubleQuotes_of_ne quote] at h
      have rest := (List.cons.inj h).2
      by_cases backslash : c = '\\'
      · subst backslash
        obtain ⟨n, cs, rfl, ends⟩ := exists_replicate '\'' cs
        rw [doubleQuotes_replicate, List.append_cancel_left_eq,
          doubleQuotes_last ends _ '\x00'] at rest
        refine .escaped n ends (ih _ ?_ (by decide) rest rfl)
        rw [List.length_cons, List.length_append]
        omega
      · exact .other quote backslash (ih _ (by simp) backslash rest rfl)

end DoubleQuotes

/-- A literal keeps its text exactly if there is no quote of either kind at its ends, and inside no
single quote that is written twice when the literal is shown. -/
theorem keptText_eq_iff {cs : List Char} :
    keptText cs = cs ↔ (∀ c ∈ cs.head?, Text.isQuote c = false) ∧
      (∀ c ∈ cs.getLast?, Text.isQuote c = false) ∧ PairedQuotes cs := by
  constructor
  · intro h
    have first : ∀ c ∈ (keptText cs).head?, Text.isQuote c = false :=
      Text.not_of_mem_head?_stripChars
    have last : ∀ c ∈ (keptText cs).getLast?, Text.isQuote c = false :=
      Text.not_of_mem_getLast?_stripChars
    rw [h] at first last
    rw [keptText, Text.stripChars_of_ends (by rwa [head?_doubleQuotes])
      (by rwa [getLast?_doubleQuotes])] at h
    exact ⟨first, last, paired_of_doubleQuotes (by decide) h⟩
  · rintro ⟨first, last, paired⟩
    rw [keptText, doubleQuotes_of_paired paired (by decide), Text.stripChars_of_ends first last]

/-! ## Shown literals -/

/-- Without the quotes around it a literal is what is kept of its text. -/
theorem unquote_text (cs : List Char) :
    Text.unquote (Literal.text (.ofList cs)).render = .ofList (keptText cs) := by
  rw [Literal.render, quoted, String.toList_ofList, Text.unquote, Text.strip, String.toList_ofList,
    Text.stripChars_surrounded rfl rfl, keptText]

/-- Taking away quotes does not leave a literal as it is. -/
theorem unquote_text_ne (cs : List Char) :
    Text.unquote (Literal.text (.ofList cs)).render ≠ (Literal.text (.ofList cs)).render := by
  intro same
  rw [unquote_text, Literal.render, quoted, String.toList_ofList] at same
  have kept := congrArg List.length (String.ofList_inj.1 same)
  have bound := Text.length_stripChars_le Text.isQuote (doubleQuotes '\'' '\x00' cs)
  rw [← keptText, kept] at bound
  simp only [List.length_cons, List.length_append] at bound
  omega

theorem literalCell_text (cs : List Char) :
    Query.literalCell (Literal.text (.ofList cs)).render = .text (.ofList (keptText cs)) := by
  rw [Query.literalCell, if_pos (unquote_text_ne cs), unquote_text]

end Sql

namespace Query

open Sql (Expr Literal keptText)
open Node (Client Ledger)

/-- A text that a query writes between single quotes, each quote in it doubled.  It is one token;
where the identity of a record is compared with it, on whichever side, and where groups are compared
with it, what is kept of the text is taken for it.  This is the text itself exactly if it neither
starts nor ends with a quote, and its single quotes stand in pairs or after a backslash. -/
theorem text_literals (cs : List Char) :
    (∀ (w : Bool) (rest : List Char), rest.head? ≠ some '\'' →
      Sql.Lexer.step w ('\'' :: (Sql.Lexer.doubled '\'' cs ++ '\'' :: rest)) =
        some (some (.literal (.text (.ofList cs))), rest)) ∧
    (∀ (t : Table) (e : Expr) (column : String), e.Names column →
      Text.lower column = t.identityColumn →
      ∃ p, (Expr.binary .eq e (.literal (.text (.ofList cs)))).predicate? = .ok p ∧
        (Expr.binary .eq (.literal (.text (.ofList cs))) e).predicate? = .ok p ∧
        ∀ {σ : Type} (c : Client σ) (state : σ),
          evaluate c t p state = fetch c (identityLookup t (.ofList (keptText cs))) state) ∧
    (∀ (e : Expr) (x : Operand) (op : Sql.BinaryOp) (c : Comparison), e.Denotes x →
      op.comparison? = some c →
      ∃ h, (Expr.binary op e (.literal (.text (.ofList cs)))).having? = .ok h ∧ h.target = x ∧
        ∀ column, GroupFilter.ofLiteral column h.op h.value =
          ⟨column, c, .text (.ofList (keptText cs))⟩) ∧
    (keptText cs = cs ↔ (∀ c ∈ cs.head?, Text.isQuote c = false) ∧
      (∀ c ∈ cs.getLast?, Text.isQuote c = false) ∧ Sql.PairedQuotes cs) := by
  refine ⟨fun w rest hr ↦ Sql.Lexer.step_text cs w hr, fun t e column names hc ↦ ?_,
    fun e x op c denotes hop ↦ ?_, Sql.keptText_eq_iff⟩
  · refine ⟨.equals column (Literal.text (.ofList cs)).render,
      Expr.predicate?_eq_ok_iff.2 (.literalRight _ names),
      Expr.predicate?_eq_ok_iff.2 (.literalLeft _ names), fun c state ↦ ?_⟩
    rw [evaluate_equals, lookup_identity hc, Sql.unquote_text]
  · refine ⟨_, Expr.having?_eq_ok_iff.2 (.compares _ hop denotes), rfl, fun column ↦ ?_⟩
    rw [GroupFilter.ofLiteral, Sql.literalCell_text]

theorem text_literals_apostrophe :
    Sql.Lexer.step false "'it''s'".toList = some (some (.literal (.text "it's")), []) ∧
      (∃ p, (Expr.binary .eq (.name [] ⟨"Hash", none⟩) (.literal (.text "it's"))).predicate? =
        .ok p ∧
        ∀ state, evaluate Ledger.client .transactions p state =
          fetch Ledger.client (.transactionByHash "it''s") state) ∧
      ∃ h, (Expr.binary .ge (.name [] ⟨"Hash", none⟩) (.literal (.text "it's"))).having? = .ok h ∧
        GroupFilter.ofLiteral "hash" h.op h.value = ⟨"hash", .ge, .text "it''s"⟩ := by
  have kept : keptText "it's".toList = "it''s".toList := by decide
  have name : (Expr.name [] ⟨"Hash", none⟩).Names "Hash" := .name [] ⟨"Hash", none⟩
  have column : Text.lower "Hash" = Table.transactions.identityColumn := by decide
  obtain ⟨token, condition, groups, -⟩ := text_literals "it's".toList
  rw [kept, String.ofList_toList] at condition groups
  simp only [String.ofList_toList] at token condition groups
  refine ⟨token false [] (by decide), ?_, ?_⟩
  · obtain ⟨p, hp, -, asks⟩ := condition .transactions _ _ name column
    exact ⟨p, hp, asks Ledger.client⟩
  · obtain ⟨h, hh, -, filter⟩ := groups _ _ .ge .ge (.column name) rfl
    exact ⟨h, hh, filter "hash"⟩

/-- A transaction is not found by its own hash. -/
theorem run_apostrophe :
    ((Sql.plan "SELECT hash FROM transactions WHERE hash = 'it''s'").toOption.map fun p ↦
      (run Ledger.client p (Ledger.ofBlocks
        [{ (default : Chain.Block) with
          transactions := [{ (default : Chain.Transaction) with hash := "it's" }] }])).1) =
      some (.error (.lookupFailed "transaction it''s" (.notFound "transaction it''s"))) := by
  decide +kernel

end Query

end LedgerQuery
