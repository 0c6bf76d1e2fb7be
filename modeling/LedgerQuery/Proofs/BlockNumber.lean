import LedgerQuery.Proofs.Ledger
import LedgerQuery.Proofs.Run
import LedgerQuery.Proofs.SelectEntries

/-!
# Spellings of the number of a block

The number of a block in decimal digits and the one in hexadecimal digits between quotes ask for the
same block.  Hexadecimal digits without quotes are a literal of another kind, which reaches the
lookup as `X'…'` and is no number there: such a query fails before any lookup
(`run_number_spellings`).  Both hold of any select list that ends where its text does; whatever a
plan selects by names that can stand between quotes is selected by such a list
(`Sql.exists_selectList`).
-/

namespace LedgerQuery.Query

open Chain Sql
open Number (Writes)
open Node (Client Ledger twoBlocks)

/-! ## Literals as they are shown -/

/-- Hexadecimal digits after `0x`, between quotes. -/
def quotedHex (hs : List Char) : List Char := '\'' :: ('0' :: 'x' :: hs ++ ['\''])

/-- How hexadecimal digits after `0x` are shown that stand between no quotes. -/
def shownHex (hs : List Char) : List Char := 'X' :: '\'' :: (hs ++ ['\''])

theorem render_decimal (ds : List Char) :
    (Literal.number (.ofList ds) false).render = .ofList ds := rfl

theorem doubleQuotes_of_not_mem {q : Char} {cs : List Char} (h : q ∉ cs) (last : Char) :
    doubleQuotes q last cs = cs := by
  induction cs generalizing last with
  | nil => rfl
  | cons c cs ih =>
    obtain ⟨hc, hcs⟩ := not_or.1 (mt List.mem_cons.2 h)
    rw [doubleQuotes.eq_def]
    dsimp only
    rw [if_pos (bne_iff_ne.2 (Ne.symm hc)), ih hcs]

theorem render_text {cs : List Char} (h : '\'' ∉ cs) :
    (Literal.text (.ofList cs)).render = .ofList ('\'' :: (cs ++ ['\''])) := by
  rw [Literal.render, quoted, String.toList_ofList, doubleQuotes_of_not_mem h]

theorem render_hex (cs : List Char) :
    (Literal.hex (.ofList cs)).render = .ofList (shownHex cs) := by
  rw [Literal.render, ← String.toList_inj]
  simp only [String.toList_append, String.toList_ofList]
  rfl

/-! ## Plans -/

/-- A plan for the records of a block. -/
def blockPlan (select : List SelectItem) (t : Table) (literal : String) : Plan where
  projection := select
  table := t.name
  selection := some (.equals "blocknumber" literal)
  groupBy := none
  having := none
  orderBy := none
  limit := none

/-- A literal stands in the plan as it is shown. -/
theorem plan_query (l : SelectList) (t : Table) {literal : List Char} {v : Literal}
    (hv : Lexer.step false literal = some (some (.literal v), [])) (hne : literal ≠ []) :
    plan (l.query t literal) =
      (l.entries.mapM Entry.item?).map fun select ↦ blockPlan select t v.render := by
  have name : Text.strip (fun c ↦ c == '"' || c == '`') (renderName [⟨t.name, none⟩]) = t.name := by
    cases t <;> rfl
  have table : (l.selection t v).table? = .ok t.name := congrArg Except.ok name
  rw [plan, Parser.statements?_query l t hv hne]
  show (Statement.Query.ofBody (.select (l.selection t v))).plan? = _
  rw [Statement.Query.plan?]
  show ((l.selection t v).table? >>= fun table ↦ l.entries.mapM Entry.item? >>= fun select ↦ _) = _
  rw [table]
  cases l.entries.mapM Entry.item? <;> rfl

/-! ## Numbers in literals -/

section Unquote

variable {ds : List Char} {n : Nat}

theorem unquote_decimal (h : Writes 10 ds n) : Text.unquote (.ofList ds) = .ofList ds :=
  Text.unquote_of_not_isQuote fun c hc ↦ Number.isQuote_of_digit? (h.digit?_isSome c hc)

theorem isQuote_getLast (front : List Char) (h : Writes 16 ds n) :
    ∀ c ∈ (front ++ ds).getLast?, Text.isQuote c = false := by
  intro c hc
  rw [List.getLast?_append_of_ne_nil front h.ne_nil] at hc
  exact Number.isQuote_of_digit? (h.digit?_isSome c (List.mem_of_getLast? hc))

theorem unquote_quotedHex (h : Writes 16 ds n) :
    Text.unquote (.ofList (quotedHex ds)) = .ofList ('0' :: 'x' :: ds) :=
  Text.unquote_append ['\''] ('0' :: 'x' :: ds) ['\''] (by simp [Text.isQuote])
    (by simp [Text.isQuote]) (by rintro c ⟨⟩; rfl) (isQuote_getLast ['0', 'x'] h)

theorem unquote_shownHex (h : Writes 16 ds n) :
    Text.unquote (.ofList (shownHex ds)) = .ofList ('X' :: '\'' :: ds) :=
  Text.unquote_append [] ('X' :: '\'' :: ds) ['\''] (by simp) (by simp [Text.isQuote])
    (by rintro c ⟨⟩; rfl) (isQuote_getLast ['X', '\''] h)

end Unquote

/-! ## Runs -/

section Runs

variable {σ : Type} (c : Client σ) (select : List SelectItem) (t : Table) (state : σ)

/-- The names of a plan are checked before its literal is looked at. -/
theorem run_blockPlan (literal : String) :
    run c (blockPlan select t literal) state =
      match Scope.bindAliases [] select with
      | .error e => (.error e, state)
      | .ok aliases =>
        match lookup t "blocknumber" literal with
        | .error e => (.error e, state)
        | .ok l =>
          match fetch c l state with
          | (.error e, state) => (.error e, state)
          | (.ok records, state) =>
            (finish ⟨blockPlan select t literal, select.filterMap fun item ↦ item.expr.name?,
              aliases⟩ t records, state) := by
  have projection : (blockPlan select t literal).projection = select := rfl
  have named : ∀ t : Table, Table.ofName? t.name = some t := by
    intro t
    cases t <;> rfl
  have table : Table.ofName? (blockPlan select t literal).table = some t := named t
  rw [run_eq, prepare, Scope.ofPlan, projection]
  cases Scope.bindAliases [] select with
  | error e => rfl
  | ok aliases =>
    dsimp only
    rw [table]
    dsimp only [blockPlan]
    rw [evaluate_equals]
    cases lookup t "blocknumber" literal <;> rfl

/-- Two literals that are looked up in the same way make no difference. -/
theorem run_blockPlan_congr {literal literal' : String}
    (h : lookup t "blocknumber" literal = lookup t "blocknumber" literal') :
    run c (blockPlan select t literal) state = run c (blockPlan select t literal') state := by
  rw [run_blockPlan, run_blockPlan, h]
  rfl

/-- The three ways to write the number of a block.  Decimal digits and quoted hexadecimal digits
after `0x` stand in the plan as they are written, and both plans ask for the records of the block
and do the same with them.  Without quotes the hexadecimal digits stand in the plan as `X'…'`, and a
query that gives a result for the others fails for want of a number, with no lookup made. -/
theorem run_number_spellings (l : SelectList) (t : Table) (n : Quantity 64) {ds hs : List Char}
    {select : List SelectItem} (hd : Writes 10 ds n.val) (hh : Writes 16 hs n.val)
    (hl : l.entries.mapM Entry.item? = .ok select) :
    plan (l.query t ds) = .ok (blockPlan select t (.ofList ds)) ∧
    plan (l.query t (quotedHex hs)) = .ok (blockPlan select t (.ofList (quotedHex hs))) ∧
    plan (l.query t ('0' :: 'x' :: hs)) = .ok (blockPlan select t (.ofList (shownHex hs))) ∧
    ∀ {σ : Type} (c : Client σ) (state : σ),
      (∀ literal, literal = ds ∨ literal = quotedHex hs →
        evaluate c t (.equals "blocknumber" (.ofList literal)) state =
          fetch c (numberLookup t n) state) ∧
      run c (blockPlan select t (.ofList (quotedHex hs))) state =
        run c (blockPlan select t (.ofList ds)) state ∧
      (∃ e, run c (blockPlan select t (.ofList (shownHex hs))) state = (.error e, state)) ∧
      ∀ result state', run c (blockPlan select t (.ofList ds)) state = (.ok result, state') →
        run c (blockPlan select t (.ofList (shownHex hs))) state =
          (.error (.invalidFilterValue "blocknumber" (.ofList ('X' :: '\'' :: hs))), state) := by
  have lower : Text.lower "blocknumber" = "blocknumber" := by decide +kernel
  have unquoted : '\'' ∉ '0' :: 'x' :: hs := by
    simp only [List.mem_cons, not_or]
    refine ⟨by decide, by decide, fun hm ↦ ?_⟩
    exact absurd (Number.isQuote_of_digit? (hh.digit?_isSome _ hm)) (by decide)
  have decimal := plan_query l t (Lexer.step_decimal false hd) hd.ne_nil
  have quoted := plan_query l t (Lexer.step_quoted unquoted false) (List.cons_ne_nil _ _)
  have marked := plan_query l t (Lexer.step_hexadecimal false hh) (List.cons_ne_nil _ _)
  rw [hl, render_decimal] at decimal
  rw [hl, render_text unquoted] at quoted
  rw [hl, render_hex] at marked
  have hdecimal : lookup t "blocknumber" (.ofList ds) = .ok (numberLookup t n) :=
    lookup_number lower ((congrArg _ (unquote_decimal hd)).trans (blockNumber?_decimal hd))
  have hquoted : lookup t "blocknumber" (.ofList (quotedHex hs)) = .ok (numberLookup t n) :=
    lookup_number lower
      ((congrArg _ (unquote_quotedHex hh)).trans (blockNumber?_hexadecimal hh))
  have hmarked : lookup t "blocknumber" (.ofList (shownHex hs)) =
      .error (.invalidFilterValue "blocknumber" (.ofList ('X' :: '\'' :: hs))) := by
    rw [lookup_literal lower] <;> rw [unquote_shownHex hh]
    exact blockNumber?_marked _
  refine ⟨decimal, quoted, marked, fun c state ↦ ⟨?_, ?_, ?_, ?_⟩⟩
  · rintro literal (rfl | rfl)
    · rw [evaluate_equals, hdecimal]
    · rw [evaluate_equals, hquoted]
  · exact run_blockPlan_congr c select t state (hquoted.trans hdecimal.symm)
  · rw [run_blockPlan, hmarked]
    cases Scope.bindAliases [] select with
    | error e => exact ⟨e, rfl⟩
    | ok aliases => exact ⟨_, rfl⟩
  · intro result state' hr
    rw [run_blockPlan] at hr ⊢
    rw [hmarked]
    cases hb : Scope.bindAliases [] select with
    | error e =>
      rw [hb] at hr
      cases hr
    | ok aliases => rfl

end Runs

/-! ## The number of the second block -/

/-- The hash of blocks under an alias, and their size by a name between quotes. -/
def hashAndSize : SelectList :=
  .ofEntries
    (.named (.column (spells_bare (s := "BlockHash") rfl rfl rfl)
      ⟨by decide +kernel, fun _ ↦ by decide +kernel⟩) (spells_bare (s := "hash") rfl rfl rfl))
    [.plain (.column (spells_quoted (s := "size") (by decide)) (.of_quote rfl))]

/-- How many blocks there are, under an alias with a blank, and how large they are at most. -/
def countAndMax : List SelectItem :=
  [⟨.call ⟨"count", .star⟩, some "how many"⟩, ⟨.call ⟨"Max", .column "Size"⟩, none⟩]

theorem spellable_countAndMax : ∀ item ∈ countAndMax, Spellable item := by
  intro item hi
  simp only [countAndMax, List.mem_cons, List.not_mem_nil, or_false] at hi
  rcases hi with rfl | rfl
  · exact .callStar (spells_bare rfl rfl rfl) ⟨by decide +kernel, fun _ ↦ by decide +kernel⟩
      (by simp)
  · exact .call (spells_bare rfl rfl rfl) ⟨by decide +kernel, fun _ ↦ by decide +kernel⟩
      (by decide) (by simp)

/-- The second block is found by its number in decimal digits and not without quotes in hexadecimal
ones, whether names or calls are selected. -/
theorem run_number_spellings_two :
    (∃ decimal marked : Plan,
      plan "SELECT BlockHash AS hash, \"size\" FROM blocks WHERE blocknumber = 2" = .ok decimal ∧
      plan "SELECT BlockHash AS hash, \"size\" FROM blocks WHERE blocknumber = 0x2" = .ok marked ∧
      (∃ result l, run Ledger.client decimal (Ledger.ofBlocks twoBlocks) = (.ok result, l)) ∧
      run Ledger.client marked (Ledger.ofBlocks twoBlocks) =
        (.error (.invalidFilterValue "blocknumber" "X'2"), Ledger.ofBlocks twoBlocks)) ∧
    ∃ (l : SelectList) (decimal marked : Plan), l.entries.mapM Entry.item? = .ok countAndMax ∧
      plan (l.query .blocks ['2']) = .ok decimal ∧
      plan (l.query .blocks ['0', 'x', '2']) = .ok marked ∧
      (∃ result l, run Ledger.client decimal (Ledger.ofBlocks twoBlocks) = (.ok result, l)) ∧
      run Ledger.client marked (Ledger.ofBlocks twoBlocks) =
        (.error (.invalidFilterValue "blocknumber" "X'2"), Ledger.ofBlocks twoBlocks) := by
  have decimal : Nat.toDigits 10 2 = ['2'] := by decide +kernel
  have hexadecimal : Nat.toDigits 16 2 = ['2'] := by decide +kernel
  have shown : String.ofList ('X' :: '\'' :: Nat.toDigits 16 2) = "X'2" := by decide +kernel
  have spelled (l : SelectList) (select : List SelectItem) (columns : List String)
      (hl : l.entries.mapM Entry.item? = .ok select)
      (ok : (run Ledger.client (blockPlan select .blocks (.ofList (Nat.toDigits 10 2)))
        (Ledger.ofBlocks twoBlocks)).1.toOption.map (fun r ↦ r.columns) = some columns) :
      ∃ decimal marked : Plan, plan (l.query .blocks ['2']) = .ok decimal ∧
        plan (l.query .blocks ['0', 'x', '2']) = .ok marked ∧
        (∃ result l, run Ledger.client decimal (Ledger.ofBlocks twoBlocks) = (.ok result, l)) ∧
        run Ledger.client marked (Ledger.ofBlocks twoBlocks) =
          (.error (.invalidFilterValue "blocknumber" "X'2"), Ledger.ofBlocks twoBlocks) := by
    obtain ⟨hdecimal, -, hmarked, h⟩ :=
      run_number_spellings l .blocks ⟨2, by decide⟩
        (Number.writes_toDigits (by decide) (by decide) 2)
        (Number.writes_toDigits (by decide) (by decide) 2) hl
    obtain ⟨result, ledger, hr, -⟩ := exists_run_eq_ok ok
    obtain ⟨-, -, -, fails⟩ := h Ledger.client (Ledger.ofBlocks twoBlocks)
    refine ⟨_, _, decimal ▸ hdecimal, hexadecimal ▸ hmarked, ⟨result, ledger, ?_⟩, ?_⟩
    · rwa [← decimal]
    · rw [← hexadecimal, ← shown]
      exact fails result ledger hr
  constructor
  · have text (digits : List Char) (h : digits = ['2'] ∨ digits = ['0', 'x', '2']) :
        hashAndSize.query .blocks digits =
          "SELECT BlockHash AS hash, \"size\" FROM blocks WHERE blocknumber = " ++
            String.ofList digits := by
      rcases h with rfl | rfl <;> decide +kernel
    have found := spelled hashAndSize
      [⟨.column "BlockHash", some "hash"⟩, ⟨.column "size", none⟩] ["blockhash", "size"] rfl
      (by decide +kernel)
    rw [text _ (.inl rfl), text _ (.inr rfl)] at found
    exact found
  · obtain ⟨l, hl⟩ := exists_selectList (List.cons_ne_nil _ _) spellable_countAndMax
    obtain ⟨decimal, marked, found⟩ :=
      spelled l countAndMax ["count(*)", "max(size)"] hl (by decide +kernel)
    exact ⟨l, decimal, marked, hl, found⟩

end LedgerQuery.Query
