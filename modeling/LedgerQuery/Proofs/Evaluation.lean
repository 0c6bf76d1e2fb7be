import LedgerQuery.Proofs.Combine

/-!
# How conditions are evaluated

What one step of an evaluation does: a comparison becomes at most one lookup (`lookup_cases`), a
connective with two operands answers the first and then the second (`evaluate_pair`), and any other
connective fails before its operands are looked at (`evaluate_arity`).  Everything else about
evaluation is derived from these, by induction on the condition.
-/

namespace LedgerQuery

open Chain
open Node (Lookup Client)

/-- The column that holds the identity of a record. -/
def Table.identityColumn : Table → String
  | .blocks => "blockhash"
  | .transactions => "hash"

namespace Query

variable {σ : Type} {c : Client σ} {t : Table}

/-! ## Comparisons -/

def numberLookup : Table → Quantity 64 → Lookup
  | .blocks => .blockByNumber
  | .transactions => .transactionsOf

def identityLookup : Table → String → Lookup
  | .blocks => .blockByHash
  | .transactions => .transactionByHash

/-- The lookup that a comparison of a column with a literal asks for. -/
inductive Asks (t : Table) (column literal : String) : Lookup → Prop
  | number {n : Quantity 64} (column_eq : Text.lower column = "blocknumber")
      (literal_eq : blockNumber? (Text.unquote literal) = some n) :
      Asks t column literal (numberLookup t n)
  | identity (column_eq : Text.lower column = t.identityColumn) :
      Asks t column literal (identityLookup t (Text.unquote literal))

section Lookup

variable {column literal : String} {n : Quantity 64} {l : Lookup}

theorem lookup_blocknumber (hc : Text.lower column = "blocknumber") :
    lookup t column literal = (blockNumber column (Text.unquote literal)).map (numberLookup t) := by
  unfold lookup
  rw [hc]
  cases t <;> rfl

theorem lookup_number (hc : Text.lower column = "blocknumber")
    (hn : blockNumber? (Text.unquote literal) = some n) :
    lookup t column literal = .ok (numberLookup t n) := by
  rw [lookup_blocknumber hc, blockNumber, hn]
  rfl

/-- A comparison with the identity of a table is a lookup by hash. -/
theorem lookup_identity (hc : Text.lower column = t.identityColumn) :
    lookup t column literal = .ok (identityLookup t (Text.unquote literal)) := by
  unfold lookup
  rw [hc]
  cases t <;> rfl

/-- A comparison with any other column is refused. -/
theorem lookup_column (hn : Text.lower column ≠ "blocknumber")
    (hi : Text.lower column ≠ t.identityColumn) :
    lookup t column literal = .error (.unsupportedFilterColumn column t) := by
  -- One branch of the match for each table and column; three of them are those excluded.
  unfold lookup
  split
  · next h => exact absurd h hn
  · next h => exact absurd h hi
  · next h => exact absurd h hn
  · next h => exact absurd h hi
  · rfl

/-- A text that is no number is refused for the number of a block. -/
theorem lookup_literal (hc : Text.lower column = "blocknumber")
    (hn : blockNumber? (Text.unquote literal) = none) :
    lookup t column literal = .error (.invalidFilterValue column (Text.unquote literal)) := by
  rw [lookup_blocknumber hc, blockNumber, hn]
  rfl

/-- The column is checked before the literal, and the literal before any lookup. -/
theorem lookup_cases (t : Table) (column literal : String) :
    (∃ l, Asks t column literal l ∧ lookup t column literal = .ok l) ∨
    (Text.lower column ≠ "blocknumber" ∧ Text.lower column ≠ t.identityColumn ∧
      lookup t column literal = .error (.unsupportedFilterColumn column t)) ∨
    (Text.lower column = "blocknumber" ∧ blockNumber? (Text.unquote literal) = none ∧
      lookup t column literal =
        .error (.invalidFilterValue column (Text.unquote literal))) := by
  by_cases hc : Text.lower column = "blocknumber"
  · cases hn : blockNumber? (Text.unquote literal) with
    | some n => exact .inl ⟨_, .number hc hn, lookup_number hc hn⟩
    | none => exact .inr (.inr ⟨hc, rfl, lookup_literal hc hn⟩)
  · by_cases hi : Text.lower column = t.identityColumn
    · exact .inl ⟨_, .identity hi, lookup_identity hi⟩
    · exact .inr (.inl ⟨hc, hi, lookup_column hc hi⟩)

/-- A comparison makes the lookup that it asks for, if any. -/
theorem lookup_eq_ok_iff : lookup t column literal = .ok l ↔ Asks t column literal l := by
  constructor
  · intro h
    obtain ⟨l', ha, h'⟩ | ⟨-, -, h'⟩ | ⟨-, -, h'⟩ := lookup_cases t column literal
    · cases h.symm.trans h'
      exact ha
    · cases h.symm.trans h'
    · cases h.symm.trans h'
  · rintro (⟨hc, hn⟩ | hc)
    · exact lookup_number hc hn
    · exact lookup_identity hc

end Lookup

/-! ## Steps -/

theorem evaluate_equals (column literal : String) (s : σ) :
    evaluate c t (.equals column literal) s =
      match lookup t column literal with
      | .ok l => fetch c l s
      | .error e => (.error e, s) := by
  rw [evaluate]
  cases lookup t column literal <;> rfl

/-- The operands are evaluated from left to right, and the second only after the first succeeds. -/
theorem evaluate_pair (op : Connective) (p q : Predicate) (s : σ) :
    evaluate c t (.logical op [p, q]) s =
      match evaluate c t p s with
      | (.error e, s) => (.error e, s)
      | (.ok first, s) =>
        match evaluate c t q s with
        | (.error e, s) => (.error e, s)
        | (.ok second, s) => (.ok (combine op first second), s) := by
  rw [evaluate]
  simp only [bind, ExceptT.bind, ExceptT.mk, StateT.bind]
  rcases evaluate c t p s with ⟨e | first, s₁⟩
  · rfl
  · simp only [ExceptT.bindCont, StateT.bind]
    rcases evaluate c t q s₁ with ⟨e | second, s₂⟩ <;> rfl

/-- AND and OR are refused with any number of operands but two. -/
theorem evaluate_arity {op : Connective} {ps : List Predicate} (h : ∀ p q, ps = [p, q] → False)
    (s : σ) : evaluate c t (.logical op ps) s = (.error (.invalidOperatorArity ps.length), s) := by
  rw [evaluate.eq_3 c t op ps h]
  rfl

/-! ## Success -/

/-- A condition that is answered is a comparison whose lookup is answered, or a connective with two
operands that are answered one after the other. -/
theorem evaluate_ok_induction {motive : Predicate → σ → List Record → σ → Prop}
    (equals : ∀ column literal l s a s', lookup t column literal = .ok l → c l s = (.ok a, s') →
      motive (.equals column literal) s (l.records a) s')
    (pair : ∀ op p q s first s₁ second s', motive p s first s₁ → motive q s₁ second s' →
      motive (.logical op [p, q]) s (combine op first second) s')
    {p : Predicate} {s s' : σ} {rs : List Record} (h : evaluate c t p s = (.ok rs, s')) :
    motive p s rs s' := by
  induction p using evaluate.induct generalizing s s' rs with
  | case1 column literal =>
    rw [evaluate_equals] at h
    cases hl : lookup t column literal with
    | error e => rw [hl] at h; cases h
    | ok l =>
      simp only [hl, fetch] at h
      rcases ha : c l s with ⟨f | a, s₁⟩
      · rw [ha] at h; cases h
      · rw [ha] at h; cases h
        exact equals column literal l s a s' hl ha
  | case2 op p q ihp ihq =>
    rw [evaluate_pair] at h
    rcases hp : evaluate c t p s with ⟨e | first, s₁⟩
    · rw [hp] at h; cases h
    · simp only [hp] at h
      rcases hq : evaluate c t q s₁ with ⟨e | second, s₂⟩
      · rw [hq] at h; cases h
      · rw [hq] at h; cases h
        exact pair op p q s first s₁ second s' (ihp hp) (ihq hq)
  | case3 op ps hps =>
    rw [evaluate_arity hps] at h
    cases h

/-! ## The records of an answer -/

/-- The table that a record belongs to. -/
def tableOf : Record → Table
  | .block _ => .blocks
  | .transaction _ => .transactions

/-- A record has a cell in every column of its table. -/
theorem cell?_eq_some {r : Record} {column : String} (h : column ∈ (tableOf r).columns) :
    r.cell? column = some (r.cell column) := by
  cases r with
  | block b =>
    simp only [tableOf, Table.columns, List.mem_cons, List.not_mem_nil, or_false] at h
    rcases h with rfl | rfl | rfl | rfl | rfl | rfl | rfl | rfl | rfl | rfl | rfl | rfl | rfl |
      rfl | rfl | rfl | rfl | rfl | rfl <;> rfl
  | transaction x =>
    simp only [tableOf, Table.columns, List.mem_cons, List.not_mem_nil, or_false] at h
    rcases h with rfl | rfl | rfl | rfl | rfl | rfl | rfl | rfl | rfl | rfl | rfl <;> rfl

/-- What a lookup finds belongs to the table. -/
theorem tableOf_of_lookup {column literal : String} {l : Lookup}
    (h : lookup t column literal = .ok l) (a : l.Answer) : ∀ r ∈ l.records a, tableOf r = t := by
  intro r hr
  cases lookup_eq_ok_iff.1 h with
  | number _ _ =>
    cases t with
    | blocks => rw [List.mem_singleton.1 hr]; rfl
    | transactions => obtain ⟨x, -, rfl⟩ := List.mem_map.1 hr; rfl
  | identity _ => cases t <;> rw [List.mem_singleton.1 hr] <;> rfl

/-- Every record that a condition is answered by belongs to the table asked for. -/
theorem tableOf_of_evaluate {p : Predicate} {s s' : σ} {rs : List Record}
    (h : evaluate c t p s = (.ok rs, s')) : ∀ r ∈ rs, tableOf r = t := by
  refine evaluate_ok_induction (motive := fun _ _ rs _ ↦ ∀ r ∈ rs, tableOf r = t) ?_ ?_ h
  · intro column literal l s a s' hl _
    exact tableOf_of_lookup hl a
  · intro op p q s first s₁ second s' hf hs r hr
    exact (mem_of_mem_combine hr).elim (hf r) (hs r)

end Query

end LedgerQuery
