import LedgerQuery.Proofs.AliasColumns
import LedgerQuery.Proofs.Meaning
import LedgerQuery.Proofs.UnknownColumns

/-!
# Which conditions are accepted

An expression states a condition exactly if it is made of `AND`, `OR` and parentheses from
equalities of a name and a literal (`Expr.States`).  Of any other expression the nodes that stand
where a condition is expected are looked at from left to right, each before its own parts
(`Expr.conditions`), and the first one that can be none is the one reported
(`Expr.predicate?_eq_error_iff`).

A condition that an expression states has two operands in every `AND` and `OR`
(`Expr.States.binary`).  So a plan that is made from a text never fails for the number of operands
(`plan_conditions`).
-/

namespace LedgerQuery

namespace Query

/-! ## Conditions with two operands each -/

/-- A condition whose connectives have two operands each. -/
inductive Predicate.Binary : Predicate → Prop
  | equals (column value : String) : Binary (.equals column value)
  | logical (op : Connective) {p q : Predicate} (first : Binary p) (second : Binary q) :
      Binary (.logical op [p, q])

open Node (Client)

/-- A lookup is not refused for a number of operands. -/
theorem lookup_ne_arity (t : Table) (column literal : String) (n : Nat) :
    lookup t column literal ≠ .error (.invalidOperatorArity n) := by
  obtain ⟨l, -, h⟩ | ⟨-, -, h⟩ | ⟨-, -, h⟩ := lookup_cases t column literal <;> rw [h] <;> rintro ⟨⟩

/-- Conditions with two operands each are not refused for a number of operands. -/
theorem evaluate_ne_arity {σ : Type} (c : Client σ) (t : Table) {p : Predicate} (h : p.Binary)
    (n : Nat) (state : σ) : (evaluate c t p state).1 ≠ .error (.invalidOperatorArity n) := by
  induction h generalizing state with
  | equals column value =>
    rw [evaluate_equals]
    cases hl : lookup t column value with
    | error e =>
      rintro ⟨⟩
      exact lookup_ne_arity t column value n hl
    | ok l =>
      dsimp only
      rw [fetch]
      rcases c l state with ⟨f | a, state'⟩ <;> rintro ⟨⟩
  | @logical op p q _ _ ihp ihq =>
    rw [evaluate_pair]
    rcases hp : evaluate c t p state with ⟨e | first, state₁⟩
    · have first := ihp state
      rw [hp] at first
      rintro ⟨⟩
      exact first rfl
    · dsimp only
      rcases hq : evaluate c t q state₁ with ⟨e | second, state₂⟩
      · have second := ihq state₁
        rw [hq] at second
        rintro ⟨⟩
        exact second rfl
      · rintro ⟨⟩

/-- No plan is refused for a number of operands before its conditions are evaluated. -/
theorem prepare_ne_arity (p : Plan) (n : Nat) : prepare p ≠ .error (.invalidOperatorArity n) := by
  rw [prepare]
  split
  · next e he =>
    obtain ⟨a, rfl, -⟩ := Scope.ofPlan_eq_error_iff.1 he
    rintro ⟨⟩
  · split
    · rintro ⟨⟩
    · split <;> rintro ⟨⟩

/-- A run fails for the number of operands only if its condition has a connective with another
number of them than two. -/
theorem run_ne_arity {σ : Type} (c : Client σ) {p : Plan}
    (h : ∀ predicate ∈ p.selection, predicate.Binary) (n : Nat) (state : σ) :
    (run c p state).1 ≠ .error (.invalidOperatorArity n) := by
  rw [run_eq]
  cases hp : prepare p with
  | error e =>
    rintro ⟨⟩
    exact prepare_ne_arity p n hp
  | ok found =>
    obtain ⟨s, t, predicate⟩ := found
    obtain ⟨hs, -, hpredicate⟩ := prepare_eq_ok_iff.1 hp
    dsimp only
    rcases he : evaluate c t predicate state with ⟨e | records, state₁⟩
    · have answered := evaluate_ne_arity c t (h predicate hpredicate) n state
      rw [he] at answered
      rintro ⟨⟩
      exact answered rfl
    · intro hf
      cases reports_finish hs records _ hf

end Query

namespace Sql

open Query (Predicate)

namespace Expr

/-- The condition that an expression states has two operands in every connective. -/
theorem States.binary {e : Expr} {p : Predicate} (h : e.States p) : p.Binary := by
  induction h with
  | nested _ ih => exact ih
  | and _ _ ihl ihr => exact .logical .and ihl ihr
  | or _ _ ihl ihr => exact .logical .or ihl ihr
  | literalRight v _ | literalLeft v _ => exact .equals _ _

/-! ## Refused nodes -/

/-- The nodes of an expression that stand where a condition is expected, from left to right, each
before its own parts. -/
def conditions : Expr → List Expr
  | .nested e => .nested e :: e.conditions
  | .binary .and l r => .binary .and l r :: (l.conditions ++ r.conditions)
  | .binary .or l r => .binary .or l r :: (l.conditions ++ r.conditions)
  | e => [e]

def unwrapped : Expr → Expr
  | .nested e => e.unwrapped
  | e => e

/-- Whether an expression is one in parentheses, or two with an operator between them. -/
def isCompound : Expr → Bool
  | .nested _ | .binary .. => true
  | _ => false

/-- A node that can be no condition, whatever its conditions are, and why. -/
inductive Refused : Expr → PlanError → Prop
  | operator {op : BinaryOp} (l r : Expr) (other : op ∉ [.and, .or, .eq]) :
      Refused (.binary op l r) (.unsupportedOperator op.render)
  /-- A literal is on the left, and no name on the right. -/
  | rightColumn (v : Literal) {r : Expr} (unnamed : ∀ column, ¬ r.Names column) :
      Refused (.binary .eq (.literal v) r) (.unsupportedExpression r.unwrapped.render)
  /-- On the left there is neither a literal nor a name. -/
  | leftColumn {l : Expr} (r : Expr) (value : ∀ v, l ≠ .literal v)
      (unnamed : ∀ column, ¬ l.Names column) :
      Refused (.binary .eq l r) (.unsupportedExpression l.unwrapped.render)
  /-- A name is on the left, and no literal on the right. -/
  | value {l r : Expr} {column : String} (name : l.Names column) (other : ∀ v, r ≠ .literal v) :
      Refused (.binary .eq l r) (.unsupportedExpression r.render)
  | form {e : Expr} (simple : e.isCompound = false) : Refused e (.unsupportedExpression e.render)

/-- The error of the first refused node. -/
def FirstRefused (es : List Expr) (error : PlanError) : Prop :=
  ∃ before e after, es = before ++ e :: after ∧ (∀ x ∈ before, ∀ error, ¬ x.Refused error) ∧
    e.Refused error

namespace FirstRefused

variable {e : Expr} {es fs : List Expr} {error error' : PlanError}

theorem head (h : e.Refused error) : FirstRefused (e :: es) error := ⟨[], e, es, rfl, nofun, h⟩

/-- What is accepted may stand before the first refused condition. -/
theorem cons (he : ∀ error, ¬ e.Refused error) (h : FirstRefused es error) :
    FirstRefused (e :: es) error := by
  obtain ⟨before, x, after, rfl, hb, hx⟩ := h
  exact ⟨e :: before, x, after, rfl, List.forall_mem_cons.2 ⟨he, hb⟩, hx⟩

/-- A refusal stands when further conditions follow. -/
theorem append_left (h : FirstRefused es error) : FirstRefused (es ++ fs) error := by
  obtain ⟨before, x, after, rfl, hb, hx⟩ := h
  exact ⟨before, x, after ++ fs, by rw [List.append_assoc, List.cons_append], hb, hx⟩

/-- What follows accepted conditions holds the first refused one. -/
theorem append_right (he : ∀ x ∈ es, ∀ error, ¬ x.Refused error) (h : FirstRefused fs error) :
    FirstRefused (es ++ fs) error := by
  obtain ⟨before, x, after, rfl, hb, hx⟩ := h
  exact ⟨es ++ before, x, after, (List.append_assoc _ _ _).symm,
    List.forall_mem_append.2 ⟨he, hb⟩, hx⟩

end FirstRefused

/-! ## Nodes -/

/-- An expression that names no column is refused by its text. -/
theorem column?_of_unnamed {e : Expr} (h : ∀ column, ¬ e.Names column) :
    e.column? = .error (.unsupportedExpression e.unwrapped.render) := by
  induction e with
  | name qualifier last => exact absurd (.name qualifier last) (h _)
  | nested e ih => exact ih fun column inside ↦ h column (.nested inside)
  | _ => rfl

/-- An expression that is no literal is refused by its text. -/
theorem literal?_of_ne {e : Expr} (h : ∀ v, e ≠ .literal v) :
    e.literal? = .error (.unsupportedExpression e.render) := by
  cases e with
  | literal v => exact absurd rfl (h v)
  | _ => rfl

/-- The sides of a comparison are kept if the left one is no literal. -/
theorem sides_of_ne {l : Expr} (h : ∀ v, l ≠ .literal v) (r : Expr) : sides l r = (l, r) := by
  cases l with
  | literal v => exact absurd rfl (h v)
  | _ => rfl

/-- An expression that names a column is no literal. -/
theorem Names.ne_literal {e : Expr} {column : String} (h : e.Names column) (v : Literal) :
    e ≠ .literal v := by
  rintro rfl
  cases h

/-- A refused node is refused for its own sake. -/
theorem Refused.predicate? {e : Expr} {error : PlanError} (h : e.Refused error) :
    e.predicate? = .error error := by
  cases h with
  | @operator op l r other =>
    cases op with
    | and | or | eq => exact absurd (by decide) other
    | _ => rfl
  | rightColumn v unnamed =>
    rw [Expr.predicate?, sides_literal]
    dsimp only
    rw [column?_of_unnamed unnamed]
    rfl
  | leftColumn r value unnamed =>
    rw [Expr.predicate?, sides_of_ne value]
    dsimp only
    rw [column?_of_unnamed unnamed]
    rfl
  | value name other =>
    rw [Expr.predicate?, sides_of_ne name.ne_literal]
    dsimp only
    rw [column?_eq_ok_iff.2 name, literal?_of_ne other]
    rfl
  | form simple =>
    cases e with
    | nested _ | binary _ _ _ => cases simple
    | _ => rfl

/-- Parentheses are not refused themselves. -/
theorem not_refused_nested (e : Expr) (error : PlanError) : ¬ (Expr.nested e).Refused error := by
  rintro ⟨⟩
  next simple => cases simple

/-- AND and OR are not refused themselves. -/
theorem not_refused_logical {op : BinaryOp} (h : op ∈ [.and, .or]) (l r : Expr)
    (error : PlanError) :
    ¬ (Expr.binary op l r).Refused error := by
  intro refused
  cases refused with
  | operator _ _ other => exact other (List.mem_append_left [BinaryOp.eq] h)
  | form simple => cases simple
  | _ => cases h with | tail _ h => cases h with | tail _ h => cases h

/-- An equality states a condition, or it is refused. -/
theorem equality_states_or_refused (l r : Expr) :
    (∃ p, (Expr.binary .eq l r).States p) ∨ ∃ error, (Expr.binary .eq l r).Refused error := by
  by_cases hl : ∃ v, l = .literal v
  · obtain ⟨v, rfl⟩ := hl
    by_cases hr : ∃ column, r.Names column
    · obtain ⟨column, name⟩ := hr
      exact .inl ⟨_, .literalLeft v name⟩
    · exact .inr ⟨_, .rightColumn v (not_exists.1 hr)⟩
  · by_cases hn : ∃ column, l.Names column
    · obtain ⟨column, name⟩ := hn
      by_cases hr : ∃ v, r = .literal v
      · obtain ⟨v, rfl⟩ := hr
        exact .inl ⟨_, .literalRight v name⟩
      · exact .inr ⟨_, .value name (not_exists.1 hr)⟩
    · exact .inr ⟨_, .leftColumn r (not_exists.1 hl) (not_exists.1 hn)⟩

/-! ## Expressions -/

/-- A condition that states something is not refused. -/
theorem States.not_refused {e : Expr} {p : Predicate} (h : e.States p) (error : PlanError) :
    ¬ e.Refused error := by
  intro refused
  cases refused.predicate?.symm.trans (predicate?_eq_ok_iff.2 h)

/-- An expression states a condition and no node of it is refused, or there is a first node that is,
and the expression is refused for it. -/
def Judged (e : Expr) : Prop :=
  ((∃ p, e.States p) ∧ ∀ x ∈ e.conditions, ∀ error, ¬ x.Refused error) ∨
    ∃ error, FirstRefused e.conditions error ∧ e.predicate? = .error error

/-- A condition with nothing below it is judged by its own refusal. -/
theorem judged_of_refused {e : Expr} {error : PlanError} (hc : e.conditions = [e])
    (h : e.Refused error) : e.Judged :=
  .inr ⟨error, hc ▸ .head h, h.predicate?⟩

/-- A connective is judged by its operands, the left one first. -/
theorem judged_logical {node l r : Expr} {op : Query.Connective} (hl : l.Judged) (hr : r.Judged)
    (hc : node.conditions = node :: (l.conditions ++ r.conditions))
    (hn : ∀ error, ¬ node.Refused error)
    (hs : ∀ {p q}, l.States p → r.States q → node.States (.logical op [p, q]))
    (he : node.predicate? = do .ok (.logical op [← l.predicate?, ← r.predicate?])) :
    node.Judged := by
  rw [Judged, hc, he]
  rcases hl with ⟨⟨p, hp⟩, left⟩ | ⟨error, first, failed⟩
  · rcases hr with ⟨⟨q, hq⟩, right⟩ | ⟨error, first, failed⟩
    · exact .inl ⟨⟨_, hs hp hq⟩,
        List.forall_mem_cons.2 ⟨hn, List.forall_mem_append.2 ⟨left, right⟩⟩⟩
    · rw [predicate?_eq_ok_iff.2 hp, failed]
      exact .inr ⟨error, (first.append_right left).cons hn, rfl⟩
  · rw [failed]
    exact .inr ⟨error, first.append_left.cons hn, rfl⟩

/-- Each condition is planned, or refused for the first of its parts that is. -/
theorem judged (e : Expr) : e.Judged := by
  induction e with
  | nested e ih =>
    rcases ih with ⟨⟨p, hp⟩, none⟩ | ⟨error, first, failed⟩
    · exact .inl ⟨⟨p, .nested hp⟩, List.forall_mem_cons.2 ⟨not_refused_nested e, none⟩⟩
    · exact .inr ⟨error, first.cons (not_refused_nested e), failed⟩
  | binary op l r ihl ihr =>
    cases op with
    | and => exact judged_logical ihl ihr rfl (not_refused_logical (by decide) l r) .and rfl
    | or => exact judged_logical ihl ihr rfl (not_refused_logical (by decide) l r) .or rfl
    | eq =>
      rcases equality_states_or_refused l r with ⟨p, hp⟩ | ⟨error, refused⟩
      · exact .inl ⟨⟨p, hp⟩, by rintro x (_ | ⟨_, ⟨⟩⟩); exact hp.not_refused⟩
      · exact judged_of_refused rfl refused
    | _ => exact judged_of_refused rfl (.operator l r (by simp))
  | _ => exact judged_of_refused rfl (.form rfl)

/-- A list has one first refused node at most. -/
theorem FirstRefused.unique {es : List Expr} {error error' : PlanError} (h : FirstRefused es error)
    (h' : FirstRefused es error') : error = error' := by
  obtain ⟨before, x, after, rfl, hb, hx⟩ := h
  obtain ⟨before', x', after', same, hb', hx'⟩ := h'
  induction before generalizing before' with
  | nil => cases before' with
    | nil =>
      obtain ⟨rfl, -⟩ := List.cons.inj same
      exact Except.error.inj (hx.predicate?.symm.trans hx'.predicate?)
    | cons y ys =>
      obtain ⟨rfl, -⟩ := List.cons.inj same
      exact absurd hx (hb' _ List.mem_cons_self _)
  | cons y ys ih => cases before' with
    | nil =>
      obtain ⟨rfl, -⟩ := List.cons.inj same
      exact absurd hx' (hb _ List.mem_cons_self _)
    | cons y' ys' =>
      obtain ⟨rfl, rest⟩ := List.cons.inj same
      exact ih (List.forall_mem_cons.1 hb).2 ys' rest (List.forall_mem_cons.1 hb').2

/-- An expression is refused for the first of its nodes that can be no condition. -/
theorem predicate?_eq_error_iff {e : Expr} {error : PlanError} :
    e.predicate? = .error error ↔ FirstRefused e.conditions error := by
  rcases e.judged with ⟨⟨p, hp⟩, none⟩ | ⟨error', first, failed⟩
  · rw [predicate?_eq_ok_iff.2 hp]
    refine ⟨nofun, fun ⟨before, x, after, split, _, hx⟩ ↦ absurd hx (none x ?_ error)⟩
    rw [split]
    exact List.mem_append_right before List.mem_cons_self
  · rw [failed]
    constructor
    · rintro ⟨⟩
      exact first
    · intro h
      rw [first.unique h]

end Expr

open Node (Client Ledger)

/-- Each condition of a plan has two operands at each node. -/
theorem binary_of_plan {sql : String} {p : Query.Plan} (h : plan sql = .ok p) :
    ∀ predicate ∈ p.selection, predicate.Binary := by
  obtain ⟨q, -, ⟨⟨s, -, means⟩, -, -⟩⟩ := plan_eq_ok_iff_query?.1 h
  intro predicate hp
  have selection := means.selection
  rw [Option.mem_def.1 hp] at selection
  generalize s.condition = condition at selection
  cases selection with
  | some states => exact states.binary

/-- An expression is accepted as a condition exactly if it states one, and as the one it states,
with two operands in every connective.  Any other expression is refused for the first of its nodes
that can be no condition.  No run of a plan that is made from a text fails for the number of
operands. -/
theorem plan_conditions (e : Expr) (sql : String) :
    (∀ p, e.predicate? = .ok p ↔ e.States p) ∧
    (∀ p, e.States p → p.Binary) ∧
    (∀ error, e.predicate? = .error error ↔ Expr.FirstRefused e.conditions error) ∧
    ∀ p, plan sql = .ok p → ∀ {σ : Type} (c : Client σ) (n : Nat) (state : σ),
      (Query.run c p state).1 ≠ .error (.invalidOperatorArity n) :=
  ⟨fun _ ↦ Expr.predicate?_eq_ok_iff, fun _ ↦ Expr.States.binary,
    fun _ ↦ Expr.predicate?_eq_error_iff,
    fun _ h _ c n state ↦ Query.run_ne_arity c (binary_of_plan h) n state⟩

theorem plan_conditions_disjunction :
    (Predicate.logical .or [.equals "number" "1", .equals "hash" "'a'"]).Binary ∧
      (Expr.binary .and (.binary .lt (.name [] ⟨"number", none⟩) (.literal (.number "1" false)))
        (.literal (.number "2" false))).predicate? = .error (.unsupportedOperator "<") ∧
      ∃ p, plan "SELECT * FROM blocks WHERE (number = 1) OR 'a' = blocks.hash" = .ok p ∧
        ∀ n state, (Query.run Ledger.client p state).1 ≠ .error (.invalidOperatorArity n) := by
  have states : (Expr.binary .or
      (.nested (.binary .eq (.name [] ⟨"number", none⟩) (.literal (.number "1" false))))
      (.binary .eq (.literal (.text "a")) (.name [⟨"blocks", none⟩] ⟨"hash", none⟩))).States
      (.logical .or [.equals "number" "1", .equals "hash" "'a'"]) :=
    .or (.nested (.literalRight _ (.name _ _))) (.literalLeft _ (.name _ _))
  have planned :
      (plan "SELECT * FROM blocks WHERE (number = 1) OR 'a' = blocks.hash").toOption.isSome := by
    decide +kernel
  refine ⟨(plan_conditions _ "").2.1 _ states, ((plan_conditions _ "").2.2.1 _).2 ?_, ?_⟩
  · exact .cons (Expr.not_refused_logical (by decide) _ _) (.head (.operator _ _ (by decide)))
  · cases hp : plan "SELECT * FROM blocks WHERE (number = 1) OR 'a' = blocks.hash" with
    | error error =>
      rw [hp] at planned
      cases planned
    | ok p => exact ⟨p, rfl, (plan_conditions (.other "") _).2.2.2 p hp Ledger.client⟩

end Sql

end LedgerQuery
