import LedgerQuery.Sql.Planner
import Mathlib.Data.List.Forall2
import Mathlib.Data.Option.Basic

/-!
# What a plan keeps of a statement

The plan that a query means, said part by part and without a word on errors
(`Statement.Query.Means`). Planning succeeds exactly where a query means a plan, and gives this plan
(`Statement.Query.plan?_eq_ok_iff`).

Many parts of a statement do not occur in its meaning: how repeated rows or repeated arguments are
treated, the conditions and windows of calls, where rows without a value go, what is left out of
`*`. They are neither kept nor refused: a query means what it means without them
(`Statement.Query.means_bare_iff`).
-/

namespace LedgerQuery.Sql

open Query (Plan Predicate SelectItem Selected Operand OrderItem Having)

/-! ## Results that may fail -/

/-- A step after another one succeeds if the first does and the step on its result does. -/
theorem bind_eq_ok_iff {α β ε : Type} {x : Except ε α} {f : α → Except ε β} {b : β} :
    x >>= f = .ok b ↔ ∃ a, x = .ok a ∧ f a = .ok b := by
  cases x with
  | error e => exact ⟨fun h ↦ (nomatch h), fun ⟨_, h, _⟩ ↦ (nomatch h)⟩
  | ok a => exact ⟨fun h ↦ ⟨a, rfl, h⟩, fun ⟨_, h, hb⟩ ↦ Except.ok.inj h ▸ hb⟩

section Traversals

variable {α β ε : Type} {f : α → Except ε β} {r : α → β → Prop}

/-- A list of steps gives the results that their relation allows, place by place. -/
theorem list_mapM_eq_ok_iff (hf : ∀ a b, f a = .ok b ↔ r a b) {as : List α} {bs : List β} :
    as.mapM f = .ok bs ↔ List.Forall₂ r as bs := by
  induction as generalizing bs with
  | nil =>
    constructor
    · rintro ⟨⟩
      exact .nil
    · rintro ⟨⟩
      rfl
  | cons a as ih =>
    rw [List.mapM_cons]
    simp only [bind_eq_ok_iff, hf, ih]
    constructor
    · rintro ⟨b, hb, bs, hbs, ⟨⟩⟩
      exact .cons hb hbs
    · rintro (_ | ⟨hb, hbs⟩)
      exact ⟨_, hb, _, hbs, rfl⟩

/-- A step that may be left out gives the result that its relation allows, or none. -/
theorem option_mapM_eq_ok_iff (hf : ∀ a b, f a = .ok b ↔ r a b) {a : Option α} {b : Option β} :
    a.mapM f = .ok b ↔ Option.Rel r a b := by
  cases a with
  | none =>
    constructor
    · rintro ⟨⟩
      exact .none
    · rintro ⟨⟩
      rfl
  | some a =>
    have hm : (some a).mapM f = some <$> f a := rfl
    rw [hm]
    constructor
    · intro h
      cases ha : f a with
      | error e => rw [ha] at h; cases h
      | ok b =>
        rw [ha] at h
        cases h
        exact .some ((hf a b).1 ha)
    · rintro (⟨hb⟩ | _)
      rw [(hf a _).2 hb]
      rfl

end Traversals

/-! ## Expressions -/

/-- An operand as an entry of a select list. -/
def selectedOf : Operand → Selected
  | .column name => .column name
  | .call c => .call c

namespace Expr

/-- An expression that is a name, perhaps in parentheses, and the column that it names: the last
part of the name. -/
inductive Names : Expr → String → Prop
  | name (qualifier : List Ident) (last : Ident) : Names (.name qualifier last) last.value
  | nested {e : Expr} {column : String} (inside : Names e column) : Names (.nested e) column

/-- A call on one column or on `*`. Of its frame only the name of the function counts. -/
inductive Calls : Expr → Query.Call → Prop
  | star (f : Frame) : Calls (.callStar f) ⟨renderName f.name, .star⟩
  | column (f : Frame) {e : Expr} {column : String} (argument : Names e column) :
      Calls (.call f e) ⟨renderName f.name, .column column⟩

/-- The column or the aggregate that an expression is. -/
inductive Denotes : Expr → Operand → Prop
  | column {e : Expr} {column : String} (name : Names e column) : Denotes e (.column column)
  | call {e : Expr} {c : Query.Call} (call : Calls e c) : Denotes e (.call c)

/-- The condition on records that an expression states. The literal of a comparison may stand on
either side. -/
inductive States : Expr → Predicate → Prop
  | nested {e : Expr} {p : Predicate} (inside : States e p) : States (.nested e) p
  | and {l r : Expr} {p q : Predicate} (left : States l p) (right : States r q) :
      States (.binary .and l r) (.logical .and [p, q])
  | or {l r : Expr} {p q : Predicate} (left : States l p) (right : States r q) :
      States (.binary .or l r) (.logical .or [p, q])
  | literalRight {e : Expr} {column : String} (v : Literal) (name : Names e column) :
      States (.binary .eq e (.literal v)) (.equals column v.render)
  | literalLeft {e : Expr} {column : String} (v : Literal) (name : Names e column) :
      States (.binary .eq (.literal v) e) (.equals column v.render)

/-- The condition on groups that an expression states. -/
inductive Requires : Expr → Having → Prop
  | nested {e : Expr} {h : Having} (inside : Requires e h) : Requires (.nested e) h
  | compares {e : Expr} {x : Operand} {op : BinaryOp} {c : Query.Comparison} (v : Literal)
      (operator : op.comparison? = some c) (target : Denotes e x) :
      Requires (.binary op e (.literal v)) ⟨x, c, v.render⟩

/-- An expression is read as a column if and only if it names one. -/
theorem column?_eq_ok_iff {e : Expr} {column : String} :
    e.column? = .ok column ↔ e.Names column := by
  induction e with
  | name qualifier last =>
    constructor
    · rintro ⟨⟩
      exact .name qualifier last
    · rintro ⟨⟩
      rfl
  | nested e ih =>
    rw [column?, ih]
    constructor
    · exact .nested
    · rintro (_ | ⟨h⟩)
      exact h
  | _ => exact ⟨fun h ↦ (nomatch h), fun h ↦ (nomatch h)⟩

/-- An expression is read as a call if and only if it calls a function. -/
theorem call?_eq_ok_iff {e : Expr} {c : Query.Call} : e.call? = .ok c ↔ e.Calls c := by
  cases e with
  | callStar f =>
    constructor
    · rintro ⟨⟩
      exact .star f
    · rintro ⟨⟩
      rfl
  | call f e =>
    rw [call?, bind_eq_ok_iff]
    constructor
    · rintro ⟨column, hc, ⟨⟩⟩
      exact .column f (column?_eq_ok_iff.1 hc)
    · rintro (_ | ⟨_, hc⟩)
      exact ⟨_, column?_eq_ok_iff.2 hc, rfl⟩
  | _ => exact ⟨fun h ↦ (nomatch h), fun h ↦ (nomatch h)⟩

theorem Names.isCall {e : Expr} {column : String} (h : e.Names column) : e.isCall = false := by
  cases h <;> rfl

theorem Calls.isCall {e : Expr} {c : Query.Call} (h : e.Calls c) : e.isCall = true := by
  cases h <;> rfl

/-- An expression is read as an operand if and only if it denotes one. -/
theorem operand?_eq_ok_iff {e : Expr} {x : Operand} : e.operand? = .ok x ↔ e.Denotes x := by
  rw [operand?]
  constructor
  · intro h
    split at h
    · obtain ⟨c, hc, ⟨⟩⟩ := bind_eq_ok_iff.1 h
      exact .call (call?_eq_ok_iff.1 hc)
    · obtain ⟨column, hc, ⟨⟩⟩ := bind_eq_ok_iff.1 h
      exact .column (column?_eq_ok_iff.1 hc)
  · rintro (hc | hc)
    · rw [hc.isCall, column?_eq_ok_iff.2 hc]
      rfl
    · rw [hc.isCall, call?_eq_ok_iff.2 hc]
      rfl

/-- In a select list an expression is what it is elsewhere. -/
theorem selected?_eq (e : Expr) : e.selected? = e.operand?.map selectedOf := by
  rw [selected?, operand?]
  split
  · cases e.call? <;> rfl
  · cases e.column? <;> rfl

/-- What is selected is read as operands are, but for a column named `*`. -/
theorem selected?_eq_ok_iff {e : Expr} {x : Selected} :
    e.selected? = .ok x ↔ ∃ y, e.Denotes y ∧ selectedOf y = x := by
  simp only [selected?_eq, ← operand?_eq_ok_iff]
  cases e.operand? <;> simp [Except.map]

/-- Literals are read as they are shown, and nothing else is read as one. -/
theorem literal?_eq_ok_iff {e : Expr} {value : String} :
    e.literal? = .ok value ↔ ∃ v, e = .literal v ∧ v.render = value := by
  cases e <;> simp [literal?]

theorem sides_literal (v : Literal) (r : Expr) : sides (.literal v) r = (r, .literal v) := rfl

theorem sides_of_names {e : Expr} {column : String} (h : e.Names column) (r : Expr) :
    sides e r = (e, r) := by
  cases h <;> rfl

/-- An equality is read as a condition if and only if it states one. -/
theorem equality_eq_ok_iff {l r : Expr} {p : Predicate} :
    (Expr.binary .eq l r).predicate? = .ok p ↔ (Expr.binary .eq l r).States p := by
  rw [predicate?]
  constructor
  · intro h
    obtain ⟨column, hcolumn, h⟩ := bind_eq_ok_iff.1 h
    obtain ⟨value, hvalue, ⟨⟩⟩ := bind_eq_ok_iff.1 h
    have hc := column?_eq_ok_iff.1 hcolumn
    obtain ⟨v, hv, rfl⟩ := literal?_eq_ok_iff.1 hvalue
    cases l with
    | literal u =>
      have hu : u = v := Expr.literal.inj hv
      exact hu ▸ .literalLeft u hc
    | _ =>
      have hr : r = .literal v := hv
      exact hr ▸ .literalRight v hc
  · rintro (_ | _ | _ | ⟨v, hc⟩ | ⟨v, hc⟩)
    · rw [sides_of_names hc]
      dsimp only
      rw [column?_eq_ok_iff.2 hc]
      rfl
    · rw [sides_literal]
      dsimp only
      rw [column?_eq_ok_iff.2 hc]
      rfl

/-- An expression is read as a condition on records if and only if it states it. -/
theorem predicate?_eq_ok_iff {e : Expr} {p : Predicate} : e.predicate? = .ok p ↔ e.States p := by
  induction e generalizing p with
  | nested e ih =>
    rw [predicate?, ih]
    constructor
    · exact .nested
    · rintro (⟨h⟩ | _)
      exact h
  | binary op l r ihl ihr =>
    cases op with
    | and =>
      rw [predicate?]
      simp only [bind_eq_ok_iff, ihl, ihr]
      constructor
      · rintro ⟨p, hp, q, hq, ⟨⟩⟩
        exact .and hp hq
      · rintro (_ | ⟨hp, hq⟩)
        exact ⟨_, hp, _, hq, rfl⟩
    | or =>
      rw [predicate?]
      simp only [bind_eq_ok_iff, ihl, ihr]
      constructor
      · rintro ⟨p, hp, q, hq, ⟨⟩⟩
        exact .or hp hq
      · rintro (_ | _ | ⟨hp, hq⟩)
        exact ⟨_, hp, _, hq, rfl⟩
    | eq => exact equality_eq_ok_iff
    | _ => exact ⟨fun h ↦ (nomatch h), fun h ↦ (nomatch h)⟩
  | _ => exact ⟨fun h ↦ (nomatch h), fun h ↦ (nomatch h)⟩

/-- An expression is read as a condition on groups if and only if it requires it. -/
theorem having?_eq_ok_iff {e : Expr} {h : Having} : e.having? = .ok h ↔ e.Requires h := by
  induction e with
  | nested e ih =>
    rw [having?, ih]
    constructor
    · exact .nested
    · rintro (⟨h⟩ | _)
      exact h
  | binary op l r =>
    rw [having?]
    cases hop : op.comparison? with
    | none =>
      constructor
      · rintro ⟨⟩
      · rintro (_ | ⟨_, operator, _⟩)
        cases hop.symm.trans operator
    | some c =>
      simp only [bind_eq_ok_iff, operand?_eq_ok_iff, literal?_eq_ok_iff]
      constructor
      · rintro ⟨x, hx, _, ⟨v, rfl, rfl⟩, ⟨⟩⟩
        exact .compares v hop hx
      · rintro (_ | ⟨v, operator, hx⟩)
        cases hop.symm.trans operator
        exact ⟨_, hx, _, ⟨v, rfl, rfl⟩, rfl⟩
  | _ => exact ⟨fun h ↦ (nomatch h), fun h ↦ (nomatch h)⟩

end Expr

/-! ## Parts of a query -/

/-- What an entry of a select list selects, and under which alias. -/
inductive Entry.Selects : Entry → SelectItem → Prop
  | plain {e : Expr} {x : Operand} (what : e.Denotes x) : Selects (.plain e) ⟨selectedOf x, none⟩
  | named {e : Expr} {x : Operand} (label : Ident) (what : e.Denotes x) :
      Selects (.named e label) ⟨selectedOf x, some label.value⟩
  | star (options : String) : Selects (.star options) ⟨.star, none⟩

/-- What rows are ordered by, and whether they go down. -/
structure SortItem.Orders (i : SortItem) (o : OrderItem) : Prop where
  what : i.expr.Denotes o.expr
  down : o.direction = .desc ↔ i.ascending = some false

/-- The columns that rows are grouped by. -/
inductive GroupBy.Lists : GroupBy → Option (List String) → Prop
  | nothing (modifiers : List String) : Lists (.exprs [] modifiers) none
  | columns {es : List Expr} {columns : List String} (modifiers : List String) (some : es ≠ [])
      (names : List.Forall₂ Expr.Names es columns) : Lists (.exprs es modifiers) columns

/-- The number that a limit sets, if it sets any. No rows are left out before it. -/
inductive Limit.Sets : Limit → Option Nat → Prop
  | nothing (per : List Expr) : Sets (.upTo none none per) none
  | rows {e : Expr} {n : Nat} (per : List Expr)
      (number : Number.decimal? (2 ^ 64) e.render = some n) :
      Sets (.upTo (some e) none per) (some n)

/-- The plan of a selection from one table, to which no other is joined. -/
structure Select.Means (s : Select) (p : Plan) : Prop where
  table : ∃ f name, s.tables = [⟨f, []⟩] ∧ f.kind = .table name ∧
    p.table = Text.strip (fun c ↦ c == '"' || c == '`') (renderName name)
  projection : List.Forall₂ Entry.Selects s.entries p.projection
  selection : Option.Rel Expr.States s.condition p.selection
  groupBy : s.groupBy.Lists p.groupBy
  having : Option.Rel Expr.Requires s.having p.having

/-- The plan of a query. -/
structure Statement.Query.Means (q : Statement.Query) (p : Plan) : Prop where
  body : ∃ s, q.body = .select s ∧ s.Means p
  orderBy : Option.Rel (List.Forall₂ SortItem.Orders) q.orderBy p.orderBy
  limit : ∃ n, Option.Rel Limit.Sets q.limit n ∧ p.limit = n.join

/-- An entry is read as an item if and only if it selects it. -/
theorem Entry.item?_eq_ok_iff {e : Entry} {item : SelectItem} :
    e.item? = .ok item ↔ e.Selects item := by
  cases e with
  | plain e =>
    rw [item?]
    simp only [bind_eq_ok_iff, Expr.selected?_eq_ok_iff]
    constructor
    · rintro ⟨_, ⟨x, hx, rfl⟩, ⟨⟩⟩
      exact .plain hx
    · rintro ⟨hx⟩
      exact ⟨_, ⟨_, hx, rfl⟩, rfl⟩
  | named e label =>
    rw [item?]
    simp only [bind_eq_ok_iff, Expr.selected?_eq_ok_iff]
    constructor
    · rintro ⟨_, ⟨x, hx, rfl⟩, ⟨⟩⟩
      exact .named label hx
    · rintro (_ | ⟨_, hx⟩)
      exact ⟨_, ⟨_, hx, rfl⟩, rfl⟩
  | star options =>
    constructor
    · rintro ⟨⟩
      exact .star options
    · rintro ⟨⟩
      rfl
  | qualifiedStar qualifier options => exact ⟨fun h ↦ (nomatch h), fun h ↦ (nomatch h)⟩

/-- An item of an order is read if and only if it orders by something. -/
theorem SortItem.item?_eq_ok_iff {i : SortItem} {o : OrderItem} : i.item? = .ok o ↔ i.Orders o := by
  rw [item?]
  simp only [bind_eq_ok_iff, Expr.operand?_eq_ok_iff]
  constructor
  · rintro ⟨x, hx, ⟨⟩⟩
    exact ⟨hx, by simp⟩
  · rintro ⟨what, down⟩
    refine ⟨_, what, ?_⟩
    obtain ⟨x, direction⟩ := o
    have hd : (if i.ascending == some false then Query.Direction.desc else .asc) = direction := by
      cases direction with
      | asc => simpa using down
      | desc => simpa using down
    rw [hd]

/-- What is grouped by is read if and only if it lists columns. -/
theorem GroupBy.columns?_eq_ok_iff {g : GroupBy} {columns : Option (List String)} :
    g.columns? = .ok columns ↔ g.Lists columns := by
  cases g with
  | all modifiers => exact ⟨fun h ↦ (nomatch h), fun h ↦ (nomatch h)⟩
  | exprs es modifiers =>
    cases es with
    | nil =>
      constructor
      · rintro ⟨⟩
        exact .nothing modifiers
      · rintro (_ | ⟨_, some, _⟩)
        · rfl
        · exact absurd rfl some
    | cons e es =>
      rw [columns?, bind_eq_ok_iff]
      · simp only [list_mapM_eq_ok_iff fun _ _ ↦ Expr.column?_eq_ok_iff]
        constructor
        · rintro ⟨columns, names, ⟨⟩⟩
          exact .columns modifiers (List.cons_ne_nil e es) names
        · rintro (_ | ⟨_, _, names⟩)
          exact ⟨_, names, rfl⟩
      · rintro ⟨⟩

/-- A limit is read if and only if it sets a number of rows. -/
theorem Limit.rows?_eq_ok_iff {l : Limit} {n : Option Nat} : l.rows? = .ok n ↔ l.Sets n := by
  cases l with
  | offsetFirst offset limit => exact ⟨fun h ↦ (nomatch h), fun h ↦ (nomatch h)⟩
  | upTo limit offset per =>
    cases offset with
    | some offset => exact ⟨fun h ↦ (nomatch h), fun h ↦ (nomatch h)⟩
    | none =>
      have number :
          ∀ (e : Expr) n, e.limit? = .ok n ↔ Number.decimal? (2 ^ 64) e.render = some n := by
        intro e n
        rw [Expr.limit?]
        cases Number.decimal? (2 ^ 64) e.render <;> simp
      rw [rows?, option_mapM_eq_ok_iff number]
      constructor
      · rintro (⟨h⟩ | _)
        · exact .rows per h
        · exact .nothing per
      · rintro (_ | ⟨_, h⟩)
        · exact .none
        · exact .some h

/-- A table is read from a query that selects from this one alone, without the quotes around its
name. -/
theorem Select.table?_eq_ok_iff {s : Select} {table : String} :
    s.table? = .ok table ↔ ∃ f name, s.tables = [⟨f, []⟩] ∧ f.kind = .table name ∧
      table = Text.strip (fun c ↦ c == '"' || c == '`') (renderName name) := by
  rw [table?]
  constructor
  · intro h
    split at h
    · cases h
    · next j hj =>
      obtain ⟨f, joins⟩ := j
      split at h
      · next hjoins =>
        split at h
        · next name hname =>
          cases h
          obtain rfl : joins = [] := List.isEmpty_iff.1 hjoins
          exact ⟨f, name, hj, hname, rfl⟩
        · cases h
      · cases h
    · cases h
  · rintro ⟨f, name, hs, hf, rfl⟩
    rw [hs]
    simp [hf]

/-- A query is planned where it means a plan, and to this plan. -/
theorem Statement.Query.plan?_eq_ok_iff {q : Statement.Query} {p : Plan} :
    q.plan? = .ok p ↔ q.Means p := by
  rw [plan?]
  cases hq : q.body with
  | other text =>
    constructor
    · rintro ⟨⟩
    · rintro ⟨⟨s, hs, -⟩, -, -⟩
      cases hq.symm.trans hs
  | select s =>
    simp only [bind_eq_ok_iff, Select.table?_eq_ok_iff,
      list_mapM_eq_ok_iff fun _ _ ↦ Entry.item?_eq_ok_iff,
      option_mapM_eq_ok_iff fun _ _ ↦ Expr.predicate?_eq_ok_iff, GroupBy.columns?_eq_ok_iff,
      option_mapM_eq_ok_iff fun _ _ ↦ Expr.having?_eq_ok_iff,
      option_mapM_eq_ok_iff fun _ _ ↦ list_mapM_eq_ok_iff fun _ _ ↦ SortItem.item?_eq_ok_iff,
      option_mapM_eq_ok_iff fun _ _ ↦ Limit.rows?_eq_ok_iff]
    constructor
    · rintro ⟨_, table, _, projection, _, selection, _, groupBy, _, having, _, orderBy, _, limit,
        ⟨⟩⟩
      exact ⟨⟨s, hq, table, projection, selection, groupBy, having⟩, orderBy, _, limit, rfl⟩
    · rintro ⟨⟨s', hs', table, projection, selection, groupBy, having⟩, orderBy, n, limit, hn⟩
      cases hq.symm.trans hs'
      obtain ⟨_, _, _, _, _, _, _⟩ := p
      cases hn
      exact ⟨_, table, _, projection, _, selection, _, groupBy, _, having, _, orderBy, _, limit,
        rfl⟩

/-! ## What is left out -/

/-- A call by its function and its argument alone. -/
def Expr.bareCall : Expr → Expr
  | .call f e => .call (.ofName f.name) e
  | .callStar f => .callStar (.ofName f.name)
  | e => e

/-- A condition on groups with nothing but the name of the function in its call. -/
def Expr.bareCondition : Expr → Expr
  | .nested e => .nested e.bareCondition
  | .binary op l r => .binary op l.bareCall r
  | e => e

def Entry.bare : Entry → Entry
  | .plain e => .plain e.bareCall
  | .named e label => .named e.bareCall label
  | .star _ => .star ""
  | .qualifiedStar qualifier _ => .qualifiedStar qualifier ""

def SortItem.bare (i : SortItem) : SortItem := ⟨i.expr.bareCall, i.ascending, none, none⟩

def Limit.bare : Limit → Limit
  | .upTo limit offset _ => .upTo limit offset []
  | l => l

def GroupBy.bare : GroupBy → GroupBy
  | .all _ => .all []
  | .exprs es _ => .exprs es []

def Joined.bare (j : Joined) : Joined := ⟨⟨j.factor.kind, "", none, ""⟩, j.joins⟩

def Select.bare (s : Select) : Select where
  distinct := none
  top := none
  entries := s.entries.map Entry.bare
  into := none
  tables := s.tables.map Joined.bare
  prewhere := none
  condition := s.condition
  groupBy := s.groupBy.bare
  clusterBy := []
  distributeBy := []
  sortBy := []
  having := s.having.map Expr.bareCondition
  windows := []
  qualify := none
  windowsFirst := false

def Body.bare : Body → Body
  | .select s => .select s.bare
  | .other text => .other text

/-- A query without the parts that do not occur in its meaning. -/
def Statement.Query.bare (q : Statement.Query) : Statement.Query where
  named := none
  body := q.body.bare
  orderBy := q.orderBy.map (List.map SortItem.bare)
  limit := q.limit.map Limit.bare
  settings := []
  fetch := none
  locks := []
  format := none

/-- A call without what the reader ignores denotes the same. -/
theorem Expr.denotes_bareCall_iff {e : Expr} {x : Operand} :
    e.bareCall.Denotes x ↔ e.Denotes x := by
  cases e with
  | call f e =>
    constructor
    · rintro (⟨⟨⟩⟩ | (_ | ⟨_, argument⟩))
      exact .call (.column f argument)
    · rintro (⟨⟨⟩⟩ | (_ | ⟨_, argument⟩))
      exact .call (.column (.ofName f.name) argument)
  | callStar f =>
    constructor
    · rintro (⟨⟨⟩⟩ | ⟨⟨⟩⟩)
      exact .call (.star f)
    · rintro (⟨⟨⟩⟩ | ⟨⟨⟩⟩)
      exact .call (.star (.ofName f.name))
  | _ => exact Iff.rfl

/-- A condition on groups without what the reader ignores requires the same. -/
theorem Expr.requires_bareCondition_iff {e : Expr} {h : Having} :
    e.bareCondition.Requires h ↔ e.Requires h := by
  induction e with
  | nested e ih =>
    constructor
    · rintro (⟨inside⟩ | _)
      exact .nested (ih.1 inside)
    · rintro (⟨inside⟩ | _)
      exact .nested (ih.2 inside)
  | binary op l r =>
    constructor
    · rintro (_ | ⟨v, operator, target⟩)
      exact .compares v operator (denotes_bareCall_iff.1 target)
    · rintro (_ | ⟨v, operator, target⟩)
      exact .compares v operator (denotes_bareCall_iff.2 target)
  | _ => exact Iff.rfl

/-- An entry without what the reader ignores selects the same. -/
theorem Entry.selects_bare_iff {e : Entry} {item : SelectItem} :
    e.bare.Selects item ↔ e.Selects item := by
  cases e with
  | plain e =>
    constructor
    · rintro ⟨what⟩
      exact .plain (Expr.denotes_bareCall_iff.1 what)
    · rintro ⟨what⟩
      exact .plain (Expr.denotes_bareCall_iff.2 what)
  | named e label =>
    constructor
    · rintro (_ | ⟨_, what⟩)
      exact .named label (Expr.denotes_bareCall_iff.1 what)
    · rintro (_ | ⟨_, what⟩)
      exact .named label (Expr.denotes_bareCall_iff.2 what)
  | star options =>
    constructor
    · rintro ⟨⟩
      exact .star options
    · rintro ⟨⟩
      exact .star ""
  | qualifiedStar qualifier options => exact ⟨fun h ↦ (nomatch h), fun h ↦ (nomatch h)⟩

theorem SortItem.orders_bare_iff {i : SortItem} {o : OrderItem} : i.bare.Orders o ↔ i.Orders o :=
  ⟨fun ⟨what, down⟩ ↦ ⟨Expr.denotes_bareCall_iff.1 what, down⟩,
    fun ⟨what, down⟩ ↦ ⟨Expr.denotes_bareCall_iff.2 what, down⟩⟩

/-- A limit without what the reader ignores sets the same number of rows. -/
theorem Limit.sets_bare_iff {l : Limit} {n : Option Nat} : l.bare.Sets n ↔ l.Sets n := by
  cases l with
  | upTo limit offset per =>
    constructor
    · rintro (_ | ⟨_, number⟩)
      · exact .nothing per
      · exact .rows per number
    · rintro (_ | ⟨_, number⟩)
      · exact .nothing []
      · exact .rows [] number
  | offsetFirst offset limit => exact Iff.rfl

/-- A list of columns without what the reader ignores lists the same columns. -/
theorem GroupBy.lists_bare_iff {g : GroupBy} {columns : Option (List String)} :
    g.bare.Lists columns ↔ g.Lists columns := by
  cases g with
  | all modifiers => exact ⟨fun h ↦ (nomatch h), fun h ↦ (nomatch h)⟩
  | exprs es modifiers =>
    constructor
    · rintro (_ | ⟨_, some, names⟩)
      · exact .nothing modifiers
      · exact .columns modifiers some names
    · rintro (_ | ⟨_, some, names⟩)
      · exact .nothing []
      · exact .columns [] some names

theorem rel_map_iff {α β : Type} {r : α → β → Prop} {f : α → α} (h : ∀ a b, r (f a) b ↔ r a b)
    {a : Option α} {b : Option β} : Option.Rel r (a.map f) b ↔ Option.Rel r a b := by
  cases a with
  | none => exact Iff.rfl
  | some a =>
    constructor
    · rintro ⟨hb⟩
      exact .some ((h _ _).1 hb)
    · rintro ⟨hb⟩
      exact .some ((h _ _).2 hb)

theorem forall₂_map_iff {α β : Type} {r : α → β → Prop} {f : α → α} (h : ∀ a b, r (f a) b ↔ r a b)
    {as : List α} {bs : List β} : List.Forall₂ r (as.map f) bs ↔ List.Forall₂ r as bs := by
  rw [List.forall₂_map_left_iff]
  simp only [h]

/-- What the reader ignores in a query does not change the table that it selects from. -/
theorem Select.from_bare_iff {s : Select} {table : String} :
    (∃ f name, s.bare.tables = [⟨f, []⟩] ∧ f.kind = .table name ∧
      table = Text.strip (fun c ↦ c == '"' || c == '`') (renderName name)) ↔
    ∃ f name, s.tables = [⟨f, []⟩] ∧ f.kind = .table name ∧
      table = Text.strip (fun c ↦ c == '"' || c == '`') (renderName name) := by
  constructor
  · rintro ⟨f, name, hs, hf, ht⟩
    obtain ⟨j, hj, hjf⟩ := List.map_eq_singleton_iff.1 hs
    obtain ⟨f', joins⟩ := j
    cases hjf
    exact ⟨f', name, hj, hf, ht⟩
  · rintro ⟨f, name, hs, hf, ht⟩
    refine ⟨⟨f.kind, "", none, ""⟩, name, ?_, hf, ht⟩
    rw [bare, hs]
    rfl

/-- A query without what the reader ignores means the same plan. -/
theorem Select.means_bare_iff {s : Select} {p : Plan} : s.bare.Means p ↔ s.Means p := by
  constructor
  · rintro ⟨table, projection, selection, groupBy, having⟩
    exact ⟨from_bare_iff.1 table, (forall₂_map_iff fun _ _ ↦ Entry.selects_bare_iff).1 projection,
      selection, GroupBy.lists_bare_iff.1 groupBy,
      (rel_map_iff fun _ _ ↦ Expr.requires_bareCondition_iff).1 having⟩
  · rintro ⟨table, projection, selection, groupBy, having⟩
    exact ⟨from_bare_iff.2 table, (forall₂_map_iff fun _ _ ↦ Entry.selects_bare_iff).2 projection,
      selection, GroupBy.lists_bare_iff.2 groupBy,
      (rel_map_iff fun _ _ ↦ Expr.requires_bareCondition_iff).2 having⟩

/-- A query means what it means without the parts that its meaning has no place for. -/
theorem Statement.Query.means_bare_iff {q : Statement.Query} {p : Plan} :
    q.bare.Means p ↔ q.Means p := by
  have orders : ∀ (is : List SortItem) os,
      List.Forall₂ SortItem.Orders (is.map SortItem.bare) os ↔ List.Forall₂ SortItem.Orders is os :=
    fun _ _ ↦ forall₂_map_iff fun _ _ ↦ SortItem.orders_bare_iff
  have body : (∃ s, q.bare.body = .select s ∧ s.Means p) ↔ ∃ s, q.body = .select s ∧ s.Means p := by
    rw [bare]
    cases q.body with
    | other text => exact ⟨fun ⟨_, h, _⟩ ↦ (nomatch h), fun ⟨_, h, _⟩ ↦ (nomatch h)⟩
    | select s =>
      constructor
      · rintro ⟨_, ⟨⟩, h⟩
        exact ⟨s, rfl, Select.means_bare_iff.1 h⟩
      · rintro ⟨_, ⟨⟩, h⟩
        exact ⟨s.bare, rfl, Select.means_bare_iff.2 h⟩
  constructor
  · rintro ⟨hbody, orderBy, n, limit, hn⟩
    exact ⟨body.1 hbody, (rel_map_iff orders).1 orderBy, n,
      (rel_map_iff fun _ _ ↦ Limit.sets_bare_iff).1 limit, hn⟩
  · rintro ⟨hbody, orderBy, n, limit, hn⟩
    exact ⟨body.2 hbody, (rel_map_iff orders).2 orderBy, n,
      (rel_map_iff fun _ _ ↦ Limit.sets_bare_iff).2 limit, hn⟩

/-! ## Texts -/

/-- The query of a text that holds nothing else. -/
def query? (sql : String) : Option Statement.Query :=
  match statements? sql with
  | some [.query q] => some q
  | _ => none

/-- A text is planned if and only if it is one query and this means the plan. -/
theorem plan_eq_ok_iff_query? {sql : String} {p : Plan} :
    plan sql = .ok p ↔ ∃ q, query? sql = some q ∧ q.Means p := by
  rw [plan, query?]
  rcases statements? sql with _ | (_ | ⟨s, _ | ⟨s', ss⟩⟩)
  · simp
  · simp
  · cases s with
    | query q =>
      have hq : (Statement.query q).plan? = q.plan? := rfl
      simp [hq, Statement.Query.plan?_eq_ok_iff]
    | other text => simp [Statement.plan?]
  · simp

/-- Texts whose queries differ in nothing but such parts have one plan. -/
theorem plan_eq_ok_iff_of_bare {sql sql' : String}
    (h : (query? sql).map Statement.Query.bare = (query? sql').map Statement.Query.bare)
    {p : Plan} :
    plan sql = .ok p ↔ plan sql' = .ok p := by
  have means : ∀ sql, plan sql = .ok p ↔
      ∃ q, (query? sql).map Statement.Query.bare = some q ∧ q.Means p := by
    intro sql
    rw [plan_eq_ok_iff_query?]
    constructor
    · rintro ⟨q, hq, hp⟩
      exact ⟨q.bare, by rw [hq]; rfl, Statement.Query.means_bare_iff.2 hp⟩
    · rintro ⟨_, hbare, hp⟩
      obtain ⟨q, hq, rfl⟩ := Option.map_eq_some_iff.1 hbare
      exact ⟨q, hq, Statement.Query.means_bare_iff.1 hp⟩
  rw [means, means, h]

/-- A text is planned where it holds one query and nothing else, and to what this query means. What
the meaning has no place for is left out: it is neither refused nor does it change the plan. -/
theorem plan_eq_ok_iff_means (sql : String) (p : Plan) :
    (plan sql = .ok p ↔ ∃ q, query? sql = some q ∧ q.Means p) ∧
      ∀ q : Statement.Query, q.Means p ↔ q.bare.Means p :=
  ⟨plan_eq_ok_iff_query?, fun _ ↦ Statement.Query.means_bare_iff.symm⟩

/-- A plan does not tell whether repeated rows are to be removed. -/
theorem plan_distinct :
    ∃ p, plan "SELECT DISTINCT gas FROM transactions WHERE blocknumber = 1" = .ok p ∧
      plan "SELECT gas FROM transactions WHERE blocknumber = 1" = .ok p := by
  have bare : (query? "SELECT DISTINCT gas FROM transactions WHERE blocknumber = 1").map
        Statement.Query.bare =
      (query? "SELECT gas FROM transactions WHERE blocknumber = 1").map Statement.Query.bare := by
    decide +kernel
  have planned : (plan "SELECT gas FROM transactions WHERE blocknumber = 1").toOption.isSome := by
    decide +kernel
  cases hp : plan "SELECT gas FROM transactions WHERE blocknumber = 1" with
  | error e =>
    rw [hp] at planned
    cases planned
  | ok p => exact ⟨p, (plan_eq_ok_iff_of_bare bare).2 hp, rfl⟩

end LedgerQuery.Sql
