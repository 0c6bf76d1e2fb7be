import LedgerQuery.Proofs.AliasColumns

/-!
# Plans without capitals

A plan is the same up to letter case as the one in which every name has its ASCII letters in lower
case (`Plan.folded`).  Both bind and resolve names alike, make the same lookups (`evaluate_folded`)
and have the same slots but for their headers (`Layout.build_folded`), and where one is refused, so
is the other, for the same name as each spells it (`folding`).  The one difference on the way is
that operands which only their spelling tells apart are carried along twice, as far as the layout,
which has one slot for them (`Layout.carry_eraseDups`).
-/

namespace LedgerQuery.Query

open Chain
open Node (Client Lookup)

/-! ## Plans without capitals -/

def Argument.folded : Argument → Argument
  | .column name => .column (Text.fold name)
  | .star => .star

def Call.folded (c : Call) : Call := ⟨Text.fold c.function, c.argument.folded⟩

def Selected.folded : Selected → Selected
  | .column name => .column (Text.fold name)
  | .call c => .call c.folded
  | .star => .star

def SelectItem.folded (item : SelectItem) : SelectItem :=
  ⟨item.expr.folded, item.label.map Text.fold⟩

def Operand.folded : Operand → Operand
  | .column name => .column (Text.fold name)
  | .call c => .call c.folded

def OrderItem.folded (item : OrderItem) : OrderItem := { item with expr := item.expr.folded }

/-- Literals keep their spelling. -/
def Predicate.folded : Predicate → Predicate
  | .equals column value => .equals (Text.fold column) value
  | .logical op ps => .logical op (ps.map folded)

def Having.folded (h : Having) : Having := { h with target := h.target.folded }

/-- A plan with the ASCII letters of all its names in lower case. -/
def Plan.folded (p : Plan) : Plan where
  projection := p.projection.map SelectItem.folded
  table := Text.fold p.table
  selection := p.selection.map Predicate.folded
  groupBy := p.groupBy.map (List.map Text.fold)
  having := p.having.map Having.folded
  orderBy := p.orderBy.map (List.map OrderItem.folded)
  limit := p.limit

/-- Two plans that differ in the case of the ASCII letters of their names only. -/
def Plan.SameNames (p q : Plan) : Prop := p.folded = q.folded

/-- An error with the name in it, if it is one that the plan spells, in lower case. -/
def Error.folded : Error → Error
  | .unknownTable name => .unknownTable (Text.fold name)
  | .unsupportedFilterColumn column t => .unsupportedFilterColumn (Text.fold column) t
  | .ambiguousAlias name => .ambiguousAlias (Text.fold name)
  | .ungroupedColumn name => .ungroupedColumn (Text.fold name)
  | .unknownColumn column t => .unknownColumn (Text.fold column) t
  | .invalidFilterValue column value => .invalidFilterValue (Text.fold column) value
  | e => e

/-- What an outcome becomes for a plan without capitals. -/
def folding {α β : Type} (f : α → β) : Except Error α → Except Error β
  | .ok a => .ok (f a)
  | .error e => .error e.folded

section Names

variable {t : Table}

/-- The name of a call does not depend on the case of its function and its argument. -/
@[simp] theorem Call.name_folded (c : Call) : c.folded.name = c.name := by
  obtain ⟨function, _ | _⟩ := c
  · simp only [Call.name, folded, Argument.folded, Text.lower_fold]
  · simp only [Call.name, folded, Argument.folded, Text.lower_fold]

@[simp] theorem Selected.name?_folded (expr : Selected) : expr.folded.name? = expr.name? := by
  cases expr with
  | column name => exact congrArg some (Text.lower_fold name)
  | call c => exact congrArg some c.name_folded
  | star => rfl

/-- The name of an operand in lower case does not depend on its spelling. -/
@[simp] theorem Operand.lower_name_folded (x : Operand) :
    Text.lower x.folded.name = Text.lower x.name := by
  cases x with
  | column name => exact Text.lower_fold name
  | call c => exact congrArg Text.lower c.name_folded

/-- The name of a call is spelled in lower case already. -/
theorem Call.fold_name (c : Call) : Text.fold c.name = c.name := Text.fold_of_lower c.lower_name

/-- A column is found under any spelling of its name, and reported under the one that is asked
for. -/
theorem column_folded (name : String) : column t (Text.fold name) = folding id (column t name) := by
  rw [column, column, Table.column?_fold]
  cases t.column? name <;> rfl

theorem fold_of_column {name c : String} (h : column t name = .ok c) : Text.fold c = c :=
  Table.fold_of_mem_columns (column_eq_ok_iff.1 h).2

/-- The aggregate that a call on a column stands for, with its errors. -/
theorem ofCall_column (function name : String) :
    Aggregate.ofCall t ⟨function, .column name⟩ =
      match Summary.ofName? function with
      | none => .error (.unsupportedFunction (Call.name ⟨function, .column name⟩))
      | some summary =>
        match column t name with
        | .ok column => .ok ⟨summary, some column⟩
        | .error e => .error e := by
  rw [Aggregate.ofCall]
  rcases Summary.ofName? function with _ | (_ | _ | _ | _ | _) <;> rfl

/-- A call stands for the same aggregate in every spelling. -/
theorem ofCall_folded (c : Call) :
    Aggregate.ofCall t c.folded = folding id (Aggregate.ofCall t c) := by
  obtain ⟨function, argument⟩ := c
  have summary : Summary.ofName? (Text.fold function) = Summary.ofName? function := by
    rw [Summary.ofName?, Summary.ofName?, Text.lower_fold]
  have name := Call.name_folded ⟨function, argument⟩
  rw [Call.folded] at name ⊢
  cases argument with
  | star =>
    rw [Aggregate.ofCall, Aggregate.ofCall, name]
    dsimp only [Argument.folded]
    rw [summary]
    rcases Summary.ofName? function with _ | (_ | _ | _ | _ | _) <;> rfl
  | column column =>
    rw [Argument.folded] at name ⊢
    rw [ofCall_column, ofCall_column, name, summary, column_folded]
    cases Summary.ofName? function with
    | none => rfl
    | some summary => cases Query.column t column <;> rfl

theorem noCalls_folded (c : Call) : Layout.noCalls c.folded = folding id (Layout.noCalls c) := by
  rw [Layout.noCalls, Layout.noCalls, c.name_folded]
  rfl

end Names

/-! ## Scopes -/

def Scope.folded (s : Scope) : Scope := { s with plan := s.plan.folded }

namespace Scope

/-- Aliases in another spelling are bound to the same columns, and the same ones are ambiguous. -/
theorem bindAliases_folded (aliases : List (String × String)) (items : List SelectItem) :
    bindAliases aliases (items.map SelectItem.folded) = folding id (bindAliases aliases items) := by
  induction items generalizing aliases with
  | nil => rfl
  | cons item items ih =>
    obtain ⟨expr, label⟩ := item
    rw [List.map_cons, bindAliases, bindAliases]
    dsimp only [SelectItem.folded]
    rw [Selected.name?_folded]
    cases label with
    | none => exact ih aliases
    | some a =>
      cases expr.name? with
      | none => exact ih aliases
      | some column =>
        dsimp only [Option.map_some]
        rw [Text.lower_fold]
        split
        · rfl
        · exact ih _

/-- A plan in another spelling has the scope of the plan, in this spelling. -/
theorem ofPlan_folded (p : Plan) : ofPlan p.folded = folding folded (ofPlan p) := by
  have names : (p.projection.map SelectItem.folded).filterMap (fun item ↦ item.expr.name?) =
      p.projection.filterMap fun item ↦ item.expr.name? := by
    rw [List.filterMap_map]
    exact congrArg (List.filterMap · p.projection) (funext fun item ↦ item.expr.name?_folded)
  rw [ofPlan, ofPlan]
  dsimp only [Plan.folded]
  rw [bindAliases_folded, names]
  cases bindAliases [] p.projection <;> rfl

variable {p : Plan} {s : Scope} {t : Table}

theorem groupBy_folded (s : Scope) : s.folded.groupBy = s.groupBy := by
  have lower : Text.lower ∘ Text.fold = Text.lower := funext Text.lower_fold
  rw [groupBy, groupBy]
  dsimp only [folded, Plan.folded]
  rw [Option.map_map, List.map_comp_map, lower]

theorem isGrouped_folded (s : Scope) : s.folded.isGrouped = s.isGrouped := by
  rw [isGrouped, isGrouped]
  dsimp only [folded, Plan.folded]
  rw [Option.isSome_map, List.any_map]
  congr 2
  funext item
  obtain ⟨expr, label⟩ := item
  cases expr <;> rfl

/-- The columns that are shown do not depend on the spelling of a plan. -/
theorem selectedIn_folded (s : Scope) (t : Table) : s.folded.selectedIn t = s.selectedIn t := by
  have stars : (s.folded.plan.projection.any fun item ↦ decide (item.expr = .star)) =
      s.plan.projection.any fun item ↦ decide (item.expr = .star) := by
    dsimp only [folded, Plan.folded]
    rw [List.any_map]
    congr 1
    funext ⟨expr, label⟩
    cases expr <;> rfl
  simp only [selectedIn, stars]
  rfl

/-- What a name stands for has no capitals. -/
theorem fold_resolve (hs : ofPlan p = .ok s) (name : String) :
    Text.fold (s.resolve name) = s.resolve name := by
  rw [resolve_ofPlan hs]
  obtain ⟨item, -, named⟩ | ⟨-, resolved⟩ := p.resolved_cases name
  · exact Text.fold_of_lower (Selected.lower_name? named)
  · rw [resolved, Text.fold_lower]

/-- Columns that are grouped by are spelled in lower case already. -/
theorem fold_groupBy (s : Scope) : (s.groupBy.getD []).map Text.fold = s.groupBy.getD [] := by
  rw [groupBy]
  cases s.plan.groupBy with
  | none => rfl
  | some names =>
    show (names.map Text.lower).map Text.fold = names.map Text.lower
    rw [List.map_map]
    exact List.map_congr_left fun name _ ↦ Text.fold_lower name

end Scope

/-! ## Conditions -/

section Evaluation

variable {σ : Type} {t : Table}

/-- The lookup for a literal does not depend on the spelling of the column. -/
theorem lookup_folded (column literal : String) :
    lookup t (Text.fold column) literal = folding id (lookup t column literal) := by
  have lower := Text.lower_fold column
  obtain ⟨l, hl, h⟩ | ⟨hn, hi, h⟩ | ⟨hc, hn, h⟩ := lookup_cases t column literal
  · rw [h]
    cases hl with
    | number hc hn => exact lookup_number (lower.trans hc) hn
    | identity hc => exact lookup_identity (lower.trans hc)
  · rw [h]
    rw [← lower] at hn hi
    exact lookup_column hn hi
  · rw [h]
    exact lookup_literal (lower.trans hc) hn

/-- What is fetched names no column, so that no error of it is spelled in another way. -/
theorem fold_fetch (c : Client σ) (l : Lookup) (state : σ) :
    (folding id (fetch c l state).1, (fetch c l state).2) = fetch c l state := by
  rw [fetch]
  rcases c l state with ⟨_ | _, _⟩ <;> rfl

/-- A condition without capitals makes the same lookups, and fails where the condition does. -/
theorem evaluate_folded (c : Client σ) (q : Predicate) (state : σ) :
    evaluate c t q.folded state =
      (folding id (evaluate c t q state).1, (evaluate c t q state).2) := by
  induction q using evaluate.induct generalizing state with
  | case1 column literal =>
    rw [Predicate.folded, evaluate_equals, evaluate_equals, lookup_folded]
    cases lookup t column literal with
    | error e => rfl
    | ok l => exact (fold_fetch c l state).symm
  | case2 op p q ihp ihq =>
    rw [Predicate.folded, List.map_cons, List.map_singleton, evaluate_pair, evaluate_pair, ihp]
    rcases evaluate c t p state with ⟨e | first, state₁⟩
    · rfl
    · dsimp only [folding, id]
      rw [ihq]
      rcases evaluate c t q state₁ with ⟨e | second, state₂⟩ <;> rfl
  | case3 op ps hps =>
    have hps' : ∀ p q, ps.map Predicate.folded = [p, q] → False := by
      intro p q h
      obtain ⟨p', rest, rfl, -, hrest⟩ := List.map_eq_cons_iff.1 h
      obtain ⟨q', rest, rfl, -, hrest⟩ := List.map_eq_cons_iff.1 hrest
      rw [List.map_eq_nil_iff.1 hrest] at hps
      exact hps p' q' rfl
    rw [Predicate.folded, evaluate_arity hps', evaluate_arity hps, List.length_map]
    rfl

end Evaluation

/-- Preparing a plan in another spelling gives the same lookups for the same table. -/
theorem prepare_folded (p : Plan) :
    prepare p.folded = folding (fun q ↦ (q.1.folded, q.2.1, q.2.2.folded)) (prepare p) := by
  rw [prepare, prepare, Scope.ofPlan_folded]
  cases Scope.ofPlan p with
  | error e => rfl
  | ok s =>
    dsimp only [folding, Plan.folded]
    rw [Table.ofName?_fold]
    cases Table.ofName? p.table with
    | none => rfl
    | some t => cases p.selection <;> rfl

/-! ## Orders -/

/-- Operands without capitals, each once: two spellings of one operand are one. -/
def distinctFolded (xs : List Operand) : List Operand := (xs.map Operand.folded).eraseDups

/-- One more operand is carried along if none that is there is spelled like it up to case. -/
theorem distinctFolded_concat (xs : List Operand) (x : Operand) :
    distinctFolded (xs ++ [x]) =
      if x.folded ∈ distinctFolded xs then distinctFolded xs
      else distinctFolded xs ++ [x.folded] := by
  rw [distinctFolded, List.map_append, List.map_singleton, Keyed.eraseDups_concat]
  simp only [distinctFolded, List.mem_eraseDups]

theorem mem_distinctFolded {xs : List Operand} {x : Operand} (h : x ∈ xs) :
    x.folded ∈ distinctFolded xs :=
  List.mem_eraseDups.2 (List.mem_map_of_mem h)

/-- An operand that is added is the same one up to case as one that is there, or it is added in
both. -/
theorem distinctFolded_addExtra (xs : List Operand) (extra : Option Operand) :
    distinctFolded (addExtra xs extra) =
      addExtra (distinctFolded xs) (extra.map Operand.folded) := by
  cases extra with
  | none => rfl
  | some x =>
    dsimp only [addExtra, Option.map_some]
    simp only [List.contains_iff_mem]
    split
    · next h => rw [if_pos (mem_distinctFolded h)]
    · exact distinctFolded_concat xs x

namespace Order

/-- An order without capitals: its keys have none, as names are resolved. -/
def folded (o : Order) : Order := ⟨o.keys, distinctFolded o.extras⟩

variable {selected : List String} {aliases : List (String × String)}

/-- What an operand carries along is spelled as the operand is. -/
theorem extra_folded {column : String} (hc : Text.fold column = column) (x : Operand) :
    extra column x.folded = (extra column x).folded := by
  cases x with
  | column name => exact congrArg Operand.column hc.symm
  | call c =>
    dsimp only [Operand.folded, extra, Call.folded]
    rw [Text.lower_fold, Text.fold_lower]

theorem resolve_name_folded (aliases : List (String × String)) (x : Operand) :
    resolve aliases x.folded.name = resolve aliases x.name := by
  rw [resolve, resolve, x.lower_name_folded]

/-- Adding one item to an order commutes with another spelling. -/
theorem add_folded (hr : ∀ name, Text.fold (resolve aliases name) = resolve aliases name)
    (o : Order) (item : OrderItem) :
    add selected aliases o.folded item.folded = (add selected aliases o item).folded := by
  have carried := extra_folded (hr item.expr.name) item.expr
  dsimp only [add, OrderItem.folded]
  rw [resolve_name_folded, Operand.lower_name_folded, carried]
  generalize extra (resolve aliases item.expr.name) item.expr = x
  generalize (selected.contains (resolve aliases item.expr.name) ||
    Keyed.has (Text.lower item.expr.name) aliases) = present
  cases present with
  | true => rfl
  | false =>
    simp only [Bool.false_or, List.contains_iff_mem, folded]
    refine congrArg (Order.mk _) ?_
    by_cases h : x ∈ o.extras
    · rw [if_pos h, if_pos (mem_distinctFolded h)]
    · rw [if_neg h, distinctFolded_concat]

/-- The order of a plan in another spelling has the same keys, and carries along the same
operands. -/
theorem ofItems_folded (hr : ∀ name, Text.fold (resolve aliases name) = resolve aliases name)
    (items : List OrderItem) :
    ofItems (items.map OrderItem.folded) selected aliases =
      (ofItems items selected aliases).folded := by
  induction items using List.reverseRecOn with
  | nil => rfl
  | append_singleton items item ih =>
    rw [List.map_append, List.map_singleton, ofItems_concat, ofItems_concat, ih, add_folded hr]

/-- A column that is carried along has no capitals. -/
theorem fold_of_mem_extras (hr : ∀ name, Text.fold (resolve aliases name) = resolve aliases name)
    (items : List OrderItem) :
    ∀ c, .column c ∈ (ofItems items selected aliases).extras → Text.fold c = c := by
  induction items using List.reverseRecOn with
  | nil => exact fun c hc ↦ absurd hc List.not_mem_nil
  | append_singleton items item ih =>
    intro c hc
    rw [ofItems_concat, add] at hc
    dsimp only at hc
    split at hc
    · exact ih c hc
    · rcases List.mem_append.1 hc with hc | hc
      · exact ih c hc
      · have hc := List.mem_singleton.1 hc
        cases hx : item.expr with
        | call _ => rw [hx] at hc; cases hc
        | column _ =>
          rw [hx] at hc
          cases hc
          exact hr _

end Order

/-- The order of a scope commutes with another spelling. -/
theorem Scope.order_folded {p : Plan} {s : Scope} (hs : ofPlan p = .ok s) (t : Table) :
    s.folded.order t = (s.order t).folded := by
  rw [Scope.order, Scope.order, ← Order.ofItems_folded (Scope.fold_resolve hs), selectedIn_folded]
  dsimp only [folded, Plan.folded]
  cases s.plan.orderBy <;> rfl

/-! ## Layouts -/

def Slot.folded (s : Slot) : Slot := { s with label := Text.fold s.label }

/-- A slot for a column in lower case differs in its label alone. -/
theorem Slot.named_folded {column : String} (hc : Text.fold column = column) (label : Option String)
    (content : Content) :
    named column (label.map Text.fold) content = (named column label content).folded := by
  cases label with
  | none => exact congrArg (Slot.mk column · content) hc.symm
  | some a => rfl

def Layout.folded (l : Layout) : Layout := ⟨l.slots.map Slot.folded, l.projected⟩

namespace Layout

variable {t : Table} {onCall : OnCall}

/-- Columns are found at the same places in slots with other labels. -/
theorem position?_folded (slots : List Slot) (column : String) :
    position? (slots.map Slot.folded) column = position? slots column := by
  rw [position?, position?, List.findIdx?_map]
  rfl

section Folded

variable (hc : ∀ c : Call, onCall c.folded = folding id (onCall c))

include hc

/-- An entry of a select list in another spelling is shown in the same slots, with its own
labels. -/
theorem ofItem_folded (item : SelectItem) :
    ofItem t onCall item.folded = folding (List.map Slot.folded) (ofItem t onCall item) := by
  obtain ⟨expr, label⟩ := item
  rw [ofItem, ofItem]
  cases expr with
  | column name =>
    dsimp only [SelectItem.folded, Selected.folded]
    rw [column_folded]
    cases h : column t name with
    | error e => rfl
    | ok c =>
      exact congrArg (fun s ↦ Except.ok [s]) (Slot.named_folded (fold_of_column h) label .field)
  | call c =>
    dsimp only [SelectItem.folded, Selected.folded]
    rw [hc, c.name_folded]
    cases onCall c with
    | error e => rfl
    | ok a =>
      exact congrArg (fun s ↦ Except.ok [s]) (Slot.named_folded c.fold_name label (.aggregate a))
  | star =>
    refine congrArg Except.ok ?_
    rw [List.map_map]
    exact List.map_congr_left fun c hc ↦
      Slot.named_folded (Table.fold_of_mem_columns hc) none .field

/-- A select list in another spelling is shown in the same slots, with its own labels. -/
theorem ofItems_folded (items : List SelectItem) :
    ofItems t onCall (items.map SelectItem.folded) =
      folding (List.map Slot.folded) (ofItems t onCall items) := by
  induction items with
  | nil => rfl
  | cons item items ih =>
    rw [List.map_cons, ofItems, ofItems, ofItem_folded hc]
    cases ofItem t onCall item with
    | error e => rfl
    | ok slots =>
      dsimp only [folding]
      rw [ih]
      cases ofItems t onCall items with
      | error e => rfl
      | ok rest => exact congrArg Except.ok List.map_append.symm

/-- An operand in another spelling is carried along in the same slot. -/
theorem ofOperand_folded (x : Operand) :
    ofOperand t onCall x.folded = folding Slot.folded (ofOperand t onCall x) := by
  cases x with
  | column name =>
    rw [Operand.folded, ofOperand, ofOperand, column_folded]
    cases h : column t name with
    | error e => rfl
    | ok c => exact congrArg Except.ok (Slot.named_folded (fold_of_column h) none .field)
  | call c =>
    rw [Operand.folded, ofOperand, ofOperand, hc, c.name_folded]
    cases onCall c with
    | error e => rfl
    | ok a => exact congrArg Except.ok (Slot.named_folded c.fold_name none (.aggregate a))

/-- Operands in another spelling are carried along in the same slots. -/
theorem carry_folded (slots : List Slot) (xs : List Operand) :
    carry t onCall (slots.map Slot.folded) (xs.map Operand.folded) =
      folding (List.map Slot.folded) (carry t onCall slots xs) := by
  induction xs generalizing slots with
  | nil => rfl
  | cons x xs ih =>
    rw [List.map_cons, carry, carry, ofOperand_folded hc]
    cases ofOperand t onCall x with
    | error e => rfl
    | ok s =>
      show (if (position? (slots.map Slot.folded) s.column).isSome then _ else _) =
        folding _ (if (position? slots s.column).isSome then _ else _)
      rw [position?_folded]
      split
      · exact ih slots
      · have next := ih (slots ++ [s])
        rw [List.map_append, List.map_singleton] at next
        exact next

end Folded

/-- Operands are carried along one list after another. -/
theorem carry_append (slots : List Slot) (xs ys : List Operand) :
    carry t onCall slots (xs ++ ys) =
      match carry t onCall slots xs with
      | .ok all => carry t onCall all ys
      | .error e => .error e := by
  induction xs generalizing slots with
  | nil => rfl
  | cons x xs ih =>
    rw [List.cons_append, carry, carry]
    cases ofOperand t onCall x with
    | error e => rfl
    | ok s =>
      dsimp only
      split
      · exact ih slots
      · exact ih _

/-- Operands that were carried along have a slot each. -/
theorem ofOperand_of_carry {slots all : List Slot} {xs : List Operand}
    (h : carry t onCall slots xs = .ok all) : ∀ x ∈ xs, ∃ s, ofOperand t onCall x = .ok s := by
  induction xs generalizing slots with
  | nil => exact fun x hx ↦ absurd hx List.not_mem_nil
  | cons x xs ih =>
    rw [carry] at h
    split at h
    · cases h
    · next s hs =>
      refine List.forall_mem_cons.2 ⟨⟨s, hs⟩, ?_⟩
      split at h
      · exact ih h
      · exact ih h

/-- An operand that comes a second time has its slot already. -/
theorem carry_of_mem {slots all : List Slot} {xs : List Operand}
    (h : carry t onCall slots xs = .ok all) {x : Operand} (hx : x ∈ xs) :
    carry t onCall all [x] = .ok all := by
  obtain ⟨s, hs⟩ := ofOperand_of_carry h x hx
  have present : (position? all s.column).isSome := by
    rw [position?_eq, List.isSome_idxOf?, column_of_ofOperand hs]
    exact mem_of_carry h x hx
  rw [carry, hs]
  exact if_pos present

/-- So operands may be given once only. -/
theorem carry_eraseDups (slots : List Slot) (xs : List Operand) :
    carry t onCall slots xs.eraseDups = carry t onCall slots xs := by
  induction xs using List.reverseRecOn with
  | nil => rfl
  | append_singleton xs x ih =>
    rw [Keyed.eraseDups_concat, carry_append]
    split
    · next hx =>
      rw [ih]
      cases h : carry t onCall slots xs with
      | error e => rfl
      | ok all => exact (carry_of_mem h hx).symm
    · rw [carry_append, ih]

/-- A layout does not depend on the spelling of what is shown and carried along, apart from its
labels, nor on operands that are repeated in another spelling. -/
theorem build_folded (hc : ∀ c : Call, onCall c.folded = folding id (onCall c))
    (select : List SelectItem) (extras : List Operand) :
    build t onCall (select.map SelectItem.folded) (distinctFolded extras) =
      folding folded (build t onCall select extras) := by
  rw [build, build, ofItems_folded hc]
  cases ofItems t onCall select with
  | error e => rfl
  | ok slots =>
    dsimp only [folding]
    rw [distinctFolded, carry_eraseDups, carry_folded hc]
    cases carry t onCall slots extras with
    | error e => rfl
    | ok all =>
      dsimp only [folding]
      rw [List.length_map]
      rfl

end Layout

end LedgerQuery.Query
