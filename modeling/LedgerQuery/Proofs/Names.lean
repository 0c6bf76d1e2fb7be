import LedgerQuery.Proofs.CellOrder
import LedgerQuery.Proofs.Keyed
import LedgerQuery.Proofs.Lowercase
import LedgerQuery.Query.Ordering

/-!
# What names stand for

A name read off the plan itself: the entry of the select list that has it as an alias, if there is
one, and otherwise the column of that name.  A scope resolves names in just this way
(`Scope.resolve_ofPlan`), and the keys of an order compare things as all entries of the list to
order by do, one after the other (`compareBy_keys_ofItems`).
-/

namespace LedgerQuery.Query

/-! ## Aliases -/

/-- Whether an entry of the select list has a name as its alias; `*` takes none. -/
def SelectItem.binds (item : SelectItem) (name : String) : Bool :=
  item.expr ≠ .star ∧ item.label.map Text.lower = some (Text.lower name)

/-- The column that a name stands for: of the entry with this alias, or with this name. -/
def Plan.resolved (p : Plan) (name : String) : String :=
  ((p.projection.find? fun item ↦ item.binds name).bind fun item ↦ item.expr.name?).getD
    (Text.lower name)

/-- A name that no entry has as its alias is the name of a column. -/
theorem Plan.resolved_of_not_binds {p : Plan} {name : String}
    (h : ∀ item ∈ p.projection, item.binds name = false) : p.resolved name = Text.lower name := by
  have hn : (p.projection.find? fun item ↦ item.binds name) = none :=
    List.find?_eq_none.2 fun item hi ↦ Bool.eq_false_iff.1 (h item hi)
  rw [Plan.resolved, hn]
  rfl

theorem Plan.resolved_of_unbound {p : Plan} {name : String}
    (h : ∀ item ∈ p.projection, ∀ a, item.label = some a → Text.lower a ≠ Text.lower name) :
    p.resolved name = Text.lower name := by
  refine resolved_of_not_binds fun item hi ↦ decide_eq_false fun ⟨_, hl⟩ ↦ ?_
  obtain ⟨a, ha, hla⟩ := Option.map_eq_some_iff.1 hl
  exact h item hi a ha hla

/-- The name of a call is in lower case. -/
theorem Call.lower_name (c : Call) : Text.lower c.name = c.name := by
  have paren : Unicode.Settled '(' := Unicode.settled_of_ascii (by decide) (by decide)
  have paren' : Unicode.Settled ')' := Unicode.settled_of_ascii (by decide) (by decide)
  have star : Unicode.Settled '*' := Unicode.settled_of_ascii (by decide) (by decide)
  apply Text.lower_of_settled
  intro d hd
  rw [Call.name] at hd
  simp only [String.toList_append, List.mem_append] at hd
  obtain ((hd | hd) | hd) | hd := hd
  · exact Text.settled_lower _ d hd
  · rw [List.mem_singleton.1 hd]; exact paren
  · split at hd
    · exact Text.settled_lower _ d hd
    · rw [List.mem_singleton.1 hd]; exact star
  · rw [List.mem_singleton.1 hd]; exact paren'

/-- The name of the column that an entry gives is in lower case. -/
theorem Selected.lower_name? {expr : Selected} {column : String} (h : expr.name? = some column) :
    Text.lower column = column := by
  cases expr with
  | column name => cases h; exact Text.lower_lower name
  | call c => cases h; exact c.lower_name
  | star => cases h

/-- The alias of an entry in lower case, with the column it stands for. -/
def SelectItem.binding? (item : SelectItem) : Option (String × String) :=
  match item.label, item.expr.name? with
  | some a, some column => some (Text.lower a, column)
  | _, _ => none

theorem SelectItem.binds_of_binding?_eq_some {item : SelectItem} {k column : String}
    (h : item.binding? = some (k, column)) (name : String) :
    item.expr.name? = some column ∧ item.binds name = (Text.lower name == k) := by
  obtain ⟨expr, _ | a⟩ := item
  · cases h
  · cases expr with
    | star => cases h
    | column _ => cases h; exact ⟨rfl, by simp [binds, Bool.beq_eq_decide_eq, eq_comm]⟩
    | call _ => cases h; exact ⟨rfl, by simp [binds, Bool.beq_eq_decide_eq, eq_comm]⟩

theorem SelectItem.binding?_of_binds {item : SelectItem} {name : String}
    (h : item.binds name = true) :
    ∃ column, item.expr.name? = some column ∧ item.binding? = some (Text.lower name, column) := by
  obtain ⟨hstar, hlabel⟩ := of_decide_eq_true h
  obtain ⟨a, ha, hlower⟩ := Option.map_eq_some_iff.1 hlabel
  have named : ∃ column, item.expr.name? = some column := by
    cases hx : item.expr with
    | star => exact absurd hx hstar
    | column name => exact ⟨_, rfl⟩
    | call c => exact ⟨_, rfl⟩
  obtain ⟨column, hc⟩ := named
  exact ⟨column, hc, by rw [binding?, ha, hc, ← hlower]⟩

theorem SelectItem.binds_of_binding?_eq_none {item : SelectItem} (h : item.binding? = none)
    (name : String) : item.binds name = false := by
  obtain ⟨expr, _ | a⟩ := item
  · exact decide_eq_false fun h ↦ nomatch h.2
  · cases expr with
    | star => exact decide_eq_false fun h ↦ h.1 rfl
    | column _ => cases h
    | call _ => cases h

namespace Scope

theorem bindAliases_eq_ok {items : List SelectItem} {aliases result : List (String × String)}
    (h : bindAliases aliases items = .ok result) :
    result = aliases ++ items.filterMap SelectItem.binding? := by
  induction items generalizing aliases with
  | nil =>
    cases h
    exact (List.append_nil _).symm
  | cons item items ih =>
    rw [bindAliases] at h
    split at h
    · next a column ha hc =>
      have hb : item.binding? = some (Text.lower a, column) := by
        rw [SelectItem.binding?, ha, hc]
      dsimp only at h
      split at h
      · cases h
      · rw [ih h, List.filterMap_cons_some hb, List.append_assoc, List.singleton_append]
    · next hn =>
      have hb : item.binding? = none := by
        rw [SelectItem.binding?]
        split
        · next a column ha hc => exact (hn a column ha hc).elim
        · rfl
      rw [ih h, List.filterMap_cons_none hb]

/-- A scope is about its plan, and its names are those of the select list. -/
theorem ofPlan_eq_ok {p : Plan} {s : Scope} (h : ofPlan p = .ok s) :
    s = ⟨p, p.projection.filterMap fun item ↦ item.expr.name?,
      p.projection.filterMap SelectItem.binding?⟩ := by
  rw [ofPlan] at h
  split at h
  · next aliases ha =>
    cases h
    rw [bindAliases_eq_ok ha, List.nil_append]
  · cases h

theorem plan_of_ofPlan {p : Plan} {s : Scope} (h : ofPlan p = .ok s) : s.plan = p := by
  rw [ofPlan_eq_ok h]

theorem lookup_bindings (items : List SelectItem) (name : String) :
    (items.filterMap SelectItem.binding?).lookup (Text.lower name) =
      (items.find? fun item ↦ item.binds name).bind fun item ↦ item.expr.name? := by
  induction items with
  | nil => rfl
  | cons item items ih =>
    cases hb : item.binding? with
    | none =>
      rw [List.filterMap_cons_none hb, ih, List.find?_cons_of_neg]
      rw [SelectItem.binds_of_binding?_eq_none hb]
      exact Bool.false_ne_true
    | some b =>
      obtain ⟨k, column⟩ := b
      obtain ⟨hc, hk⟩ := SelectItem.binds_of_binding?_eq_some hb name
      rw [List.filterMap_cons_some hb, List.lookup_cons, List.find?_cons, hk]
      cases Text.lower name == k with
      | true => exact hc.symm
      | false => exact ih

theorem resolve_ofPlan {p : Plan} {s : Scope} (h : ofPlan p = .ok s) (name : String) :
    s.resolve name = p.resolved name := by
  rw [ofPlan_eq_ok h, resolve, Query.resolve, lookup_bindings]
  rfl

/-- A name is among the aliases if an entry of the select list has it as its alias. -/
theorem has_bindings_eq_false_iff {items : List SelectItem} {name : String} :
    Keyed.has (Text.lower name) (items.filterMap SelectItem.binding?) = false ↔
      ∀ item ∈ items, item.binds name = false := by
  have unbound : (∀ item ∈ items, item.binds name = false) ↔
      (items.find? fun item ↦ item.binds name) = none := by
    simp only [List.find?_eq_none, Bool.not_eq_true]
  rw [Keyed.has, lookup_bindings, unbound]
  cases hf : items.find? fun item ↦ item.binds name with
  | none => simp
  | some item =>
    obtain ⟨column, hc, -⟩ := SelectItem.binding?_of_binds
      (List.find?_some (p := fun item : SelectItem ↦ item.binds name) hf)
    simp [hc]

theorem has_aliases_eq_false_iff {p : Plan} {s : Scope} (h : ofPlan p = .ok s) {name : String} :
    Keyed.has (Text.lower name) s.aliases = false ↔
      ∀ item ∈ p.projection, item.binds name = false := by
  rw [ofPlan_eq_ok h, has_bindings_eq_false_iff]

theorem nodup_bindAliases {items : List SelectItem} {aliases result : List (String × String)}
    (h : bindAliases aliases items = .ok result) (hn : (aliases.map Prod.fst).Nodup) :
    (result.map Prod.fst).Nodup := by
  induction items generalizing aliases with
  | nil =>
    cases h
    exact hn
  | cons item items ih =>
    rw [bindAliases] at h
    split at h
    · next a column _ _ =>
      dsimp only at h
      split at h
      · cases h
      · next hnew =>
        refine ih h ?_
        rw [List.map_append, List.map_singleton, List.nodup_append_comm, List.singleton_append]
        exact List.nodup_cons.2 ⟨fun hm ↦ hnew (Keyed.has_iff.2 hm), hn⟩
    · exact ih h hn

/-- A name is taken for the entry of the select list that has it as its alias, since no two have. -/
theorem resolved_of_binds {p : Plan} {s : Scope} (h : ofPlan p = .ok s) {item : SelectItem}
    {name : String} (hi : item ∈ p.projection) (hb : item.binds name = true) :
    item.expr.name? = some (p.resolved name) := by
  obtain ⟨column, hc, hbinding⟩ := SelectItem.binding?_of_binds hb
  have bound : (Text.lower name, column) ∈ p.projection.filterMap SelectItem.binding? :=
    List.mem_filterMap.2 ⟨item, hi, hbinding⟩
  rw [ofPlan] at h
  split at h
  · next aliases ha =>
    have nodup := nodup_bindAliases ha List.nodup_nil
    rw [bindAliases_eq_ok ha, List.nil_append] at nodup
    have found := (Keyed.lookup_eq_some_iff_mem nodup).2 bound
    rw [lookup_bindings] at found
    rw [hc, Plan.resolved, found]
    rfl
  · cases h

end Scope

/-! ## Entries to order by -/

theorem Order.ofItems_concat {selected : List String} {aliases : List (String × String)}
    (items : List OrderItem) (item : OrderItem) :
    ofItems (items ++ [item]) selected aliases =
      add selected aliases (ofItems items selected aliases) item := by
  simp only [ofItems, List.foldl_append, List.foldl_cons, List.foldl_nil]

theorem keys_ofItems (items : List OrderItem) (selected : List String)
    (aliases : List (String × String)) :
    (Order.ofItems items selected aliases).keys =
      Keyed.firsts (items.map fun item ↦ (resolve aliases item.expr.name, item.direction)) := by
  induction items using List.reverseRecOn with
  | nil => rfl
  | append_singleton items item ih =>
    rw [Order.ofItems_concat, Order.add, List.map_append, List.map_singleton,
      Keyed.firsts_concat, ← ih]

/-- Leaving out what a key was given again changes no comparison. -/
theorem compareBy_firsts {α κ : Type} [BEq κ] [LawfulBEq κ] (value : α → κ → Cell)
    (keys : List (κ × Direction)) : compareBy value (Keyed.firsts keys) = compareBy value keys := by
  induction keys using List.reverseRecOn with
  | nil => rfl
  | append_singleton keys p ih =>
    have hk : Keyed.has p.1 (Keyed.firsts keys) = true ↔ p.1 ∈ keys.map Prod.fst := by
      rw [Keyed.has_iff, Keyed.keys_firsts, List.mem_eraseDups]
    rw [Keyed.firsts_concat, Keyed.insertNew]
    split
    · next h => rw [compareBy_repeated keys [] (hk.1 h), List.append_nil, ih]
    · funext a b
      rw [compareBy_append, compareBy_append, ih]

end LedgerQuery.Query
