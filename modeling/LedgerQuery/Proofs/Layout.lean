import LedgerQuery.Proofs.Aggregate
import LedgerQuery.Proofs.Names
import LedgerQuery.Query.Layout

/-!
# What a layout holds

The first slots of a layout show the select list, entry by entry and with `*` in its place
(`Layout.build_eq_ok`).  Every slot, also one that is only carried along, is filled with a column
that was asked for by name or by `*`, or with an aggregate under the name of its call (`Filled`).
-/

namespace LedgerQuery.Query

/-! ## The select list -/

/-- The columns that an entry of the select list shows. -/
def SelectItem.columnsIn (t : Table) (item : SelectItem) : List String :=
  match item.expr.name? with
  | some column => [column]
  | none => t.columns

def SelectItem.labelsIn (t : Table) (item : SelectItem) : List String :=
  match item.expr.name? with
  | some column => [item.label.getD column]
  | none => t.columns

/-- The columns of a select list, `*` standing for all columns of the table. -/
def Plan.columns (p : Plan) (t : Table) : List String := p.projection.flatMap (·.columnsIn t)

def Plan.labels (p : Plan) (t : Table) : List String := p.projection.flatMap (·.labelsIn t)

/-- The columns of the table that an entry asks for, other than in a call. -/
def Selected.plainIn (t : Table) : Selected → List String
  | .column name => [Text.lower name]
  | .star => t.columns
  | .call _ => []

/-- The column of the table that an operand asks for, other than in a call. -/
def Operand.plain? : Operand → Option String
  | .column name => some (Text.lower name)
  | .call _ => none

/-- The columns of the table that a layout is built from. -/
def plainColumns (t : Table) (select : List SelectItem) (extras : List Operand) : List String :=
  select.flatMap (·.expr.plainIn t) ++ extras.filterMap Operand.plain?

/-! ## Slots -/

namespace Layout

variable {t : Table} {onCall : OnCall} {plain : List String}

/-- A slot that has what it says: one of some columns of the table, or the aggregate of a call. -/
inductive Filled (t : Table) (onCall : OnCall) (plain : List String) : Slot → Prop
  | field {column label : String} (known : column ∈ t.columns) (asked : column ∈ plain) :
      Filled t onCall plain ⟨column, label, .field⟩
  | aggregate {c : Call} {a : Aggregate} {label : String} (called : onCall c = .ok a) :
      Filled t onCall plain ⟨c.name, label, .aggregate a⟩

theorem Filled.mono {plain' : List String} {s : Slot} (h : Filled t onCall plain s)
    (hp : plain ⊆ plain') : Filled t onCall plain' s := by
  cases h with
  | field known asked => exact .field known (hp asked)
  | aggregate called => exact .aggregate called

theorem filled_append {plain' : List String} {as bs : List Slot}
    (ha : ∀ s ∈ as, Filled t onCall plain s) (hb : ∀ s ∈ bs, Filled t onCall plain' s) :
    ∀ s ∈ as ++ bs, Filled t onCall (plain ++ plain') s := by
  intro s hs
  rcases List.mem_append.1 hs with hs | hs
  · exact (ha s hs).mono (List.subset_append_left _ _)
  · exact (hb s hs).mono (List.subset_append_right _ _)

/-- The slots of an entry have its columns and labels, and are filled by what it asks for. -/
theorem ofItem_eq_ok {item : SelectItem} {slots : List Slot}
    (h : ofItem t onCall item = .ok slots) :
    slots.map Slot.column = item.columnsIn t ∧ slots.map Slot.label = item.labelsIn t ∧
      ∀ s ∈ slots, Filled t onCall (item.expr.plainIn t) s := by
  obtain ⟨expr, label⟩ := item
  cases expr with
  | column name =>
    rw [ofItem] at h
    dsimp only at h
    split at h
    · next c hc =>
      cases h
      obtain ⟨rfl, hm⟩ := column_eq_ok_iff.1 hc
      refine ⟨rfl, rfl, ?_⟩
      intro s hs
      rw [List.mem_singleton.1 hs]
      exact .field hm (List.mem_singleton_self _)
    · cases h
  | call c =>
    rw [ofItem] at h
    dsimp only at h
    split at h
    · next a ha =>
      cases h
      refine ⟨rfl, rfl, ?_⟩
      intro s hs
      rw [List.mem_singleton.1 hs]
      exact .aggregate ha
    · cases h
  | star =>
    cases h
    refine ⟨?_, ?_, ?_⟩
    · rw [List.map_map]
      exact List.map_id _
    · rw [List.map_map]
      exact List.map_id _
    · intro s hs
      obtain ⟨c, hc, rfl⟩ := List.mem_map.1 hs
      exact .field hc hc

/-- The slots of a select list have its columns and labels, entry by entry. -/
theorem ofItems_eq_ok {items : List SelectItem} {slots : List Slot}
    (h : ofItems t onCall items = .ok slots) :
    slots.map Slot.column = items.flatMap (·.columnsIn t) ∧
      slots.map Slot.label = items.flatMap (·.labelsIn t) ∧
      ∀ s ∈ slots, Filled t onCall (items.flatMap (·.expr.plainIn t)) s := by
  induction items generalizing slots with
  | nil =>
    cases h
    exact ⟨rfl, rfl, fun s hs ↦ absurd hs List.not_mem_nil⟩
  | cons item items ih =>
    rw [ofItems] at h
    split at h
    · cases h
    · next first hfirst =>
      split at h
      · next rest hrest =>
        cases h
        obtain ⟨hc, hl, hf⟩ := ofItem_eq_ok hfirst
        obtain ⟨hcs, hls, hfs⟩ := ih hrest
        refine ⟨?_, ?_, ?_⟩
        · rw [List.map_append, List.flatMap_cons, hc, hcs]
        · rw [List.map_append, List.flatMap_cons, hl, hls]
        · exact filled_append hf hfs
      · cases h

/-- The slot of an operand is filled by what it asks for. -/
theorem ofOperand_eq_ok {x : Operand} {s : Slot} (h : ofOperand t onCall x = .ok s) :
    Filled t onCall x.plain?.toList s := by
  cases x with
  | column name =>
    rw [ofOperand] at h
    split at h
    · next c hc =>
      cases h
      obtain ⟨rfl, hm⟩ := column_eq_ok_iff.1 hc
      exact .field hm (List.mem_singleton_self _)
    · cases h
  | call c =>
    rw [ofOperand] at h
    split at h
    · next a ha =>
      cases h
      exact .aggregate ha
    · cases h

/-- Operands are carried along after the slots that are there. -/
theorem carry_eq_ok {slots all : List Slot} {xs : List Operand}
    (h : carry t onCall slots xs = .ok all) :
    ∃ rest, all = slots ++ rest ∧ ∀ s ∈ rest, Filled t onCall (xs.filterMap Operand.plain?) s := by
  induction xs generalizing slots with
  | nil =>
    cases h
    exact ⟨[], (List.append_nil _).symm, fun s hs ↦ absurd hs List.not_mem_nil⟩
  | cons x xs ih =>
    have hxs : xs.filterMap Operand.plain? ⊆ (x :: xs).filterMap Operand.plain? :=
      fun c hc ↦ (List.sublist_cons_self x xs).filterMap Operand.plain? |>.subset hc
    rw [carry] at h
    split at h
    · cases h
    · next s hs =>
      split at h
      · obtain ⟨rest, rfl, hf⟩ := ih h
        exact ⟨rest, rfl, fun s hs ↦ (hf s hs).mono hxs⟩
      · obtain ⟨rest, rfl, hf⟩ := ih h
        refine ⟨s :: rest, List.append_assoc _ _ _, List.forall_mem_cons.2 ⟨?_, ?_⟩⟩
        · apply (ofOperand_eq_ok hs).mono
          intro c hc
          rw [Option.mem_toList] at hc
          exact List.mem_filterMap.2 ⟨x, List.mem_cons_self, hc⟩
        · exact fun s hs ↦ (hf s hs).mono hxs

theorem projected_le_of_build {select : List SelectItem} {extras : List Operand} {l : Layout}
    (h : build t onCall select extras = .ok l) : l.projected ≤ l.slots.length := by
  rw [build] at h
  split at h
  · cases h
  · split at h
    · cases h
    · next all hall =>
      cases h
      obtain ⟨rest, rfl, -⟩ := carry_eq_ok hall
      rw [List.length_append]
      exact Nat.le_add_right _ _

/-- A layout shows the select list, and all its slots are filled as they should be. -/
theorem build_eq_ok {select : List SelectItem} {extras : List Operand} {l : Layout}
    (h : build t onCall select extras = .ok l) :
    (l.slots.map Slot.column).take l.projected = select.flatMap (·.columnsIn t) ∧
      (l.slots.map Slot.label).take l.projected = select.flatMap (·.labelsIn t) ∧
      ∀ s ∈ l.slots, Filled t onCall (plainColumns t select extras) s := by
  rw [build] at h
  split at h
  · cases h
  · next slots hslots =>
    split at h
    · cases h
    · next all hall =>
      cases h
      obtain ⟨hc, hl, hf⟩ := ofItems_eq_ok hslots
      obtain ⟨rest, rfl, hrest⟩ := carry_eq_ok hall
      refine ⟨?_, ?_, ?_⟩
      · rw [← List.map_take, List.take_left, hc]
      · rw [← List.map_take, List.take_left, hl]
      · exact filled_append hf hrest

end Layout

end LedgerQuery.Query
