import LedgerQuery.Proofs.Evaluation
import LedgerQuery.Proofs.Layout
import LedgerQuery.Proofs.Partition

/-!
# What a group shows

A group of records shows a cell under the name of a column if all its records have this cell, and
under the name of a call the aggregate of its records (`Shows`).  Nothing is shown under one name
but one cell (`Shows.unique`).  A group of records that need not be of one table gives a cell in the
same way, as if columns that a record lacks were empty (`Gives`).  The cells of a group are found by
name in every layout (`groupRow_eq_map`), and they are what it shows if the plain columns of the
layout are grouped by (`shows_of_groupRow`).
-/

namespace LedgerQuery.Query

open Chain

/-- The cell that a group shows under a name: one that all its records have in a column, or an
aggregate of them. -/
inductive Shows (t : Table) (g : List Record) : String → Cell → Prop
  | column {name : String} {r : Record} {v : Cell} (known : name ∈ t.columns) (member : r ∈ g)
      (shared : ∀ r ∈ g, r.cell? name = some v) : Shows t g name v
  | aggregate {c : Call} {a : Aggregate} {v : Cell} (called : Aggregate.ofCall t c = .ok a)
      (value : a.eval g = .ok v) : Shows t g c.name v

/-- The cell that a group gives under a name, whatever tables its records are of: a column that a
record lacks counts as an empty one. -/
inductive Gives (t : Table) (g : List Record) : String → Cell → Prop
  | column {name : String} {r : Record} {v : Cell} (known : name ∈ t.columns) (member : r ∈ g)
      (shared : ∀ r ∈ g, r.cell name = v) : Gives t g name v
  | aggregate {c : Call} {a : Aggregate} {v : Cell} (called : Aggregate.ofCall t c = .ok a)
      (value : a.eval g = .ok v) : Gives t g c.name v

section Cells

variable {t : Table} {g g' : List Record} {name : String} {v w : Cell}

namespace Gives

/-- A name is that of a column or of one aggregate. -/
theorem cases_name (h : Gives t g name v) :
    (name ∈ t.columns ∧ ∃ r ∈ g, ∀ r ∈ g, r.cell name = v) ∨
      ∃ a : Aggregate, a.Known t ∧ name = a.title ∧ a.eval g = .ok v := by
  cases h with
  | column known member shared => exact .inl ⟨known, _, member, shared⟩
  | aggregate called value =>
    obtain ⟨hn, ha⟩ := Aggregate.ofCall_eq_ok called
    exact .inr ⟨_, ha, hn, value⟩

/-- What two groups give under one name are cells of one column, or come from one aggregate. -/
theorem same_source (h : Gives t g name v) (h' : Gives t g' name w) :
    (∃ r ∈ g, ∃ s ∈ g', (∀ r ∈ g, r.cell name = v) ∧ ∀ s ∈ g', s.cell name = w) ∨
      ∃ a : Aggregate, a.eval g = .ok v ∧ a.eval g' = .ok w := by
  rcases h.cases_name with ⟨hc, r, hr, hv⟩ | ⟨a, ha, hn, hv⟩
  · rcases h'.cases_name with ⟨-, s, hs, hw⟩ | ⟨b, -, hn, -⟩
    · exact .inl ⟨r, hr, s, hs, hv, hw⟩
    · exact absurd (hn ▸ hc) (Aggregate.title_not_mem_columns t b)
  · rcases h'.cases_name with ⟨hc, -⟩ | ⟨b, hb, hn', hw⟩
    · exact absurd (hn ▸ hc) (Aggregate.title_not_mem_columns t a)
    · cases Aggregate.eq_of_title_eq ha hb (hn.symm.trans hn')
      exact .inr ⟨a, hv, hw⟩

/-- A group gives nothing under one name but one cell. -/
theorem unique (h : Gives t g name v) (h' : Gives t g name w) : v = w := by
  rcases h.same_source h' with ⟨r, hr, -, -, hv, hw⟩ | ⟨a, hv, hw⟩
  · exact (hv r hr).symm.trans (hw r hr)
  · exact Except.ok.inj (hv.symm.trans hw)

/-- What groups give under one name compares without rounding. -/
theorem unmixed (h : Gives t g name v) (h' : Gives t g' name w) : v.Unmixed w := by
  rcases h.same_source h' with ⟨r, hr, s, hs, hv, hw⟩ | ⟨a, hv, hw⟩
  · rw [← hv r hr, ← hw s hs]
    exact Cell.unmixed_of_not_isFloat (r.isFloat_cell name) (s.isFloat_cell name)
  · exact Aggregate.eval_unmixed hv hw

/-- What a group of records of one table gives is what it shows. -/
theorem shows (ht : ∀ r ∈ g, tableOf r = t) (h : Gives t g name v) : Shows t g name v := by
  cases h with
  | column known member shared =>
    refine .column known member fun r hr ↦ ?_
    rw [cell?_eq_some (by rwa [ht r hr]), shared r hr]
  | aggregate called value => exact .aggregate called value

end Gives

namespace Shows

/-- What a group shows, it gives. -/
theorem gives (h : Shows t g name v) : Gives t g name v := by
  cases h with
  | column known member shared =>
    refine .column known member fun r hr ↦ ?_
    rw [Record.cell, shared r hr, Option.getD_some]
  | aggregate called value => exact .aggregate called value

/-- A group shows nothing under one name but one cell. -/
theorem unique (h : Shows t g name v) (h' : Shows t g name w) : v = w := h.gives.unique h'.gives

/-- What groups show under one name compares without rounding. -/
theorem unmixed (h : Shows t g name v) (h' : Shows t g' name w) : v.Unmixed w :=
  h.gives.unmixed h'.gives

end Shows

end Cells

/-! ## Rows of groups -/

/-- The cell of a group under a name, as some slots have it. -/
def cellNamed (slots : List Slot) (g : List Record) (name : String) : Cell :=
  match slots.find? fun s ↦ s.column == name with
  | some s => match Rows.groupCell g s with
    | .ok v => v
    | .error _ => .null
  | none => .null

theorem mapM_eq_ok {α β ε : Type} {f : α → Except ε β} {as : List α} {bs : List β}
    (h : as.mapM f = .ok bs) : (∀ a ∈ as, ∃ b, f a = .ok b) ∧
      ∀ g : α → β, (∀ a ∈ as, ∀ b, f a = .ok b → g a = b) → bs = as.map g := by
  induction as generalizing bs with
  | nil =>
    cases h
    exact ⟨fun a ha ↦ absurd ha List.not_mem_nil, fun _ _ ↦ rfl⟩
  | cons a as ih =>
    rw [List.mapM_cons] at h
    cases ha : f a with
    | error e => rw [ha] at h; cases h
    | ok b =>
      rw [ha] at h
      cases has : as.mapM f with
      | error e => rw [has] at h; cases h
      | ok bs =>
        rw [has] at h
        cases h
        obtain ⟨hf, hg⟩ := ih has
        refine ⟨List.forall_mem_cons.2 ⟨⟨b, ha⟩, hf⟩, fun g hag ↦ ?_⟩
        rw [List.map_cons, hag a List.mem_cons_self b ha,
          hg g fun a ha ↦ hag a (List.mem_cons_of_mem _ ha)]

/-- A list of steps succeeds if each of them does. -/
theorem exists_mapM_eq_ok {α β ε : Type} {f : α → Except ε β} {as : List α}
    (h : ∀ a ∈ as, ∃ b, f a = .ok b) : ∃ bs, as.mapM f = .ok bs := by
  induction as with
  | nil => exact ⟨[], rfl⟩
  | cons a as ih =>
    obtain ⟨⟨b, hb⟩, rest⟩ := List.forall_mem_cons.1 h
    obtain ⟨bs, hbs⟩ := ih rest
    refine ⟨b :: bs, ?_⟩
    rw [List.mapM_cons, hb, hbs]
    rfl

section Slots

variable {t : Table} {plain groupBy : List String} {records g : List Record} {slots : List Slot}

/-- Slots of one column have the same cell in a group: a name is that of a column or of one
aggregate. -/
theorem groupCell_of_column_eq {s s' : Slot} (hs : Layout.Filled t (Aggregate.ofCall t) plain s)
    (hs' : Layout.Filled t (Aggregate.ofCall t) plain s') (h : s.column = s'.column)
    (g : List Record) : Rows.groupCell g s = Rows.groupCell g s' := by
  have not_title {column : String} {a : Aggregate} (known : column ∈ t.columns)
      (hn : column = a.title) : False := Aggregate.title_not_mem_columns t a (hn ▸ known)
  cases hs with
  | field known asked =>
    cases hs' with
    | field known' asked' =>
      cases h
      rfl
    | aggregate called =>
      exact (not_title known (h.trans (Aggregate.ofCall_eq_ok called).1)).elim
  | aggregate called =>
    obtain ⟨hn, ha⟩ := Aggregate.ofCall_eq_ok called
    cases hs' with
    | field known asked => exact (not_title known (h.symm.trans hn)).elim
    | aggregate called' =>
      obtain ⟨hn', ha'⟩ := Aggregate.ofCall_eq_ok called'
      cases Aggregate.eq_of_title_eq ha ha' (hn.symm.trans (h.trans hn'))
      rfl

/-- The cell of a slot is found under its name. -/
theorem cellNamed_eq (hs : ∀ s ∈ slots, Layout.Filled t (Aggregate.ofCall t) plain s) {s : Slot}
    (hm : s ∈ slots) {v : Cell} (hv : Rows.groupCell g s = .ok v) :
    cellNamed slots g s.column = v := by
  have found : (slots.find? fun s' ↦ s'.column == s.column).isSome :=
    List.find?_isSome.2 ⟨s, hm, BEq.rfl⟩
  obtain ⟨s', hs'⟩ := Option.isSome_iff_exists.1 found
  have column : s'.column = s.column :=
    eq_of_beq (List.find?_some (p := fun s' : Slot ↦ s'.column == s.column) hs')
  have cell := groupCell_of_column_eq (hs s' (List.mem_of_find?_eq_some hs')) (hs s hm) column g
  rw [cellNamed, hs']
  dsimp only
  rw [cell, hv]

/-- The row of a group has its cells under the names of the slots. -/
theorem groupRow_eq_map (hs : ∀ s ∈ slots, Layout.Filled t (Aggregate.ofCall t) plain s)
    {row : List Cell} (hr : Rows.groupRow slots g = .ok row) :
    row = (slots.map Slot.column).map (cellNamed slots g) := by
  rw [List.map_map]
  exact (mapM_eq_ok hr).2 _ fun s hm _ hv ↦ cellNamed_eq hs hm hv

/-- The row of a group reports what an aggregate does. -/
theorem Rows.throws_groupRow {kind : Error → Prop} (hk : OfAggregates kind) (slots : List Slot)
    (g : List Record) : Throws kind (groupRow slots g) := by
  refine .mapM fun s ↦ ?_
  rw [groupCell.eq_def]
  split
  · exact .ok _
  · exact hk.eval _ g

/-- A slot that is filled with a column grouped by, or with an aggregate, holds what a group
gives. -/
theorem gives_of_groupCell {s : Slot} {v : Cell} (hg : g ∈ partition groupBy records)
    (hs : Layout.Filled t (Aggregate.ofCall t) groupBy s) (hv : Rows.groupCell g s = .ok v) :
    Gives t g s.column v := by
  cases hs with
  | aggregate called => exact .aggregate called hv
  | @field column label known asked =>
    cases g with
    | nil =>
      exact absurd rfl (ne_nil_of_mem_partition hg (List.ne_nil_of_mem asked))
    | cons r g =>
      cases hv
      exact .column known List.mem_cons_self fun s hs ↦
        cell_eq_of_mem_partition hg asked hs List.mem_cons_self

/-- The row of a group holds what the group gives under the names of the slots. -/
theorem gives_of_groupRow {row : List Cell} (hg : g ∈ partition groupBy records)
    (hs : ∀ s ∈ slots, Layout.Filled t (Aggregate.ofCall t) groupBy s)
    (hr : Rows.groupRow slots g = .ok row) :
    ∀ name ∈ slots.map Slot.column, Gives t g name (cellNamed slots g name) := by
  intro name hn
  obtain ⟨s, hm, rfl⟩ := List.mem_map.1 hn
  obtain ⟨v, hv⟩ := (mapM_eq_ok hr).1 s hm
  rw [cellNamed_eq hs hm hv]
  exact gives_of_groupCell hg (hs s hm) hv

/-- The row of a group holds what the group shows under the names of the slots. -/
theorem shows_of_groupRow {row : List Cell} (ht : ∀ r ∈ records, tableOf r = t)
    (hg : g ∈ partition groupBy records)
    (hs : ∀ s ∈ slots, Layout.Filled t (Aggregate.ofCall t) groupBy s)
    (hr : Rows.groupRow slots g = .ok row) :
    ∀ name ∈ slots.map Slot.column, Shows t g name (cellNamed slots g name) :=
  fun name hn ↦
    (gives_of_groupRow hg hs hr name hn).shows fun r hm ↦ ht r (subset_of_mem_partition hg hm)

end Slots

end LedgerQuery.Query
