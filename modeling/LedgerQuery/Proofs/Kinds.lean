import LedgerQuery.Proofs.Materialized

/-!
# Kinds of cells

Every column of a result holds cells of one kind: natural numbers, doubles or texts, and empty cells
among them.  Fields of records have the kind that their table gives them (`Record.fits_cell`), and
an aggregate has a kind of its own (`Aggregate.fits_eval`).  So a row has a cell of the right kind
in each place (`typed_of_converts`), and it keeps them when rows are ordered, cut and stripped.
Cells of one kind compare without rounding, so that comparing rows by any columns in any directions
is an order, and sorting them is what it should be (`Typed.comparable`).
-/

namespace LedgerQuery

open Std
open Chain

namespace Cell

/-- What a cell holds that is not empty. -/
inductive Kind
  | integer
  | float
  | text
deriving DecidableEq, Repr

/-- A cell that is empty or of some kind. -/
inductive Fits : Cell → Kind → Prop
  | null (k : Kind) : Fits .null k
  | integer (n : Nat) : Fits (.integer n) .integer
  | float (x : Number.Binary64) : Fits (.float x) .float
  | text (s : String) : Fits (.text s) .text

/-- A number that may be missing fits a column of numbers. -/
theorem fits_ofNat? (n : Option Nat) : (ofNat? n).Fits .integer := by
  cases n with
  | none => exact .null _
  | some n => exact .integer n

/-- A text that may be missing fits a column of texts. -/
theorem fits_ofText? (s : Option String) : (ofText? s).Fits .text := by
  cases s with
  | none => exact .null _
  | some s => exact .text s

/-- Cells of one kind compare without rounding. -/
theorem Fits.unmixed {a b : Cell} {k : Kind} (ha : a.Fits k) (hb : b.Fits k) : a.Unmixed b := by
  cases ha with
  | null => exact .inr (.inl rfl)
  | integer _ => cases hb with
    | null => exact .inr (.inr rfl)
    | integer _ => exact .inl rfl
  | float _ => cases hb with
    | null => exact .inr (.inr rfl)
    | float _ => exact .inl rfl
  | text _ => cases hb with
    | null => exact .inr (.inr rfl)
    | text _ => exact .inl rfl

end Cell

/-! ## Fields -/

def Table.kind : Table → String → Cell.Kind
  | .blocks, "blockhash" | .blocks, "parenthash" | .blocks, "nonce" | .blocks, "sha3uncles"
  | .blocks, "logsbloom" | .blocks, "transactionsroot" | .blocks, "stateroot"
  | .blocks, "receiptsroot" | .blocks, "miner" | .blocks, "extradata" => .text
  | .transactions, "hash" | .transactions, "blockhash" | .transactions, "from"
  | .transactions, "to" | .transactions, "input" => .text
  | _, _ => .integer

/-- The cell of a record fits the kind of its column. -/
theorem Chain.Record.fits_cell {t : Table} {r : Record} (ht : Query.tableOf r = t) {column : String}
    (hc : column ∈ t.columns) : (r.cell column).Fits (t.kind column) := by
  subst ht
  -- A column after the other, each by what its field holds.
  cases r with
  | block b =>
    simp only [Query.tableOf, Table.columns, List.mem_cons, List.not_mem_nil, or_false] at hc
    rcases hc with rfl | rfl | rfl | rfl | rfl | rfl | rfl | rfl | rfl | rfl | rfl | rfl | rfl |
      rfl | rfl | rfl | rfl | rfl | rfl <;>
      first
        | exact .integer _
        | exact .text _
        | exact Cell.fits_ofText? _
        | exact Cell.fits_ofNat? _
  | transaction x =>
    simp only [Query.tableOf, Table.columns, List.mem_cons, List.not_mem_nil, or_false] at hc
    rcases hc with rfl | rfl | rfl | rfl | rfl | rfl | rfl | rfl | rfl | rfl | rfl <;>
      first
        | exact .integer _
        | exact .text _
        | exact Cell.fits_ofText? _
        | exact Cell.fits_ofNat? _

open Node (Client Ledger twoBlocks)

namespace Query

/-! ## Aggregates -/

namespace Aggregate

/-- The kind of an aggregate: only averages are doubles, and a least or greatest cell is one of
those it was picked from. -/
def kind (t : Table) (a : Aggregate) : Cell.Kind :=
  match a.column, a.summary with
  | some _, .avg => .float
  | some column, .min | some column, .max => t.kind column
  | _, _ => .integer

variable {t : Table} {a : Aggregate} {g : List Record} {v : Cell}

/-- The values of a group fit the kind of their column. -/
theorem fits_of_mem_values (ht : ∀ r ∈ g, tableOf r = t) {column : String} (hc : column ∈ t.columns)
    (hv : v ∈ values column g) : v.Fits (t.kind column) := by
  obtain ⟨hv, -⟩ := List.mem_filter.1 hv
  obtain ⟨r, hr, hrv⟩ := List.mem_filterMap.1 hv
  have fits := Record.fits_cell (ht r hr) hc
  rwa [Record.cell, hrv] at fits

/-- What an aggregate gives fits its kind. -/
theorem fits_eval (ha : a.Known t) (ht : ∀ r ∈ g, tableOf r = t) (h : a.eval g = .ok v) :
    v.Fits (a.kind t) := by
  obtain ⟨summary, column⟩ := a
  cases column with
  | none => cases h; exact .integer _
  | some column =>
    have picked : ∀ {cell : List Cell → Cell}, (∀ cells ≠ [], cell cells ∈ cells) →
        cell [] = .null → (cell (values column g)).Fits (t.kind column) := by
      intro cell hm hn
      by_cases empty : values column g = []
      · rw [empty, hn]
        exact .null _
      · exact fits_of_mem_values ht (ha column rfl) (hm _ empty)
    cases summary with
    | count => cases h; exact .integer _
    | sum =>
      obtain ⟨-, -, rfl⟩ := (sum_eq_ok_iff fun _ ↦ mem_values).1 h
      split
      · exact .null _
      · exact .integer _
    | avg =>
      obtain ⟨-, rfl⟩ := (average_eq_ok_iff fun _ ↦ mem_values).1 h
      split
      · exact .null _
      · exact .float _
    | min => cases h; exact picked (fun _ ↦ least_mem) rfl
    | max => cases h; exact picked (fun _ ↦ greatest_mem) rfl

end Aggregate

/-! ## Rows -/

def Slot.kind (t : Table) (s : Slot) : Cell.Kind :=
  match s.content with
  | .field => t.kind s.column
  | .aggregate a => a.kind t

section Rows

variable {t : Table} {plain : List String} {records : List Record}

/-- The cell of a group fits the kind of its slot. -/
theorem fits_groupCell {s : Slot} {g : List Record} {v : Cell}
    (hs : Layout.Filled t (Aggregate.ofCall t) plain s) (ht : ∀ r ∈ g, tableOf r = t)
    (h : Rows.groupCell g s = .ok v) : v.Fits (s.kind t) := by
  cases hs with
  | aggregate called => exact Aggregate.fits_eval (Aggregate.ofCall_eq_ok called).2 ht h
  | field known asked =>
    cases h
    cases g with
    | nil => exact .null _
    | cons r g => exact Record.fits_cell (ht r List.mem_cons_self) known

/-- A row with a cell of the right kind in each place. -/
abbrev TypedRow (kinds : List Cell.Kind) (row : List Cell) : Prop :=
  List.Forall₂ Cell.Fits row kinds

/-- Cells that each fit the kind of their slot are a typed row. -/
theorem typed_map {slots : List Slot} {value : Slot → Cell}
    (h : ∀ s ∈ slots, (value s).Fits (s.kind t)) :
    TypedRow (slots.map (Slot.kind t)) (slots.map value) := by
  rw [TypedRow, List.forall₂_map_left_iff, List.forall₂_map_right_iff, List.forall₂_same]
  exact h

/-- Rows have cells of the right kinds when they are made. -/
theorem typed_of_converts {p : Plan} {extras : List Operand} {rows : Rows}
    (ht : ∀ r ∈ records, tableOf r = t) (h : Converts p t extras records rows) :
    ∃ kinds : List Cell.Kind, kinds.length = rows.columns.length ∧
      ∀ row ∈ rows.rows, TypedRow kinds row := by
  cases h with
  | @records l built =>
    refine ⟨l.slots.map (Slot.kind t), ?_, fun row hrow ↦ ?_⟩
    · rw [Rows.ofLayout, List.length_map, List.length_map]
    · obtain ⟨r, hr, rfl⟩ := List.mem_map.1 hrow
      obtain ⟨-, -, filled⟩ := Layout.build_eq_ok built
      refine typed_map fun s hs ↦ ?_
      cases filled s hs with
      | field known asked => exact Record.fits_cell (ht r hr) known
      | aggregate called => cases called
  | @groups l carried rows built ordered each =>
    refine ⟨l.slots.map (Slot.kind t), ?_, fun row hrow ↦ ?_⟩
    · rw [Rows.ofLayout, List.length_map, List.length_map]
    · obtain ⟨g, hg, hrow⟩ := each row hrow
      obtain ⟨-, -, filled⟩ := Layout.build_eq_ok built
      have members : ∀ r ∈ g, tableOf r = t := fun r hr ↦ ht r (subset_of_mem_partition hg hr)
      obtain ⟨each, cells⟩ := mapM_eq_ok hrow
      have value : ∀ s ∈ l.slots, ∀ v, Rows.groupCell g s = .ok v →
          (Rows.groupCell g s).toOption.getD .null = v := fun s _ v hv ↦ by rw [hv]; rfl
      rw [cells (fun s ↦ (Rows.groupCell g s).toOption.getD .null) value]
      refine typed_map fun s hs ↦ ?_
      obtain ⟨v, hv⟩ := each s hs
      rw [value s hs v hv]
      exact fits_groupCell (filled s hs) members hv

end Rows

/-! ## Results -/

/-- Rows are compared by their cells, one key after the other. -/
theorem compareRows_eq (keys : List (Nat × Direction)) (a b : List Cell) :
    ResultSet.compareRows keys a b = compareBy (fun row i ↦ row[i]?.getD .null) keys a b := by
  induction keys with
  | nil => rfl
  | cons key keys ih => rw [ResultSet.compareRows, compareBy, ih, Direction.apply_compare]

def ResultSet.cellsAt (r : ResultSet) (i : Nat) : List Cell :=
  r.rows.map fun row ↦ row[i]?.getD .null

/-- A result whose columns hold cells of one kind each. -/
def ResultSet.Typed (r : ResultSet) : Prop :=
  ∃ kinds : List Cell.Kind, kinds.length = r.columns.length ∧ ∀ row ∈ r.rows, TypedRow kinds row

/-- A result whose columns hold cells of one kind each, so that they can be compared: in a column,
where only equal cells tie, and by rows in any columns and directions.  Ordering the rows then sorts
them, and rows that tie stay in their order. -/
structure ResultSet.Comparable (r : ResultSet) : Prop where
  kinds : ∀ i < r.columns.length, ∃ kind, ∀ row ∈ r.rows, ∃ v, row[i]? = some v ∧ v.Fits kind
  cells : ∀ i < r.columns.length,
    TransCmp (fun a b : {v // v ∈ r.cellsAt i} ↦ a.1.compare b.1) ∧
      LawfulEqCmp fun a b : {v // v ∈ r.cellsAt i} ↦ a.1.compare b.1
  rows : ∀ keys : List (Nat × Direction),
    TransCmp fun a b : {row // row ∈ r.rows} ↦ ResultSet.compareRows keys a.1 b.1
  sorted : ∀ keys ordered, r.order keys = .ok ordered →
    ∃ ps, r.keyPositions keys = .ok ps ∧
      StablySorted (ResultSet.compareRows ps) r.rows ordered.rows

namespace ResultSet.Typed

variable {r : ResultSet}

/-- A step that drops rows, and ends all rows at the same place, leaves the rest as it was. -/
theorem of_take {r' : ResultSet} (h : r.Typed) (n : Nat) (hc : r'.columns = r.columns.take n)
    (hr : ∀ row ∈ r'.rows, ∃ row' ∈ r.rows, row = row'.take n) : r'.Typed := by
  obtain ⟨kinds, length, typed⟩ := h
  refine ⟨kinds.take n, ?_, fun row hrow ↦ ?_⟩
  · rw [hc, List.length_take, List.length_take, length]
  · obtain ⟨row', hrow', rfl⟩ := hr row hrow
    exact List.forall₂_take n (typed row' hrow')

/-- Some of the rows of a typed result set are typed. -/
theorem of_subset {r' : ResultSet} (h : r.Typed) (hc : r'.columns = r.columns)
    (hr : r'.rows ⊆ r.rows) : r'.Typed := by
  obtain ⟨kinds, length, typed⟩ := h
  exact ⟨kinds, hc ▸ length, fun row hrow ↦ typed row (hr hrow)⟩

/-- Sorting keeps rows typed. -/
theorem order {keys : List (String × Direction)} {ordered : ResultSet} (h : r.Typed)
    (ho : r.order keys = .ok ordered) : ordered.Typed := by
  rw [ResultSet.order] at ho
  split at ho
  · cases ho
  · cases ho
    exact h.of_subset rfl fun row hrow ↦ List.mem_mergeSort.1 hrow

/-- Cutting keeps rows typed. -/
theorem cut (limit : Option Nat) (h : r.Typed) : (cut limit r).Typed := by
  cases limit with
  | none => exact h
  | some n => exact h.of_subset rfl (List.take_subset n r.rows)

/-- Projecting keeps rows typed. -/
theorem project (h : r.Typed) : r.project.Typed := by
  rw [ResultSet.project]
  split
  · exact h
  · refine h.of_take r.projected rfl fun _ hrow ↦ ?_
    obtain ⟨row', hrow', rfl⟩ := List.mem_map.1 hrow
    exact ⟨row', hrow', rfl⟩

/-- A typed row has a cell in each column, which fits the kind of the column. -/
theorem getElem?_of_typedRow {kinds : List Cell.Kind} {row : List Cell} (h : TypedRow kinds row)
    {i : Nat} (hi : i < kinds.length) : ∃ v, row[i]? = some v ∧ v.Fits kinds[i] := by
  have bound : i < row.length := h.length_eq ▸ hi
  exact ⟨row[i], List.getElem?_eq_getElem bound, h.get bound hi⟩

/-- Past the end of the rows there are only empty cells. -/
theorem fits (h : r.Typed) (i : Nat) : ∃ kind, ∀ row ∈ r.rows, (row[i]?.getD .null).Fits kind := by
  obtain ⟨kinds, -, typed⟩ := h
  by_cases hi : i < kinds.length
  · refine ⟨kinds[i], fun row hrow ↦ ?_⟩
    obtain ⟨v, hv, fits⟩ := getElem?_of_typedRow (typed row hrow) hi
    rw [hv]
    exact fits
  · refine ⟨.text, fun row hrow ↦ ?_⟩
    have bound : row.length ≤ i := (typed row hrow).length_eq ▸ Nat.le_of_not_lt hi
    rw [List.getElem?_eq_none bound]
    exact .null _

/-- Two cells of one column are not a text and a number. -/
theorem unmixed (h : r.Typed) {i : Nat} {a b : List Cell} (ha : a ∈ r.rows) (hb : b ∈ r.rows) :
    (a[i]?.getD .null).Unmixed (b[i]?.getD .null) := by
  obtain ⟨kind, fits⟩ := h.fits i
  exact (fits a ha).unmixed (fits b hb)

/-- Any two of the cells in one column can be compared. -/
theorem unmixed_cellsAt (h : r.Typed) (i : Nat) (a b : {v // v ∈ r.cellsAt i}) :
    a.1.Unmixed b.1 := by
  obtain ⟨a, ha⟩ := a
  obtain ⟨b, hb⟩ := b
  obtain ⟨row, hrow, rfl⟩ := List.mem_map.1 ha
  obtain ⟨row', hrow', rfl⟩ := List.mem_map.1 hb
  exact h.unmixed hrow hrow'

/-- Comparing rows by the keys of a sort is transitive on typed rows. -/
theorem transCmp_rows (h : r.Typed) (keys : List (Nat × Direction)) :
    TransCmp fun a b : {row // row ∈ r.rows} ↦ ResultSet.compareRows keys a.1 b.1 := by
  have order : TransCmp (compareBy (fun (a : {row // row ∈ r.rows}) i ↦ a.1[i]?.getD .null) keys) :=
    transCmp_compareBy fun p _ a b ↦ h.unmixed a.2 b.2
  have rows : ∀ a b : {row // row ∈ r.rows},
      compareBy (fun (a : {row // row ∈ r.rows}) i ↦ a.1[i]?.getD .null) keys a b =
        ResultSet.compareRows keys a.1 b.1 :=
    fun a b ↦ (compareBy_comp Subtype.val keys a b).trans (compareRows_eq keys a.1 b.1).symm
  rwa [funext₂ rows] at order

/-- Typed rows can be compared. -/
theorem comparable (h : r.Typed) : r.Comparable where
  kinds i hi := by
    obtain ⟨kinds, length, typed⟩ := h
    exact ⟨kinds[i], fun row hrow ↦ getElem?_of_typedRow (typed row hrow) (length ▸ hi)⟩
  cells i _ := by
    have order := transCmp_direction .asc (h.unmixed_cellsAt i)
    simp only [Direction.compare_asc] at order
    refine ⟨order, ⟨fun {a b} tie ↦ ?_⟩⟩
    exact Subtype.ext ((Cell.compare_eq_eq_iff (h.unmixed_cellsAt i a b)).1 tie)
  rows := h.transCmp_rows
  sorted keys ordered ho := by
    rw [ResultSet.order] at ho
    split at ho
    · cases ho
    · next ps hps =>
      cases ho
      exact ⟨ps, hps, stablySorted_mergeSort_of_mem r.rows (h.transCmp_rows ps)⟩

end ResultSet.Typed

/-! ## Runs -/

/-- All tables of a run can be compared by their cells: the one that is made from the records, in
the order asked for, cut to the limit, and stripped of what was only carried along, which is the
result. -/
theorem run_comparable {σ : Type} {c : Client σ} {p : Plan} {s : Scope} {t : Table}
    {predicate : Predicate} {state state' : σ} {records : List Record} {rows : Rows}
    (hp : prepare p = .ok (s, t, predicate))
    (he : evaluate c t predicate state = (.ok records, state'))
    (hc : convert s t (s.order t) records = .ok rows) :
    (ResultSet.ofRows t rows s.aliases).Comparable ∧
      ∃ ordered, (ResultSet.ofRows t rows s.aliases).order (s.order t).keys = .ok ordered ∧
        ordered.Comparable ∧ (cut p.limit ordered).Comparable ∧
        run c p state = (.ok (cut p.limit ordered).project, state') ∧
        (cut p.limit ordered).project.Comparable := by
  obtain ⟨hs, -, -⟩ := prepare_eq_ok_iff.1 hp
  have typed : (ResultSet.ofRows t rows s.aliases).Typed :=
    typed_of_converts (tableOf_of_evaluate he) (converts_of_convert hs hc)
  obtain ⟨ordered, ho⟩ := (orderRead_of_convert hs hc).ordered
  have finished : finish s t records = .ok (cut p.limit ordered).project := by
    rw [finish, hc]
    dsimp only
    rw [ho, Scope.plan_of_ofPlan hs]
  have ran : run c p state = (.ok (cut p.limit ordered).project, state') := by
    rw [run_eq, hp]
    dsimp only
    rw [he]
    exact congrArg (·, state') finished
  have sorted := typed.order ho
  exact ⟨typed.comparable, ordered, ho, sorted.comparable, (sorted.cut p.limit).comparable, ran,
    (sorted.cut p.limit).project.comparable⟩

/-- Numbers, texts, averages and empty cells, in order of an average and of a sum that is not
there. -/
def byAverage : Plan where
  projection := [⟨.call ⟨"Max", .column "Hash"⟩, some "Last"⟩,
    ⟨.call ⟨"avg", .column "BlockNumber"⟩, none⟩]
  table := "transactions"
  selection := some (.logical .or [.equals "blocknumber" "1", .equals "blocknumber" "2"])
  groupBy := some ["blocknumber"]
  having := none
  orderBy := some [⟨.call ⟨"AVG", .column "blocknumber"⟩, .desc⟩,
    ⟨.call ⟨"sum", .column "gasprice"⟩, .asc⟩]
  limit := some 2

/-- The cells of `byAverage`: one is a text, one a double and one, only carried along, empty. -/
theorem run_comparable_byAverage :
    ∃ s t predicate records l rows ordered,
      prepare byAverage = .ok (s, t, predicate) ∧
      evaluate Ledger.client t predicate (Ledger.ofBlocks twoBlocks) = (.ok records, l) ∧
      convert s t (s.order t) records = .ok rows ∧
      rows.rows =
        [[.text "0xC", .float (.ofNat 1), .null], [.text "0xD", .float (.ofNat 2), .null]] ∧
      (ResultSet.ofRows t rows s.aliases).Comparable ∧
      (ResultSet.ofRows t rows s.aliases).order (s.order t).keys = .ok ordered ∧
      (cut byAverage.limit ordered).project.Comparable := by
  have shown : ((prepare byAverage).toOption.bind fun q ↦
      (evaluate Ledger.client q.2.1 q.2.2 (Ledger.ofBlocks twoBlocks)).1.toOption.bind fun records ↦
        (convert q.1 q.2.1 (q.1.order q.2.1) records).toOption.map Rows.rows) =
      some [[.text "0xC", .float (.ofNat 1), .null], [.text "0xD", .float (.ofNat 2), .null]] := by
    decide +kernel
  obtain ⟨⟨s, t, predicate⟩, hp, shown⟩ := Option.bind_eq_some_iff.1 shown
  obtain ⟨records, he, shown⟩ := Option.bind_eq_some_iff.1 shown
  obtain ⟨rows, hc, cells⟩ := Option.map_eq_some_iff.1 shown
  have hp : prepare byAverage = .ok (s, t, predicate) := eq_ok_of_toOption hp
  have he : evaluate Ledger.client t predicate (Ledger.ofBlocks twoBlocks) = (.ok records, _) :=
    Prod.ext (eq_ok_of_toOption he) rfl
  have hc : convert s t (s.order t) records = .ok rows := eq_ok_of_toOption hc
  obtain ⟨built, ordered, ho, -, -, -, projected⟩ := run_comparable hp he hc
  exact ⟨s, t, predicate, records, _, rows, ordered, hp, he, hc, cells, built, ho, projected⟩

end Query

end LedgerQuery
