import LedgerQuery.Proofs.Kinds
import LedgerQuery.Proofs.Reordering

/-!
# Aggregates are exact

What a count, a sum, a least and a greatest cell over a column come to, told from the cells of the
column alone (`Aggregate.eval_exact`).  A sum is the total of the numbers, unless it has more than
128 bits or there is a text among the cells (`Aggregate.Summed`), and as each number has no more
than 128 bits (`Record.bounded_cell`), no order of the records lets a total through that is too
large.  The least and the greatest cell are outermost ones of the column (`Aggregate.Outermost`),
compared as what they are.
-/

namespace LedgerQuery

open Std
open Chain

/-! ## Widths -/

/-- A cell whose number, if it is one, is below a bound. -/
def Cell.Bounded (bound : Nat) (a : Cell) : Prop := ∀ n, a = .integer n → n < bound

namespace Chain

theorem Quantity.bounded_cell {width bits : Nat} (hw : width ≤ bits) (q : Quantity width) :
    q.cell.Bounded (2 ^ bits) := by
  rintro n ⟨⟩
  exact q.isLt.trans_le (Nat.pow_le_pow_right (by decide) hw)

theorem Quantity.bounded_cell? {width bits : Nat} (hw : width ≤ bits)
    (q : Option (Quantity width)) :
    (Quantity.cell? q).Bounded (2 ^ bits) := by
  cases q with
  | none => rintro n ⟨⟩
  | some q => exact q.bounded_cell hw

theorem bounded_text (bound : Nat) (s : String) : (Cell.text s).Bounded bound := by
  rintro n ⟨⟩

theorem bounded_text? (bound : Nat) (s : Option String) : (Cell.ofText? s).Bounded bound := by
  cases s with
  | none => rintro n ⟨⟩
  | some s => exact bounded_text bound s

namespace Record

/-- Lists are no longer than what a machine of 64 bits can hold. -/
def Countable : Record → Prop
  | .block b => b.transactions.length < 2 ^ 64 ∧ b.uncles.length < 2 ^ 64
  | .transaction _ => True

/-- The numbers of a record have 128 bits at most. -/
theorem bounded_cell {r : Record} (h : r.Countable) (column : String) :
    (r.cell column).Bounded (2 ^ 128) := by
  have length {n : Nat} (hn : n < 2 ^ 64) : (Cell.integer n).Bounded (2 ^ 128) := by
    rintro _ ⟨⟩
    exact hn.trans (by decide)
  cases r with
  | block b =>
    show ((b.cell? column).getD .null).Bounded (2 ^ 128)
    unfold Block.cell?
    split <;>
      first
      | exact bounded_text _ _
      | exact bounded_text? _ _
      | exact Quantity.bounded_cell (by decide) _
      | exact Quantity.bounded_cell? (by decide) _
      | exact length h.1
      | exact length h.2
      | rintro n ⟨⟩
  | transaction x =>
    show ((x.cell? column).getD .null).Bounded (2 ^ 128)
    unfold Transaction.cell?
    split <;>
      first
      | exact bounded_text _ _
      | exact bounded_text? _ _
      | exact Quantity.bounded_cell (by decide) _
      | exact Quantity.bounded_cell? (by decide) _
      | rintro n ⟨⟩

end Record

end Chain

namespace Query.Aggregate

/-! ## Columns -/

/-- The cells of some records in a column, empty ones included. -/
def cellsOf (column : String) (rs : List Record) : List Cell := rs.map (·.cell column)

/-- The total of the numbers among some cells. -/
def total (cells : List Cell) : Nat := (numbersOf cells).sum

variable {column : String} {rs : List Record} {cells : List Cell}

/-- The cells that take part are those that are not empty. -/
theorem values_eq (column : String) (rs : List Record) :
    values column rs = (cellsOf column rs).filter fun a ↦ !a.isNull := by
  rw [values]
  induction rs with
  | nil => rfl
  | cons r rs ih =>
    rw [cellsOf, List.map_cons, Record.cell, ← cellsOf]
    cases hc : r.cell? column with
    | none => rw [List.filterMap_cons_none (f := fun r : Record ↦ r.cell? column) hc, ih]; rfl
    | some a =>
      rw [List.filterMap_cons_some (f := fun r : Record ↦ r.cell? column) hc, Option.getD_some,
        List.filter_cons, List.filter_cons, ih]

theorem mem_values_iff {a : Cell} : a ∈ values column rs ↔ a ∈ cellsOf column rs ∧ a ≠ .null := by
  rw [values_eq, List.mem_filter, Bool.not_eq_true', ← Bool.not_eq_true, Cell.isNull_iff]

theorem values_eq_nil_iff : values column rs = [] ↔ ∀ a ∈ cellsOf column rs, a = .null := by
  simp [List.eq_nil_iff_forall_not_mem, mem_values_iff]

theorem numbersOf_values : numbersOf (values column rs) = numbersOf (cellsOf column rs) := by
  rw [values_eq, numbersOf, numbersOf, List.filterMap_filter]
  congr 1
  funext a
  cases a <;> rfl

theorem mem_numbersOf {n : Nat} : n ∈ numbersOf cells ↔ .integer n ∈ cells := by
  have number (a : Cell) : Column.integer? a = some n ↔ a = .integer n := by
    cases a <;> simp [Column.integer?]
  simp only [numbersOf, List.mem_filterMap, number, exists_eq_right]

/-! ## Sums -/

/-- What a sum over a column comes to. -/
inductive Summed (column : String) (cells : List Cell) : Except Error Cell → Prop
  | empty (none : ∀ a ∈ cells, a = .null) : Summed column cells (.ok .null)
  | number (filled : ∃ a ∈ cells, a ≠ .null) (numbers : ∀ s, .text s ∉ cells)
      (small : total cells < 2 ^ 128) : Summed column cells (.ok (.integer (total cells)))
  | overflow (numbers : ∀ s, .text s ∉ cells) (large : 2 ^ 128 ≤ total cells) :
      Summed column cells (.error (.sumOverflow column))
  | notNumeric (text : ∃ s, .text s ∈ cells) : Summed column cells (.error (.notNumeric column))

theorem total_eq_zero (h : ∀ a ∈ cells, a = .null) : total cells = 0 := by
  have none : numbersOf cells = [] := by
    refine List.eq_nil_iff_forall_not_mem.2 fun n hn ↦ ?_
    cases h _ (mem_numbersOf.1 hn)
  rw [total, none]
  rfl

namespace Summed

variable {x y : Except Error Cell}

theorem unique (hx : Summed column cells x) (hy : Summed column cells y) : x = y := by
  have empty_text (h : ∀ a ∈ cells, a = .null) (s : String) : .text s ∉ cells := by
    intro hs
    cases h _ hs
  cases hx with
  | empty none => cases hy with
    | empty _ => rfl
    | number filled _ _ => obtain ⟨a, ha, hn⟩ := filled; exact absurd (none a ha) hn
    | overflow _ large => rw [total_eq_zero none] at large; exact absurd large (by decide)
    | notNumeric text => obtain ⟨s, hs⟩ := text; exact absurd hs (empty_text none s)
  | number filled numbers small => cases hy with
    | empty none => obtain ⟨a, ha, hn⟩ := filled; exact absurd (none a ha) hn
    | number _ _ _ => rfl
    | overflow _ large => exact absurd small (Nat.not_lt.2 large)
    | notNumeric text => obtain ⟨s, hs⟩ := text; exact absurd hs (numbers s)
  | overflow numbers large => cases hy with
    | empty none => rw [total_eq_zero none] at large; exact absurd large (by decide)
    | number _ _ small => exact absurd small (Nat.not_lt.2 large)
    | overflow _ _ => rfl
    | notNumeric text => obtain ⟨s, hs⟩ := text; exact absurd hs (numbers s)
  | notNumeric text =>
    obtain ⟨s, hs⟩ := text
    cases hy with
    | empty none => exact absurd hs (empty_text none s)
    | number _ numbers _ => exact absurd hs (numbers s)
    | overflow numbers _ => exact absurd hs (numbers s)
    | notNumeric _ => rfl

/-- The order of the cells makes no difference. -/
theorem of_perm {cells' : List Cell} (h : Summed column cells x) (hp : cells.Perm cells') :
    Summed column cells' x := by
  have same : total cells = total cells' := (hp.filterMap _).sum_nat
  cases h with
  | empty none => exact .empty fun a ha ↦ none a (hp.mem_iff.2 ha)
  | number filled numbers small =>
    obtain ⟨a, ha, hn⟩ := filled
    rw [same] at small ⊢
    exact .number ⟨a, hp.mem_iff.1 ha, hn⟩ (fun s hs ↦ numbers s (hp.mem_iff.2 hs)) small
  | overflow numbers large =>
    exact .overflow (fun s hs ↦ numbers s (hp.mem_iff.2 hs)) (same ▸ large)
  | notNumeric text =>
    obtain ⟨s, hs⟩ := text
    exact .notNumeric ⟨s, hp.mem_iff.1 hs⟩

variable (h : Summed column cells x)
include h

theorem eq_null_iff : x = .ok .null ↔ ∀ a ∈ cells, a = .null := by
  refine ⟨?_, fun none ↦ h.unique (.empty none)⟩
  rintro rfl
  cases h with
  | empty none => exact none

theorem eq_integer_iff {n : Nat} : x = .ok (.integer n) ↔
    (∃ a ∈ cells, a ≠ .null) ∧ (∀ s, .text s ∉ cells) ∧ total cells < 2 ^ 128 ∧
      n = total cells := by
  constructor
  · rintro rfl
    cases h with
    | number filled numbers small => exact ⟨filled, numbers, small, rfl⟩
  · rintro ⟨filled, numbers, small, rfl⟩
    exact h.unique (.number filled numbers small)

theorem eq_overflow_iff : x = .error (.sumOverflow column) ↔
    (∀ s, .text s ∉ cells) ∧ 2 ^ 128 ≤ total cells := by
  constructor
  · rintro rfl
    cases h with
    | overflow numbers large => exact ⟨numbers, large⟩
  · rintro ⟨numbers, large⟩
    exact h.unique (.overflow numbers large)

theorem eq_notNumeric_iff : x = .error (.notNumeric column) ↔ ∃ s, .text s ∈ cells := by
  refine ⟨?_, fun text ↦ h.unique (.notNumeric text)⟩
  rintro rfl
  cases h with
  | notNumeric text => exact text

end Summed

/-- Adding numbers fails only where they get too large. -/
theorem eq_sumOverflow_of_foldlM {ns : List Nat} {m : Nat} {e : Error}
    (h : (ns.map Cell.integer).foldlM (add column) (.integer m) = .error e) :
    e = .sumOverflow column := by
  induction ns generalizing m with
  | nil => cases h
  | cons n ns ih =>
    rw [List.map_cons, List.foldlM_cons, add] at h
    split at h
    · exact ih h
    · cases h
      rfl

/-- The sum of numbers below the bound is below it too, or fails. -/
theorem sum_map_integer (column : String) {ns : List Nat} (hb : ∀ n ∈ ns, n < 2 ^ 128) :
    sum column (ns.map Cell.integer) =
      if ns = [] then .ok .null
      else if ns.sum < 2 ^ 128 then .ok (.integer ns.sum) else .error (.sumOverflow column) := by
  have single : ns.length ≤ 1 → ns.sum < 2 ^ 128 := by
    intro short
    match ns, short with
    | [], _ => decide
    | [n], _ => simpa using hb n
  cases hs : sum column (ns.map Cell.integer) with
  | ok v =>
    obtain ⟨small, rfl⟩ := sum_map_integer_eq_ok_iff.1 hs
    rw [if_pos (small.elim single id)]
    split <;> rfl
  | error e =>
    cases ns with
    | nil => cases hs
    | cons n ns =>
      have large : ¬(n :: ns).sum < 2 ^ 128 := by
        intro small
        have ok : sum column ((n :: ns).map Cell.integer) = .ok (.integer (n :: ns).sum) :=
          sum_map_integer_eq_ok_iff.2 ⟨.inr small, rfl⟩
        rw [ok] at hs
        cases hs
      rw [if_neg (List.cons_ne_nil n ns), if_neg large]
      exact congrArg _ (eq_sumOverflow_of_foldlM hs)

/-- Texts cannot be added, not even a single one. -/
theorem sum_text {cells : List Cell} (hne : cells ≠ []) (ht : ∀ a ∈ cells, ∃ s, a = .text s) :
    sum column cells = .error (.notNumeric column) := by
  obtain ⟨a, cells, rfl⟩ := List.exists_cons_of_ne_nil hne
  obtain ⟨s, rfl⟩ := ht _ List.mem_cons_self
  rfl

/-- A sum over a column is what it should be. -/
theorem summed_eval {t : Table} (ht : ∀ r ∈ rs, tableOf r = t) (hc : column ∈ t.columns)
    (hb : ∀ r ∈ rs, r.Countable) :
    Summed column (cellsOf column rs) (eval ⟨.sum, some column⟩ rs) := by
  show Summed _ _ (sum column (values column rs))
  have proper : Proper (values column rs) := fun a ↦ mem_values
  by_cases text : ∃ s, .text s ∈ cellsOf column rs
  · -- One text makes this a column of texts.
    obtain ⟨s, hs⟩ := text
    have there : .text s ∈ values column rs := mem_values_iff.2 ⟨hs, nofun⟩
    have kind : t.kind column = .text := by
      have fits := fits_of_mem_values ht hc there
      generalize t.kind column = k at fits
      cases fits with
      | text _ => rfl
    rw [sum_text (List.ne_nil_of_mem there)]
    · exact .notNumeric ⟨s, hs⟩
    · intro a ha
      have fits := fits_of_mem_values ht hc ha
      rw [kind] at fits
      cases fits with
      | null _ => exact absurd rfl (mem_values_iff.1 ha).2
      | text s => exact ⟨s, rfl⟩
  · have numbers : ∀ s, .text s ∉ cellsOf column rs := fun s hs ↦ text ⟨s, hs⟩
    have all := eq_map_numbersOf proper fun s hs ↦ numbers s (mem_values_iff.1 hs).1
    have small : ∀ n ∈ numbersOf (values column rs), n < 2 ^ 128 := by
      intro n hn
      rw [numbersOf_values, mem_numbersOf] at hn
      obtain ⟨r, hr, hn⟩ := List.mem_map.1 hn
      exact Record.bounded_cell (hb r hr) column n hn
    rw [congrArg (sum column) all, sum_map_integer column small, numbersOf_values]
    split
    · next none =>
      refine .empty (values_eq_nil_iff.1 ?_)
      rw [all, numbersOf_values, none]
      rfl
    · next some =>
      have filled : ∃ a ∈ cellsOf column rs, a ≠ .null := by
        obtain ⟨n, hn⟩ := List.exists_mem_of_ne_nil _ some
        exact ⟨_, mem_numbersOf.1 hn, nofun⟩
      split
      · next small => exact .number filled numbers small
      · next large => exact .overflow numbers (Nat.le_of_not_lt large)

/-! ## Least and greatest cells -/

/-- The order of numbers, and that of texts. -/
inductive AtMost : Cell → Cell → Prop
  | integer {m n : Nat} (le : m ≤ n) : AtMost (.integer m) (.integer n)
  | text {s t : String} (le : s ≤ t) : AtMost (.text s) (.text t)

/-- One of some cells before which there is no other, empty cells left out. -/
inductive Outermost (before : Cell → Cell → Prop) (cells : List Cell) : Cell → Prop
  | empty (none : ∀ a ∈ cells, a = .null) : Outermost before cells .null
  | cell {v : Cell} (mem : v ∈ cells) (filled : v ≠ .null)
      (first : ∀ a ∈ cells, a ≠ .null → before v a) : Outermost before cells v

theorem isLE_compare_string {s t : String} : (compare s t).isLE ↔ s ≤ t :=
  isLE_compareOfLessAndEq String.le_antisymm String.not_le String.le_total

/-- The cells of a column compare as numbers or as texts. -/
theorem atMost_of_isLE {t : Table} (ht : ∀ r ∈ rs, tableOf r = t) (hc : column ∈ t.columns)
    {a b : Cell} (ha : a ∈ values column rs) (hb : b ∈ values column rs)
    (h : (Cell.exact a b).isLE) : AtMost a b := by
  have fits := fits_of_mem_values ht hc ha
  have fits' := fits_of_mem_values ht hc hb
  obtain ⟨floatA, nullA⟩ := mem_values ha
  obtain ⟨floatB, nullB⟩ := mem_values hb
  rw [← Cell.compare_eq_exact (Cell.unmixed_of_not_isFloat floatA floatB)] at h
  generalize t.kind column = k at fits fits'
  cases fits with
  | null _ => cases nullA
  | float _ => cases floatA
  | integer m => cases fits' with
    | null _ => cases nullB
    | integer n => exact .integer (isLE_compare.1 h)
  | text s => cases fits' with
    | null _ => cases nullB
    | text s' => exact .text (isLE_compare_string.1 h)

/-- Whatever picks a cell that none of the others lies before has picked an outermost one. -/
theorem outermost_of_forall {before : Cell → Cell → Prop} {pick : List Cell → Cell}
    (hn : pick [] = .null) (hm : values column rs ≠ [] → pick (values column rs) ∈ values column rs)
    (hp : ∀ a ∈ values column rs, pick (values column rs) ∈ values column rs →
      before (pick (values column rs)) a) :
    Outermost before (cellsOf column rs) (pick (values column rs)) := by
  by_cases none : values column rs = []
  · rw [none, hn]
    exact .empty (values_eq_nil_iff.1 none)
  · have mem := hm none
    obtain ⟨there, filled⟩ := mem_values_iff.1 mem
    exact .cell there filled fun a ha hn ↦ hp a (mem_values_iff.2 ⟨ha, hn⟩) mem

/-- Aggregates are exact and never wrap: counts are numbers of records, a sum is the total of the
numbers if it has 128 bits, in whichever order they are added, and the least and the greatest cell
are cells of the column that no other lies beyond. -/
theorem eval_exact {t : Table} (ht : ∀ r ∈ rs, tableOf r = t) (hc : column ∈ t.columns)
    (hb : ∀ r ∈ rs, r.Countable) :
    eval ⟨.count, none⟩ rs = .ok (.integer rs.length) ∧
      eval ⟨.count, some column⟩ rs =
        .ok (.integer ((cellsOf column rs).countP fun a ↦ a ≠ .null)) ∧
      (eval ⟨.sum, some column⟩ rs = .ok .null ↔ ∀ a ∈ cellsOf column rs, a = .null) ∧
      (∀ n, eval ⟨.sum, some column⟩ rs = .ok (.integer n) ↔
        (∃ a ∈ cellsOf column rs, a ≠ .null) ∧ (∀ s, .text s ∉ cellsOf column rs) ∧
          total (cellsOf column rs) < 2 ^ 128 ∧ n = total (cellsOf column rs)) ∧
      (eval ⟨.sum, some column⟩ rs = .error (.sumOverflow column) ↔
        (∀ s, .text s ∉ cellsOf column rs) ∧ 2 ^ 128 ≤ total (cellsOf column rs)) ∧
      (eval ⟨.sum, some column⟩ rs = .error (.notNumeric column) ↔
        ∃ s, .text s ∈ cellsOf column rs) ∧
      (∀ rs', rs.Perm rs' → eval ⟨.sum, some column⟩ rs' = eval ⟨.sum, some column⟩ rs) ∧
      (∃ v, eval ⟨.min, some column⟩ rs = .ok v ∧ Outermost AtMost (cellsOf column rs) v) ∧
      ∃ v, eval ⟨.max, some column⟩ rs = .ok v ∧
        Outermost (fun v a ↦ AtMost a v) (cellsOf column rs) v := by
  have summed := summed_eval ht hc hb
  have noFloat : ∀ a ∈ values column rs, a.isFloat = false := fun a ha ↦ (mem_values ha).1
  refine ⟨rfl, ?count, summed.eq_null_iff, fun n ↦ summed.eq_integer_iff, summed.eq_overflow_iff,
    summed.eq_notNumeric_iff, ?order, ⟨_, rfl, ?least⟩, ⟨_, rfl, ?greatest⟩⟩
  case count =>
    show Except.ok (Cell.integer (values column rs).length) = _
    have filled (a : Cell) : (!a.isNull) = decide (a ≠ .null) := by cases a <;> rfl
    rw [values_eq, List.countP_eq_length_filter]
    simp only [filled]
  case order =>
    intro rs' hp
    have summed' :=
      summed_eval (fun r hr ↦ ht r (hp.mem_iff.2 hr)) hc fun r hr ↦ hb r (hp.mem_iff.2 hr)
    exact summed'.unique (summed.of_perm (hp.map _))
  case least =>
    refine outermost_of_forall rfl least_mem fun a ha mem ↦ ?_
    exact atMost_of_isLE ht hc mem ha (least_isLE noFloat a ha)
  case greatest =>
    refine outermost_of_forall rfl greatest_mem fun a ha mem ↦ ?_
    exact atMost_of_isLE ht hc ha mem (isLE_greatest noFloat a ha)

/-- Two transactions, each with half of what is too much for 128 bits. -/
def halves : List Record :=
  [.transaction { (default : Transaction) with
      hash := "0xA", value := ⟨2 ^ 127, by decide⟩, gasPrice := some ⟨2 ^ 128 - 1, by decide⟩ },
    .transaction { (default : Transaction) with hash := "0xB", value := ⟨2 ^ 127, by decide⟩ }]

theorem eval_exact_halves :
    eval ⟨.sum, some "value"⟩ halves = .error (.sumOverflow "value") ∧
      eval ⟨.sum, some "gasprice"⟩ halves = .ok (.integer (2 ^ 128 - 1)) ∧
      eval ⟨.sum, some "to"⟩ halves = .ok .null ∧
      eval ⟨.sum, some "hash"⟩ halves = .error (.notNumeric "hash") := by
  have table : ∀ r ∈ halves, tableOf r = .transactions := by decide
  have countable : ∀ r ∈ halves, r.Countable := by simp [halves, Record.Countable]
  have known (column : String) (h : column ∈ Table.transactions.columns) :
      column ∈ Table.transactions.columns := h
  obtain ⟨-, -, -, -, overflow, -⟩ := eval_exact table (known "value" (by decide)) countable
  obtain ⟨-, -, -, number, -⟩ := eval_exact table (known "gasprice" (by decide)) countable
  obtain ⟨-, -, null, -⟩ := eval_exact table (known "to" (by decide)) countable
  obtain ⟨-, -, -, -, -, text, -⟩ := eval_exact table (known "hash" (by decide)) countable
  have values : cellsOf "value" halves = [.integer (2 ^ 127), .integer (2 ^ 127)] := rfl
  have prices : cellsOf "gasprice" halves = [.integer (2 ^ 128 - 1), .null] := rfl
  refine ⟨overflow.2 ?_, (number _).2 ?_, null.2 (by decide), text.2 ⟨"0xA", by decide⟩⟩
  · rw [values]
    exact ⟨by simp, by decide⟩
  · rw [prices]
    exact ⟨⟨_, List.mem_cons_self, by simp⟩, by simp, by decide, by decide⟩

end Query.Aggregate

end LedgerQuery
