import LedgerQuery.Proofs.CellOrder
import LedgerQuery.Query.Aggregate
import LedgerQuery.Query.Columnar
import Mathlib.Algebra.GroupWithZero.Nat
import Mathlib.Data.List.Basic

/-!
# Aggregates and their names

An aggregate is known by its name: different aggregates over a table have different names
(`Aggregate.eq_of_title_eq`), none of which is the name of a column.  A sum is one of natural
numbers, which fails where the total is too large (`Aggregate.sum_eq_ok_iff`), and an average has a
sum of doubles in it (`Aggregate.average_eq_ok_iff`).  The cells of an aggregate over different
groups can be put in order, as an average is always a double and everything else never is
(`Aggregate.eval_unmixed`).  It reports nothing but what `OfAggregates` lists.
-/

namespace LedgerQuery.Query

open Chain
open Number (Binary64)

/-! ## Names -/

def Summary.title : Summary → String
  | .count => "count"
  | .sum => "sum"
  | .avg => "avg"
  | .min => "min"
  | .max => "max"

/-- A name is that of a summary in any case of its letters. -/
theorem Summary.lower_of_ofName? {name : String} {s : Summary} (h : ofName? name = some s) :
    Text.lower name = s.title := by
  rw [ofName?] at h
  split at h
  · next hn => cases h; exact hn
  · next hn => cases h; exact hn
  · next hn => cases h; exact hn
  · next hn => cases h; exact hn
  · next hn => cases h; exact hn
  · cases h

theorem Summary.paren_not_mem_title (s : Summary) : '(' ∉ s.title.toList := by
  cases s <;> decide

/-- No two summaries have the same title. -/
theorem Summary.title_injective : Function.Injective Summary.title := by
  intro s t h
  cases s <;> cases t <;> first | rfl | exact absurd h (by decide)

/-- A column is looked up under its name in lower case, and found if the table has it. -/
theorem column_eq_ok_iff {t : Table} {name c : String} :
    column t name = .ok c ↔ Text.lower name = c ∧ c ∈ t.columns := by
  rw [← Table.column?_eq_some_iff, column]
  cases t.column? name <;> simp

/-- No column is called like a call or like `*`. -/
theorem column_ne {t : Table} {column : String} (h : column ∈ t.columns) :
    '(' ∉ column.toList ∧ column ≠ "*" := by
  revert column
  cases t <;> decide

namespace Aggregate

/-- The name of an aggregate, which is that of every call it stands for. -/
def title (a : Aggregate) : String := a.summary.title ++ "(" ++ a.column.getD "*" ++ ")"

/-- An aggregate over a column of a table, or over all records. -/
def Known (t : Table) (a : Aggregate) : Prop :=
  ∀ column, a.column = some column → column ∈ t.columns

/-- The title of an aggregate is that of its summary with the column in parentheses. -/
theorem toList_title (a : Aggregate) :
    a.title.toList = a.summary.title.toList ++ '(' :: ((a.column.getD "*").toList ++ [')']) := by
  simp [title]

/-- After the first parenthesis of a title there is no other. -/
theorem Known.paren_not_mem {t : Table} {a : Aggregate} (h : a.Known t) :
    '(' ∉ (a.column.getD "*").toList ++ [')'] := by
  obtain ⟨s, column⟩ := a
  cases column with
  | none => show '(' ∉ "*".toList ++ [')']; decide
  | some c => simpa using (column_ne (h c rfl)).1

/-- The name of an aggregate tells what is computed over which column. -/
theorem parts_of_title_eq {t : Table} {a b : Aggregate} (ha : a.Known t) (h : a.title = b.title) :
    a.summary = b.summary ∧ a.column.getD "*" = b.column.getD "*" := by
  have hl := congrArg String.toList h
  rw [toList_title, toList_title, List.append_cons_inj_of_notMem a.summary.paren_not_mem_title
    ha.paren_not_mem] at hl
  obtain ⟨hs, -, hc⟩ := hl
  exact ⟨Summary.title_injective (String.toList_inj.1 hs),
    String.toList_inj.1 (List.append_cancel_right hc)⟩

/-- Aggregates of known columns are told apart by their titles. -/
theorem eq_of_title_eq {t : Table} {a b : Aggregate} (ha : a.Known t) (hb : b.Known t)
    (h : a.title = b.title) : a = b := by
  obtain ⟨hs, hc⟩ := parts_of_title_eq ha h
  obtain ⟨s, column⟩ := a
  obtain ⟨s', column'⟩ := b
  cases hs
  cases column with
  | none =>
    cases column' with
    | none => rfl
    | some c' => exact absurd hc.symm (column_ne (hb c' rfl)).2
  | some c =>
    cases column' with
    | none => exact absurd hc (column_ne (ha c rfl)).2
    | some c' =>
      obtain rfl : c = c' := hc
      rfl

/-- No aggregate is titled like a column. -/
theorem title_not_mem_columns (t : Table) (a : Aggregate) : a.title ∉ t.columns := by
  intro h
  apply (column_ne h).1
  rw [toList_title]
  exact List.mem_append_right _ List.mem_cons_self

/-- A call that stands for an aggregate has its name. -/
theorem ofCall_eq_ok {t : Table} {c : Call} {a : Aggregate} (h : ofCall t c = .ok a) :
    c.name = a.title ∧ a.Known t := by
  obtain ⟨function, argument⟩ := c
  rw [ofCall] at h
  split at h
  · cases h
  · next hs hx =>
    cases h
    dsimp only at hs hx
    subst hx
    exact ⟨by rw [Call.name, Summary.lower_of_ofName? hs]; rfl, fun _ h ↦ nomatch h⟩
  · cases h
  · next summary name hs hx =>
    dsimp only at hs hx
    subst hx
    split at h
    · next column hc =>
      cases h
      obtain ⟨rfl, hm⟩ := column_eq_ok_iff.1 hc
      refine ⟨by rw [Call.name, Summary.lower_of_ofName? hs]; rfl, fun column h ↦ ?_⟩
      cases h
      exact hm
    · cases h

/-! ## Numbers -/

/-- The numbers among some cells. -/
def numbersOf (cells : List Cell) : List Nat := cells.filterMap Column.integer?

/-- Cells that take part in an aggregate over a column. -/
def Proper (cells : List Cell) : Prop := ∀ a ∈ cells, a.isFloat = false ∧ a.isNull = false

/-- Cells without texts, empty cells and doubles are the numbers among them. -/
theorem eq_map_numbersOf {cells : List Cell} (hc : Proper cells) (ht : ∀ s, .text s ∉ cells) :
    cells = (numbersOf cells).map Cell.integer := by
  induction cells with
  | nil => rfl
  | cons a cells ih =>
    obtain ⟨⟨hf, hn⟩, proper⟩ := List.forall_mem_cons.1 hc
    have rest := ih proper fun s hs ↦ ht s (List.mem_cons_of_mem a hs)
    cases a with
    | null => cases hn
    | float x => cases hf
    | text s => exact absurd List.mem_cons_self (ht s)
    | integer n => exact congrArg (Cell.integer n :: ·) rest

/-- A step that fails on texts is not taken over a list with a text in it. -/
theorem text_not_mem_of_foldlM {β : Type} {f : β → Cell → Except Error β}
    (hf : ∀ b s, ∃ e, f b (.text s) = .error e) {cells : List Cell} {b b' : β}
    (h : cells.foldlM f b = .ok b') : ∀ s, .text s ∉ cells := by
  induction cells generalizing b with
  | nil => exact fun s hs ↦ absurd hs List.not_mem_nil
  | cons a cells ih =>
    rw [List.foldlM_cons] at h
    cases ha : f b a with
    | error e => rw [ha] at h; cases h
    | ok c =>
      rw [ha] at h
      intro s hs
      rcases List.mem_cons.1 hs with rfl | hs
      · obtain ⟨e, he⟩ := hf b s
        rw [he] at ha
        cases ha
      · exact ih h s hs

/-! ## Sums -/

/-- Adding up natural numbers succeeds while the total stays below `2 ^ 128`, and gives this
total. -/
theorem foldlM_add_eq_ok_iff {column : String} {ns : List Nat} {m : Nat} {v : Cell} :
    (ns.map Cell.integer).foldlM (add column) (.integer m) = .ok v ↔
      (ns = [] ∨ m + ns.sum < 2 ^ 128) ∧ v = .integer (m + ns.sum) := by
  induction ns generalizing m with
  | nil =>
    constructor
    · intro h
      cases h
      exact ⟨.inl rfl, rfl⟩
    · rintro ⟨-, rfl⟩
      rfl
  | cons n ns ih =>
    rw [List.map_cons, List.foldlM_cons, add, List.sum_cons, ← Nat.add_assoc]
    split
    · next small =>
      show (ns.map Cell.integer).foldlM (add column) (.integer (m + n)) = .ok v ↔ _
      rw [ih]
      refine and_congr_left fun _ ↦
        ⟨fun h ↦ .inr ?_, fun h ↦ .inr (h.resolve_left (List.cons_ne_nil _ _))⟩
      rcases h with rfl | h
      · exact small
      · exact h
    · next large =>
      constructor
      · intro h
        cases h
      · rintro ⟨h, -⟩
        have total := h.resolve_left (List.cons_ne_nil _ _)
        omega

/-- A single number is its own sum, and more are added up if the total stays below `2 ^ 128`. -/
theorem sum_map_integer_eq_ok_iff {column : String} {ns : List Nat} {v : Cell} :
    sum column (ns.map Cell.integer) = .ok v ↔
      (ns.length ≤ 1 ∨ ns.sum < 2 ^ 128) ∧ v = if ns = [] then .null else .integer ns.sum := by
  cases ns with
  | nil =>
    constructor
    · intro h
      cases h
      exact ⟨.inl (Nat.zero_le 1), rfl⟩
    · rintro ⟨-, rfl⟩
      rfl
  | cons n ns =>
    show (ns.map Cell.integer).foldlM (add column) (.integer n) = .ok v ↔ _
    have single : ns.length + 1 ≤ 1 ↔ ns = [] := by
      rw [← List.length_eq_zero_iff]
      omega
    rw [foldlM_add_eq_ok_iff, if_neg (List.cons_ne_nil n ns), List.sum_cons, List.length_cons,
      single]

/-- A sum over a column, and what it takes: no text, and a total that is not too large, unless it is
that of a single cell. -/
theorem sum_eq_ok_iff {column : String} {cells : List Cell} {v : Cell} (hc : Proper cells) :
    sum column cells = .ok v ↔
      (∀ s, .text s ∉ cells) ∧ ((numbersOf cells).length ≤ 1 ∨ (numbersOf cells).sum < 2 ^ 128) ∧
        v = if numbersOf cells = [] then .null else .integer (numbersOf cells).sum := by
  have text (b : Cell) (s : String) : ∃ e, add column b (.text s) = .error e := by
    cases b <;> exact ⟨_, rfl⟩
  constructor
  · intro h
    have ht := text_not_mem_of_foldlM text h
    rw [congrArg (sum column) (eq_map_numbersOf hc ht)] at h
    exact ⟨ht, sum_map_integer_eq_ok_iff.1 h⟩
  · rintro ⟨ht, h⟩
    rw [congrArg (sum column) (eq_map_numbersOf hc ht)]
    exact sum_map_integer_eq_ok_iff.2 h

/-! ## Averages -/

/-- Adding numbers as doubles never fails. -/
theorem foldlM_addFloat (column : String) (ns : List Nat) (x : Binary64) :
    (ns.map Cell.integer).foldlM (addFloat column) x =
      .ok (ns.foldl (fun x n ↦ x + .ofNat n) x) := by
  induction ns generalizing x with
  | nil => rfl
  | cons n ns ih => exact ih (x + .ofNat n)

/-- An average of natural numbers is their total as doubles, divided by how many they are. -/
theorem average_map_integer (column : String) (ns : List Nat) :
    average column (ns.map Cell.integer) =
      .ok (if ns = [] then .null
        else .float (ns.foldl (fun x n ↦ x + .ofNat n) (.zero false) / .ofNat ns.length)) := by
  rw [average, foldlM_addFloat, List.length_map]
  cases ns <;> rfl

/-- An average over a column: the numbers are added as doubles, one after the other. -/
theorem average_eq_ok_iff {column : String} {cells : List Cell} {v : Cell} (hc : Proper cells) :
    average column cells = .ok v ↔
      (∀ s, .text s ∉ cells) ∧
        v = if numbersOf cells = [] then .null
          else .float ((numbersOf cells).foldl (fun x n ↦ x + .ofNat n) (.zero false) /
            .ofNat (numbersOf cells).length) := by
  have text (x : Binary64) (s : String) : ∃ e, addFloat column x (.text s) = .error e := ⟨_, rfl⟩
  constructor
  · intro h
    have ht : ∀ s, .text s ∉ cells := by
      rw [average] at h
      split at h
      · next total htotal => exact text_not_mem_of_foldlM text htotal
      · cases h
    rw [congrArg (average column) (eq_map_numbersOf hc ht), average_map_integer] at h
    exact ⟨ht, (Except.ok.inj h).symm⟩
  · rintro ⟨ht, rfl⟩
    rw [congrArg (average column) (eq_map_numbersOf hc ht), average_map_integer]

/-! ## Cells -/

/-- The values of a column in a group are no doubles, and none of them is empty. -/
theorem mem_values {column : String} {g : List Record} {v : Cell} (h : v ∈ values column g) :
    v.isFloat = false ∧ v.isNull = false := by
  obtain ⟨h, hn⟩ := List.mem_filter.1 h
  obtain ⟨r, -, hr⟩ := List.mem_filterMap.1 h
  refine ⟨?_, by simpa using hn⟩
  have hc := r.isFloat_cell column
  rwa [Record.cell, hr] at hc

/-- Picking one of some cells, again and again. -/
theorem foldl_pick_mem {pick : Cell → Cell → Cell} (hp : ∀ a b, pick a b = a ∨ pick a b = b)
    (a : Cell) (cells : List Cell) : cells.foldl pick a ∈ a :: cells := by
  induction cells generalizing a with
  | nil => exact List.mem_singleton_self a
  | cons b cells ih =>
    rcases List.mem_cons.1 (ih (pick a b)) with h | h
    · rw [List.foldl_cons, h]
      rcases hp a b with hp | hp <;> rw [hp]
      · exact List.mem_cons_self
      · exact List.mem_cons_of_mem _ List.mem_cons_self
    · exact List.mem_cons_of_mem _ (List.mem_cons_of_mem _ h)

/-- The least of some cells is one of them. -/
theorem least_mem {cells : List Cell} (h : cells ≠ []) : least cells ∈ cells := by
  cases cells with
  | nil => exact absurd rfl h
  | cons a cells => exact foldl_pick_mem (fun a b ↦ (ite_eq_or_eq _ _ _).symm) a cells

/-- The greatest of some cells is one of them. -/
theorem greatest_mem {cells : List Cell} (h : cells ≠ []) : greatest cells ∈ cells := by
  cases cells with
  | nil => exact absurd rfl h
  | cons a cells => exact foldl_pick_mem (fun a b ↦ ite_eq_or_eq _ _ _) a cells

/-- Only an average is a double. -/
theorem isFloat_eval {a : Aggregate} {g : List Record} {v : Cell} (h : a.eval g = .ok v) :
    v.isNull = true ∨ v.isFloat = decide (a.summary = .avg ∧ a.column.isSome) := by
  obtain ⟨summary, column⟩ := a
  cases column with
  | none => cases h; exact .inr (by simp [Cell.isFloat])
  | some column =>
    cases summary with
    | count => cases h; exact .inr rfl
    | sum =>
      obtain ⟨-, -, rfl⟩ := (sum_eq_ok_iff fun _ ↦ mem_values).1 h
      split
      · exact .inl rfl
      · exact .inr rfl
    | avg =>
      obtain ⟨-, rfl⟩ := (average_eq_ok_iff fun _ ↦ mem_values).1 h
      split
      · exact .inl rfl
      · exact .inr rfl
    | min =>
      cases h
      by_cases hn : values column g = []
      · rw [hn]; exact .inl rfl
      · exact .inr (mem_values (least_mem hn)).1
    | max =>
      cases h
      by_cases hn : values column g = []
      · rw [hn]; exact .inl rfl
      · exact .inr (mem_values (greatest_mem hn)).1

/-- The cells of an aggregate over two groups compare without rounding. -/
theorem eval_unmixed {a : Aggregate} {g g' : List Record} {v w : Cell} (hv : a.eval g = .ok v)
    (hw : a.eval g' = .ok w) : v.Unmixed w := by
  rcases isFloat_eval hv with hv | hv
  · exact .inr (.inl hv)
  · rcases isFloat_eval hw with hw | hw
    · exact .inr (.inr hw)
    · exact .inl (hv.trans hw.symm)

end Aggregate

/-! ## Errors -/

/-- An outcome whose error, if it is one, is of some kind. -/
def Throws {α : Type} (kind : Error → Prop) (x : Except Error α) : Prop :=
  ∀ e, x = .error e → kind e

namespace Throws

variable {α β : Type} {kind : Error → Prop} {x : Except Error α}

theorem ok (a : α) : Throws kind (.ok a) := nofun

theorem fault {e : Error} (h : kind e) : Throws kind (.error e : Except Error α) := by
  rintro _ ⟨⟩
  exact h

/-- What is reported stays the same when it is passed on. -/
theorem error {e : Error} (h : Throws kind x) (hx : x = .error e) :
    Throws kind (.error e : Except Error β) :=
  .fault (h e hx)

/-- A step after another one reports what one of the two does. -/
theorem bind {f : α → Except Error β} (hx : Throws kind x) (hf : ∀ a, Throws kind (f a)) :
    Throws kind (x >>= f) := by
  cases h : x with
  | ok a => exact hf a
  | error e => exact hx.error h

/-- A list of steps reports what one of them does. -/
theorem mapM {f : α → Except Error β} {as : List α} (h : ∀ a, Throws kind (f a)) :
    Throws kind (as.mapM f) := by
  induction as with
  | nil => exact ok _
  | cons a as ih =>
    rw [List.mapM_cons]
    exact (h a).bind fun _ ↦ ih.bind fun _ ↦ ok _

/-- Steps from the left report what one of them does. -/
theorem foldlM {f : β → α → Except Error β} {as : List α} {b : β}
    (h : ∀ b a, Throws kind (f b a)) : Throws kind (as.foldlM f b) := by
  induction as generalizing b with
  | nil => exact ok b
  | cons a as ih =>
    rw [List.foldlM_cons]
    exact (h b a).bind fun _ ↦ ih

end Throws

/-- A kind of errors with all in it that aggregates may report of groups. -/
structure OfAggregates (kind : Error → Prop) : Prop where
  unsupportedFunction : ∀ call, kind (.unsupportedFunction call)
  sumOverflow : ∀ column, kind (.sumOverflow column)
  notNumeric : ∀ column, kind (.notNumeric column)

namespace OfAggregates

variable {kind : Error → Prop} (hk : OfAggregates kind)
include hk

/-- Adding to a sum reports what aggregates may report. -/
theorem add (column : String) (a b : Cell) : Throws kind (Aggregate.add column a b) := by
  rw [Aggregate.add.eq_def]
  split
  · exact .fault (hk.notNumeric _)
  · exact .fault (hk.notNumeric _)
  · exact .ok _
  · split
    · exact .ok _
    · exact .fault (hk.sumOverflow _)
  · exact .ok _

/-- An average reports what aggregates may report. -/
theorem average (column : String) (cells : List Cell) :
    Throws kind (Aggregate.average column cells) := by
  have total : Throws kind (cells.foldlM (Aggregate.addFloat column) (.zero false)) := by
    refine .foldlM fun _ a ↦ ?_
    rw [Aggregate.addFloat]
    split
    · exact .ok _
    · exact .fault (hk.notNumeric _)
  rw [Aggregate.average]
  split
  · split <;> exact .ok _
  · next h => exact total.error h

/-- An aggregate reports what aggregates may report. -/
theorem eval (a : Aggregate) (g : List Record) : Throws kind (a.eval g) := by
  rw [Aggregate.eval]
  split
  · exact .ok _
  · next column _ =>
    dsimp only
    split
    · exact .ok _
    · exact .foldlM (hk.add column)
    · exact hk.average column _
    · exact .ok _
    · exact .ok _

end OfAggregates

end LedgerQuery.Query
