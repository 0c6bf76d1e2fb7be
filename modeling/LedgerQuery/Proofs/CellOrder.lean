import LedgerQuery.Chain.Record
import LedgerQuery.Proofs.StableSort
import LedgerQuery.Query.ResultSet

/-!
# The order of cells

Where no natural number meets a double, the comparison of cells is an order: it agrees with
`Cell.exact`, which never rounds.  This is so for the cells of records, which are no doubles.

Things are put in order by several of their cells, the first difference deciding (`compareBy`).  A
key that comes a second time decides nothing any more (`compareBy_repeated`).
-/

namespace LedgerQuery

open Std
open Chain

namespace Cell

/-! ## Cells that compare exactly -/

/-- The number of a cell: of a double, its place among all doubles. -/
def number : Cell → Int
  | .integer n => n
  | .float x => x.place
  | .null | .text _ => 0

def characters : Cell → String
  | .text s => s
  | .null | .integer _ | .float _ => ""

/-- The comparison of cells by kind, then by number, then by characters. -/
def exact : Cell → Cell → Ordering :=
  compareLex (compareOn rank) (compareLex (compareOn number) (compareOn characters))

instance : TransCmp exact := inferInstanceAs (TransCmp (compareLex _ _))

def isFloat : Cell → Bool
  | .float _ => true
  | .null | .integer _ | .text _ => false

/-- Two cells that compare without rounding: they are not a natural number and a double. -/
def Unmixed (a b : Cell) : Prop :=
  a.isFloat = b.isFloat ∨ a.isNull = true ∨ b.isNull = true

theorem unmixed_of_not_isFloat {a b : Cell} (ha : a.isFloat = false) (hb : b.isFloat = false) :
    Unmixed a b :=
  .inl (ha.trans hb.symm)

theorem compare_eq_exact {a b : Cell} (h : Unmixed a b) : a.compare b = exact a b := by
  have cast : ∀ m n : Nat, compare (m : Int) n = compare m n := fun m n ↦ by
    simp only [compare, compareOfLessAndEq, Int.ofNat_lt, Int.ofNat_inj]
  cases a <;> cases b
  -- Cells of different kinds compare by their ranks alone.
  any_goals rfl
  case integer.integer m n =>
    simp [Cell.compare, exact, compareLex, compareOn, rank, number, characters, cast]
  case float.float x y =>
    simp [Cell.compare, Number.Binary64.compare, exact, compareLex, compareOn, rank, number,
      characters]
  case integer.float => simp [Unmixed, isFloat, isNull] at h
  case float.integer => simp [Unmixed, isFloat, isNull] at h

/-- Doubles with one place have the same bits, those that are no numbers included. -/
theorem place_injective : Function.Injective Number.Binary64.place := by
  intro x y h
  have hx := x.bits.toNat_lt
  have hy := y.bits.toNat_lt
  have bits : x.bits.toNat = y.bits.toNat := by
    simp only [Number.Binary64.place, Number.Binary64.isNegative, Number.Binary64.magnitude,
      decide_eq_true_eq] at h
    split at h <;> split at h <;> omega
  cases x
  cases y
  exact congrArg _ (UInt64.toNat_inj.1 bits)

/-- Cells that compare without rounding tie only if they are equal. -/
theorem compare_eq_eq_iff {a b : Cell} (h : Unmixed a b) : a.compare b = .eq ↔ a = b := by
  rw [compare_eq_exact h]
  constructor
  · intro tie
    rw [exact, compareLex_eq_eq, compareLex_eq_eq] at tie
    obtain ⟨ranks, numbers, characters⟩ := tie
    have ranks : a.rank = b.rank := LawfulEqCmp.eq_of_compare ranks
    have numbers : a.number = b.number := LawfulEqCmp.eq_of_compare numbers
    have characters : a.characters = b.characters := LawfulEqCmp.eq_of_compare characters
    cases a with
    | null => cases b <;> cases ranks; rfl
    | integer m => cases b with
      | integer n => exact congrArg _ (Int.ofNat_inj.1 numbers)
      | float y => simp [Unmixed, isFloat, isNull] at h
      | null | text _ => cases ranks
    | float x => cases b with
      | float y => exact congrArg _ (place_injective numbers)
      | integer n => simp [Unmixed, isFloat, isNull] at h
      | null | text _ => cases ranks
    | text s => cases b with
      | text t => exact congrArg _ characters
      | null | integer _ | float _ => cases ranks
  · rintro rfl
    exact ReflCmp.compare_self

theorem compare_swap (a b : Cell) : (a.compare b).swap = b.compare a := by
  cases a <;> cases b
  any_goals rfl
  case integer.integer m n => exact OrientedOrd.eq_swap.symm
  case integer.float m y => exact OrientedOrd.eq_swap.symm
  case float.integer x n => exact OrientedOrd.eq_swap.symm
  case float.float x y => exact OrientedOrd.eq_swap.symm
  case text.text s t => exact OrientedOrd.eq_swap.symm

end Cell

/-- The cells of a record are no doubles. -/
theorem Chain.Record.isFloat_cell (r : Record) (column : String) :
    (r.cell column).isFloat = false := by
  have text? : ∀ s : Option String, (Cell.ofText? s).isFloat = false := by rintro (_ | _) <;> rfl
  have quantity? : ∀ {width : Nat} (q : Option (Quantity width)),
      (Quantity.cell? q).isFloat = false := by rintro _ (_ | _) <;> rfl
  cases r with
  | block b =>
    show ((b.cell? column).getD .null).isFloat = false
    unfold Block.cell?
    split <;> first | rfl | exact text? _ | exact quantity? _
  | transaction x =>
    show ((x.cell? column).getD .null).isFloat = false
    unfold Transaction.cell?
    split <;> first | rfl | exact text? _ | exact quantity? _

namespace Query

/-! ## One key -/

/-- The comparison of two cells in a direction: empty cells come first in ascending order and last
in descending order. -/
def Direction.compare : Direction → Cell → Cell → Ordering
  | _, .null, .null => .eq
  | .asc, .null, _ => .lt
  | .desc, .null, _ => .gt
  | .asc, _, .null => .gt
  | .desc, _, .null => .lt
  | .asc, a, b => a.compare b
  | .desc, a, b => b.compare a

theorem Direction.compare_asc (a b : Cell) : Direction.asc.compare a b = a.compare b := by
  cases a <;> cases b <;> rfl

theorem Direction.compare_desc (a b : Cell) : Direction.desc.compare a b = b.compare a := by
  cases a <;> cases b <;> rfl

theorem Direction.apply_compare (d : Direction) (a b : Cell) :
    d.apply (a.compare b) = d.compare a b := by
  cases d with
  | asc => exact (compare_asc a b).symm
  | desc => exact (Cell.compare_swap a b).trans (compare_desc a b).symm

theorem Direction.compare_swap (d : Direction) (a b : Cell) :
    (d.compare a b).swap = d.compare b a := by
  rw [← d.apply_compare, ← d.apply_compare, ← Cell.compare_swap a b]
  cases d <;> rfl

/-! ## Several keys -/

section Keys

variable {α κ : Type} {value : α → κ → Cell}

/-- The comparison of two things by their cells under some keys, the first difference deciding. -/
def compareBy (value : α → κ → Cell) : List (κ × Direction) → α → α → Ordering
  | [], _, _ => .eq
  | (k, d) :: keys, a, b => (d.compare (value a k) (value b k)).then (compareBy value keys a b)

theorem transCmp_on {β : Type} (cmp : β → β → Ordering) [TransCmp cmp] (f : α → β) :
    TransCmp fun a b ↦ cmp (f a) (f b) where
  eq_swap := OrientedCmp.eq_swap
  isLE_trans := TransCmp.isLE_trans

theorem transCmp_direction (d : Direction) {f : α → Cell} (h : ∀ a b, (f a).Unmixed (f b)) :
    TransCmp fun a b ↦ d.compare (f a) (f b) := by
  have hc : ∀ a b, (f a).compare (f b) = Cell.exact (f a) (f b) :=
    fun a b ↦ Cell.compare_eq_exact (h a b)
  cases d with
  | asc =>
    simp only [Direction.compare_asc, hc]
    exact transCmp_on Cell.exact f
  | desc =>
    simp only [Direction.compare_desc, hc]
    exact transCmp_on (fun a b ↦ Cell.exact b a) f

/-- Where no cell under a key is a double beside a natural number, comparing by keys is an order. -/
theorem transCmp_compareBy {keys : List (κ × Direction)}
    (h : ∀ p ∈ keys, ∀ a b, (value a p.1).Unmixed (value b p.1)) :
    TransCmp (compareBy value keys) := by
  induction keys with
  | nil => exact { eq_swap := rfl, isLE_trans := fun _ _ ↦ rfl }
  | cons p keys ih =>
    obtain ⟨k, d⟩ := p
    have hk := transCmp_direction d (h (k, d) List.mem_cons_self)
    have hkeys := ih fun p hp ↦ h p (List.mem_cons_of_mem _ hp)
    exact inferInstanceAs (TransCmp (compareLex (fun a b ↦ d.compare (value a k) (value b k))
      (compareBy value keys)))

/-- Turning a comparison round turns its outcome round, for doubles among natural numbers too. -/
instance (keys : List (κ × Direction)) : OrientedCmp (compareBy value keys) where
  eq_swap {a b} := by
    induction keys with
    | nil => rfl
    | cons p keys ih =>
      obtain ⟨k, d⟩ := p
      rw [compareBy, compareBy, Ordering.swap_then, ← ih, d.compare_swap]

theorem compareBy_comp {β : Type} (f : β → α) (keys : List (κ × Direction)) (a b : β) :
    compareBy (fun a k ↦ value (f a) k) keys a b = compareBy value keys (f a) (f b) := by
  induction keys with
  | nil => rfl
  | cons p keys ih =>
    obtain ⟨k, d⟩ := p
    rw [compareBy, compareBy, ih]

/-- Things are put in order by their cells, if no double stands beside a natural number. -/
theorem stablySorted_compareBy {keys : List (κ × Direction)} {as : List α}
    (h : ∀ p ∈ keys, ∀ a ∈ as, ∀ b ∈ as, (value a p.1).Unmixed (value b p.1)) :
    StablySorted (compareBy value keys) as
      (as.mergeSort fun a b ↦ (compareBy value keys a b).isLE) := by
  apply stablySorted_mergeSort_of_mem as
  have ht : TransCmp (compareBy (fun (a : {a // a ∈ as}) k ↦ value a.1 k) keys) :=
    transCmp_compareBy fun p hp a b ↦ h p hp a.1 a.2 b.1 b.2
  rwa [funext₂ (compareBy_comp Subtype.val keys)] at ht

theorem compareBy_append (before after : List (κ × Direction)) (a b : α) :
    compareBy value (before ++ after) a b =
      (compareBy value before a b).then (compareBy value after a b) := by
  induction before with
  | nil => rfl
  | cons p before ih =>
    obtain ⟨k, d⟩ := p
    rw [List.cons_append, compareBy, compareBy, ih, Ordering.then_assoc]

/-- What compares equal has equal cells under every key, as far as cells can be told apart. -/
theorem compare_eq_of_compareBy {keys : List (κ × Direction)} {p : κ × Direction} (hp : p ∈ keys)
    {a b : α} (h : compareBy value keys a b = .eq) :
    p.2.compare (value a p.1) (value b p.1) = .eq := by
  induction keys with
  | nil => cases hp
  | cons q keys ih =>
    rw [compareBy, Ordering.then_eq_eq] at h
    rcases List.mem_cons.1 hp with rfl | hp
    · exact h.1
    · exact ih hp h.2

theorem Direction.compare_eq_eq_iff (d : Direction) {a b : Cell} :
    d.compare a b = .eq ↔ a.compare b = .eq := by
  rw [← Direction.apply_compare]
  cases d with
  | asc => rfl
  | desc => exact Ordering.swap_eq_eq

/-- A key that was there before decides nothing, in whichever direction. -/
theorem compareBy_repeated (before after : List (κ × Direction)) {p : κ × Direction}
    (hp : p.1 ∈ before.map Prod.fst) :
    compareBy value (before ++ p :: after) = compareBy value (before ++ after) := by
  funext a b
  rw [compareBy_append, compareBy_append, compareBy]
  cases hb : compareBy value before a b with
  | lt => rfl
  | gt => rfl
  | eq =>
    obtain ⟨q, hq, hqp⟩ := List.mem_map.1 hp
    have h := compare_eq_of_compareBy hq hb
    rw [hqp, Direction.compare_eq_eq_iff, ← p.2.compare_eq_eq_iff] at h
    rw [h]
    rfl

end Keys

end Query

end LedgerQuery
