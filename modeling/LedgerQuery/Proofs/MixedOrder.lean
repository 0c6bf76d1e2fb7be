import LedgerQuery.Proofs.CellOrder
import LedgerQuery.Proofs.ExactSums
import LedgerQuery.Proofs.Rounding

/-!
# Natural numbers among doubles

Two natural numbers compare exactly, a natural number and a double compare as doubles.  Each of the
two ways is an order; together they fail to be one at a double between two natural numbers that both
round to it (`Cell.Straddles`): the greater number is no greater than the double, the double no
greater than the smaller number.  These are the only three cells out of order (`Cell.compare_laws`),
so any cells can be sorted that leave out one of them (`Cell.comparable_iff`), and all cells can
whose natural numbers are doubles (`Cell.comparable_of_le`).
-/

namespace LedgerQuery

open Std
open Number (Binary64)

namespace Cell

/-! ## Cells as doubles -/

/-- The place among the doubles of the number of a cell, after rounding. -/
def nearestPlace : Cell → Int
  | .integer n => (Binary64.ofNat n).place
  | .float x => x.place
  | .null | .text _ => 0

/-- The comparison of cells with every number rounded to a double. -/
def nearest : Cell → Cell → Ordering :=
  compareLex (compareOn rank) (compareLex (compareOn nearestPlace) (compareOn characters))

instance : TransCmp nearest := inferInstanceAs (TransCmp (compareLex _ _))

def isInteger : Cell → Bool
  | .integer _ => true
  | .null | .float _ | .text _ => false

/-- Two cells of which one at least is compared as a double, if both are numbers. -/
def Rounds (a b : Cell) : Prop := a.isInteger = false ∨ b.isInteger = false

theorem rounds_or_integers (a b : Cell) : Rounds a b ∨ ∃ m n, a = .integer m ∧ b = .integer n := by
  cases a with
  | integer m => cases b with
    | integer n => exact .inr ⟨m, n, rfl, rfl⟩
    | null | float _ | text _ => exact .inl (.inr rfl)
  | null | float _ | text _ => exact .inl (.inl rfl)

theorem compare_eq_nearest {a b : Cell} (h : Rounds a b) : a.compare b = nearest a b := by
  cases a <;> cases b
  any_goals rfl
  case integer.integer => simp [Rounds, isInteger] at h
  all_goals
    simp [Cell.compare, Binary64.compare, nearest, compareLex, compareOn, rank, nearestPlace,
      characters]

theorem nearest_integer (m n : Nat) :
    nearest (.integer m) (.integer n) =
      compare (Binary64.ofNat m).place (Binary64.ofNat n).place := by
  simp [nearest, compareLex, compareOn, rank, nearestPlace, characters]

/-- Rounding does not turn two cells round. -/
theorem nearest_of_le {a b : Cell} (h : a.le b) : (nearest a b).isLE := by
  rcases rounds_or_integers a b with rounds | ⟨m, n, rfl, rfl⟩
  · rwa [← compare_eq_nearest rounds]
  · rw [nearest_integer, isLE_compare]
    exact Binary64.place_ofNat_mono (Nat.isLE_compare.1 h)

/-! ## The cells out of order -/

/-- A double, the greater of two natural numbers that round to it, and the smaller one. -/
def Straddles (a b c : Cell) : Prop :=
  ∃ m n, n < m ∧ Binary64.ofNat m = Binary64.ofNat n ∧
    a = .integer m ∧ b = .float (Binary64.ofNat m) ∧ c = .integer n

theorem Straddles.le {a b c : Cell} (h : Straddles a b c) : a.le b ∧ b.le c ∧ ¬ a.le c := by
  obtain ⟨m, n, less, same, rfl, rfl, rfl⟩ := h
  have tie (x : Binary64) : (x.compare x).isLE := isLE_compare.2 le_rfl
  refine ⟨tie _, ?_, ?_⟩
  · show ((Binary64.ofNat m).compare (Binary64.ofNat n)).isLE
    rw [same]
    exact tie _
  · intro h
    exact absurd (Nat.isLE_compare.1 h) (Nat.not_le.2 less)

/-- Three cells are out of order only around a double. -/
theorem straddles_of_not_le {a b c : Cell} (hab : a.le b) (hbc : b.le c) (hac : ¬ a.le c) :
    Straddles a b c := by
  have trans : (nearest a c).isLE := TransCmp.isLE_trans (nearest_of_le hab) (nearest_of_le hbc)
  -- Only two natural numbers can be out of the order of the doubles.
  rcases rounds_or_integers a c with rounds | ⟨m, n, rfl, rfl⟩
  · rw [le, compare_eq_nearest rounds] at hac
    exact absurd trans hac
  have less : n < m := Nat.not_le.1 (mt Nat.isLE_compare.2 hac)
  have places := Binary64.place_ofNat_mono less.le
  cases b with
  | null =>
    have ranks : 1 ≤ 0 := Nat.isLE_compare.1 hab
    omega
  | text s =>
    have ranks : 2 ≤ 1 := Nat.isLE_compare.1 hbc
    omega
  | integer k =>
    have lower : m ≤ k := Nat.isLE_compare.1 hab
    have upper : k ≤ n := Nat.isLE_compare.1 hbc
    omega
  | float x =>
    have lower : (Binary64.ofNat m).place ≤ x.place := isLE_compare.1 hab
    have upper : x.place ≤ (Binary64.ofNat n).place := isLE_compare.1 hbc
    have first : x = Binary64.ofNat m := place_injective (by omega)
    have second : x = Binary64.ofNat n := place_injective (by omega)
    exact ⟨m, n, less, first.symm.trans second, rfl, congrArg float first, rfl⟩

theorem le_trans_iff {a b c : Cell} : (a.le b → b.le c → a.le c) ↔ ¬ Straddles a b c := by
  constructor
  · intro trans h
    obtain ⟨hab, hbc, hac⟩ := h.le
    exact hac (trans hab hbc)
  · intro h hab hbc
    by_contra hac
    exact h (straddles_of_not_le hab hbc hac)

@[simp] theorem compare_self (a : Cell) : a.compare a = .eq :=
  (compare_eq_eq_iff (.inl rfl)).2 rfl

/-- The comparison of any cells is reflexive, and turning it round turns its outcome round.  It is
transitive too, unless a double stands between two natural numbers that both round to it. -/
theorem compare_laws (a b c : Cell) :
    a.compare a = .eq ∧ b.compare a = (a.compare b).swap ∧
      ((a.le b → b.le c → a.le c) ↔ ¬ Straddles a b c) :=
  ⟨compare_self a, (compare_swap a b).symm, le_trans_iff⟩

/-- The number after the last one below which every number is a double: it is greater than the
number before it, and neither is told apart from the double that both round to. -/
theorem compare_not_transitive :
    (integer (2 ^ 53 + 1)).le (float (.ofNat (2 ^ 53))) ∧
      (float (.ofNat (2 ^ 53))).le (integer (2 ^ 53)) ∧
      ¬ (integer (2 ^ 53 + 1)).le (integer (2 ^ 53)) := by
  decide

/-! ## Cells that can be sorted -/

/-- Cells are in one order if none of them is a double between two natural numbers among them. -/
theorem comparable_iff {cells : List Cell} :
    Comparable cells ↔ ∀ a ∈ cells, ∀ b ∈ cells, ∀ c ∈ cells, ¬ Straddles a b c :=
  forall₂_congr fun _ _ ↦ forall₂_congr fun _ _ ↦ forall₂_congr fun _ _ ↦ le_trans_iff

/-- Natural numbers that are doubles stand in one order with all doubles. -/
theorem comparable_of_le {cells : List Cell} (h : ∀ n, .integer n ∈ cells → n ≤ 2 ^ 53) :
    Comparable cells := by
  rw [comparable_iff]
  rintro _ ha _ - _ hc ⟨m, n, less, same, rfl, rfl, rfl⟩
  have short {k : Nat} (hk : k ≤ 2 ^ 53) : Binary64.Exactly (.ofNat k) k :=
    Binary64.exactly_ofNat ⟨0, by decide, Nat.one_dvd k, hk⟩
  have value : m * 2 ^ 1074 = n * 2 ^ 1074 := by
    rw [← (short (h m ha)).value, same, (short (h n hc)).value]
  have equal := Nat.eq_of_mul_eq_mul_right (Nat.two_pow_pos 1074) value
  omega

end Cell

end LedgerQuery
