import LedgerQuery.Number.Binary64
import Mathlib.Algebra.GroupWithZero.Nat
import Mathlib.Data.Nat.Log

/-!
# Sums of doubles without rounding

A value that is a natural number is known by its multiple of `2 ^ -1074`, the least double
(`Exactly`).  The double nearest to a quotient depends on its value alone (`ofRatio_mul_two_pow`),
and a number is a double if it is a multiple of a power of two and not too long (`exactly_ofNat`).
So the sum of two such doubles is the double nearest to the sum (`Exactly.add`), and adding numbers
one by one loses nothing as long as the total is not too long (`Unrounded.foldl_add`): the order in
which they are added makes no difference.
-/

namespace LedgerQuery.Number

/-! ## Quotients -/

theorem roundDiv_mul_right (num den : Nat) {c : Nat} (hc : 0 < c) :
    roundDiv (num * c) (den * c) = roundDiv num den := by
  simp only [roundDiv, Nat.mul_div_mul_right _ _ hc, Nat.mul_mod_mul_right, ← Nat.mul_assoc,
    Nat.mul_lt_mul_right hc]

theorem roundDiv_mul_self (m : Nat) {den : Nat} (h : 0 < den) : roundDiv (m * den) den = m := by
  have even : 2 * (m * den % den) < den := by rwa [Nat.mul_mod_left, Nat.mul_zero]
  rw [roundDiv, Nat.mul_div_cancel m h]
  exact if_pos even

theorem log2_mul_two_pow {n : Nat} (h : n ≠ 0) (j : Nat) : (n * 2 ^ j).log2 = n.log2 + j := by
  have power : 0 < 2 ^ j := Nat.two_pow_pos j
  rw [Nat.log2_eq_iff (Nat.mul_ne_zero h power.ne')]
  constructor
  · rw [Nat.pow_add]
    exact Nat.mul_le_mul_right _ (Nat.log2_self_le h)
  · rw [Nat.add_right_comm, Nat.pow_add]
    exact Nat.mul_lt_mul_of_pos_right Nat.lt_log2_self power

namespace Binary64

theorem lastPlace_mul_two_pow {num den : Nat} (hn : num ≠ 0) (hd : den ≠ 0) (j : Nat) :
    lastPlace (num * 2 ^ j) (den * 2 ^ j) = lastPlace num den := by
  have power : 0 < 2 ^ j := Nat.two_pow_pos j
  have guess : ((num * 2 ^ j).log2 : Int) - (den * 2 ^ j).log2 - 52 = num.log2 - den.log2 - 52 := by
    rw [log2_mul_two_pow hn, log2_mul_two_pow hd]
    omega
  have reaches (x y : Nat) : den * 2 ^ j * x ≤ num * 2 ^ j * y ↔ den * x ≤ num * y := by
    rw [Nat.mul_right_comm den, Nat.mul_right_comm num, Nat.mul_le_mul_right_iff power]
  have reaches_one (x : Nat) : den * 2 ^ j * x ≤ num * 2 ^ j ↔ den * x ≤ num := by
    rw [Nat.mul_right_comm den, Nat.mul_le_mul_right_iff power]
  simp only [lastPlace, guess, reaches, reaches_one]

theorem nearestMagnitude_mul_two_pow {num den : Nat} (hn : num ≠ 0) (hd : den ≠ 0) (j : Nat) :
    nearestMagnitude (num * 2 ^ j) (den * 2 ^ j) = nearestMagnitude num den := by
  simp only [nearestMagnitude, lastPlace_mul_two_pow hn hd, Nat.mul_right_comm _ (2 ^ j),
    roundDiv_mul_right _ _ (Nat.two_pow_pos j)]

/-- The double nearest to a quotient depends on its value alone. -/
theorem ofRatio_mul_two_pow (negative : Bool) (num : Nat) {den : Nat} (hd : den ≠ 0) (j : Nat) :
    ofRatio negative (num * 2 ^ j) (den * 2 ^ j) = ofRatio negative num den := by
  by_cases hn : num = 0
  · rw [hn, Nat.zero_mul, ofRatio, ofRatio, if_pos rfl, if_pos rfl]
  · have hn' : num * 2 ^ j ≠ 0 := Nat.mul_ne_zero hn (Nat.two_pow_pos j).ne'
    rw [ofRatio, if_neg hn', ofRatio, if_neg hn, nearestMagnitude_mul_two_pow hn hd]

/-! ## Values -/

/-- A double that is a natural number, counted in multiples of `2 ^ -1074`. -/
structure Exactly (x : Binary64) (n : Nat) : Prop where
  isNaN : x.isNaN = false
  isInfinite : x.isInfinite = false
  isNegative : x.isNegative = false
  value : x.significand * 2 ^ (x.exponent + 1074).toNat = n * 2 ^ 1074

theorem le_exponent (x : Binary64) : -1074 ≤ x.exponent := by
  rw [exponent]
  omega

theorem ofScaled_eq_ofNat {m n : Nat} {q : Int} (hq : -1074 ≤ q)
    (h : m * 2 ^ (q + 1074).toNat = n * 2 ^ 1074) : ofScaled false m q = ofNat n := by
  rw [ofScaled]
  split
  · next hq₀ =>
    have split : (q + 1074).toNat = q.toNat + 1074 := by omega
    rw [split, Nat.pow_add, ← Nat.mul_assoc] at h
    rw [Nat.eq_of_mul_eq_mul_right (Nat.two_pow_pos 1074) h, ofNat]
  · next hq₀ =>
    have split : 1074 = (-q).toNat + (q + 1074).toNat := by omega
    rw [split, Nat.pow_add, ← Nat.mul_assoc] at h
    rw [Nat.eq_of_mul_eq_mul_right (Nat.two_pow_pos _) h]
    have one := ofRatio_mul_two_pow false n Nat.one_ne_zero (-q).toNat
    rwa [Nat.one_mul] at one

theorem inUnits_of_not_isNegative {x : Binary64} (h : x.isNegative = false) (q : Int) :
    x.inUnits q = (x.significand * 2 ^ (x.exponent - q).toNat : Nat) := by
  rw [inUnits, h]
  simp

theorem Exactly.units {x : Binary64} {n : Nat} (h : Exactly x n) {q : Int} (hq : -1074 ≤ q)
    (hx : q ≤ x.exponent) :
    x.significand * 2 ^ (x.exponent - q).toNat * 2 ^ (q + 1074).toNat = n * 2 ^ 1074 := by
  have sum : (x.exponent - q).toNat + (q + 1074).toNat = (x.exponent + 1074).toNat := by omega
  rw [Nat.mul_assoc, ← Nat.pow_add, sum, h.value]

/-- The sum of two numbers is rounded once. -/
theorem Exactly.add {x y : Binary64} {a b : Nat} (hx : Exactly x a) (hy : Exactly y b) :
    x + y = ofNat (a + b) := by
  show Binary64.add x y = ofNat (a + b)
  have lo : -1074 ≤ min x.exponent y.exponent := le_min x.le_exponent y.le_exponent
  have sx := hx.units lo (min_le_left _ _)
  have sy := hy.units lo (min_le_right _ _)
  rw [Binary64.add, hx.isNaN, hy.isNaN, hx.isInfinite, hy.isInfinite]
  simp only [Bool.or_self, Bool.false_eq_true, if_false, inUnits_of_not_isNegative hx.isNegative,
    inUnits_of_not_isNegative hy.isNegative, hx.isNegative, hy.isNegative, Bool.and_self]
  generalize min x.exponent y.exponent = q at lo sx sy ⊢
  generalize x.significand * 2 ^ (x.exponent - q).toNat = m at sx ⊢
  generalize y.significand * 2 ^ (y.exponent - q).toNat = m' at sy ⊢
  have total : (m + m') * 2 ^ (q + 1074).toNat = (a + b) * 2 ^ 1074 := by
    rw [Nat.add_mul, Nat.add_mul, sx, sy]
  split
  · next none =>
    have none : m + m' = 0 := by omega
    rw [none, Nat.zero_mul] at total
    have sum : a + b = 0 := (Nat.mul_eq_zero.1 total.symm).resolve_right (Nat.two_pow_pos 1074).ne'
    rw [sum]
    rfl
  · have sign : decide ((m : Int) + m' < 0) = false := decide_eq_false (by omega)
    have abs : ((m : Int) + m').natAbs = m + m' := by omega
    rw [sign, abs]
    exact ofScaled_eq_ofNat lo total

/-! ## Numbers that are doubles -/

/-- A magnitude with a full significand is the value that it looks like. -/
theorem exactly_ofMagnitude {e m n : Nat} (he : e ≤ 2045) (lo : 2 ^ 52 ≤ m) (hi : m < 2 ^ 53)
    (h : m * 2 ^ e = n * 2 ^ 1074) : Exactly (ofMagnitude false (e * 2 ^ 52 + m)) n := by
  have bits : (ofMagnitude false (e * 2 ^ 52 + m)).bits.toNat = e * 2 ^ 52 + m := by
    simp only [ofMagnitude, Bool.false_eq_true, if_false, Nat.zero_add]
    rw [UInt64.toNat_ofNat', Nat.mod_eq_of_lt (by omega)]
  have magnitude : (ofMagnitude false (e * 2 ^ 52 + m)).magnitude = e * 2 ^ 52 + m := by
    rw [Binary64.magnitude, bits, Nat.mod_eq_of_lt (by omega)]
  have field : (ofMagnitude false (e * 2 ^ 52 + m)).exponentField = e + 1 := by
    rw [exponentField, magnitude]
    omega
  have fraction : (ofMagnitude false (e * 2 ^ 52 + m)).fraction = m - 2 ^ 52 := by
    rw [Binary64.fraction, magnitude]
    omega
  have significand : (ofMagnitude false (e * 2 ^ 52 + m)).significand = m := by
    rw [Binary64.significand, field, fraction, if_neg (Nat.succ_ne_zero e)]
    omega
  have exponent : ((ofMagnitude false (e * 2 ^ 52 + m)).exponent + 1074).toNat = e := by
    rw [Binary64.exponent, field]
    omega
  refine ⟨?_, ?_, ?_, by rw [significand, exponent, h]⟩
  · clear h
    rw [Binary64.isNaN, magnitude, decide_eq_false_iff_not, infiniteMagnitude]
    omega
  · clear h
    rw [Binary64.isInfinite, magnitude, beq_eq_false_iff_ne, infiniteMagnitude]
    omega
  · clear h
    rw [Binary64.isNegative, bits, decide_eq_false_iff_not]
    omega

theorem lastPlace_one {n : Nat} (h : n ≠ 0) : lastPlace n 1 = n.log2 - 52 := by
  have lo := Nat.log2_self_le h
  have one : (1 : Nat).log2 = 0 := by decide
  simp only [lastPlace, one]
  split
  · next hq =>
    have power : 1 * 2 ^ (52 + ((n.log2 : Int) - (0 : Nat) - 52).toNat) ≤ n := by
      have exponent : 52 + ((n.log2 : Int) - (0 : Nat) - 52).toNat = n.log2 := by omega
      rwa [exponent, Nat.one_mul]
    rw [decide_eq_true power, if_pos rfl]
    omega
  · next hq =>
    have power : 1 * 2 ^ 52 ≤ n * 2 ^ (-((n.log2 : Int) - (0 : Nat) - 52)).toNat := by
      have exponent : 52 = n.log2 + (-((n.log2 : Int) - (0 : Nat) - 52)).toNat := by omega
      calc 1 * 2 ^ 52 = 2 ^ n.log2 * 2 ^ (-((n.log2 : Int) - (0 : Nat) - 52)).toNat := by
            rw [← Nat.pow_add, ← exponent, Nat.one_mul]
        _ ≤ n * 2 ^ (-((n.log2 : Int) - (0 : Nat) - 52)).toNat := Nat.mul_le_mul_right _ lo
    rw [decide_eq_true power, if_pos rfl]
    omega

/-- A number whose significant digits are no more than those of a double, in its last places only
zeros. -/
def Short (n : Nat) : Prop := ∃ k ≤ 970, 2 ^ k ∣ n ∧ n ≤ 2 ^ (53 + k)

/-- The first 53 digits of a short number are all there is. -/
theorem Short.dvd {n : Nat} (h : Short n) (hn : n ≠ 0) (hl : 52 ≤ n.log2) :
    2 ^ (n.log2 - 52) ∣ n := by
  obtain ⟨k, -, divides, bound⟩ := h
  have lo := Nat.log2_self_le hn
  have top : n.log2 ≤ 53 + k := (Nat.pow_le_pow_iff_right (by decide)).1 (lo.trans bound)
  by_cases hk : n.log2 - 52 ≤ k
  · exact Nat.dvd_trans (Nat.pow_dvd_pow 2 hk) divides
  · have same : n.log2 = 53 + k := by omega
    have power : n = 2 ^ (53 + k) := Nat.le_antisymm bound (same ▸ lo)
    have exponent : n.log2 - 52 ≤ 53 + k := by omega
    generalize n.log2 - 52 = j at exponent
    rw [power]
    exact Nat.pow_dvd_pow 2 exponent

/-- A number is rounded to nothing but itself: `m` is the number shifted to 53 digits. -/
structure Significand (n m : Nat) : Prop where
  rounded : nearestMagnitude n 1 = min infiniteMagnitude ((n.log2 + 1022) * 2 ^ 52 + m)
  lower : 2 ^ 52 ≤ m
  upper : m < 2 ^ 53
  value : m * 2 ^ (n.log2 + 1022) = n * 2 ^ 1074

/-- A number of 53 digits or more loses the zeros in its last places. -/
theorem Short.exists_significand {n : Nat} (h : Short n) (hn : n ≠ 0) (hl : 52 ≤ n.log2) :
    ∃ m, Significand n m := by
  have lo := Nat.log2_self_le hn
  have hi := Nat.lt_log2_self (n := n)
  obtain ⟨m, hm⟩ := h.dvd hn hl
  obtain ⟨d, hd⟩ := Nat.exists_eq_add_of_le hl
  have shift : n.log2 - 52 = d := by omega
  rw [shift, Nat.mul_comm] at hm
  have power : 0 < 2 ^ d := Nat.two_pow_pos d
  have place : ((n.log2 : Int) - 52 + 1074).toNat = n.log2 + 1022 := by omega
  have units : ((n.log2 : Int) - 52).toNat = d := by omega
  have rounded : roundDiv n (1 * 2 ^ d) = m := by rw [Nat.one_mul, hm, roundDiv_mul_self m power]
  refine ⟨m, ?rounded, ?lower, ?upper, ?value⟩
  case rounded =>
    simp only [nearestMagnitude, lastPlace_one hn, place, units, rounded]
    rw [if_pos (by omega)]
  case lower =>
    rw [hd, Nat.pow_add, hm] at lo
    exact (Nat.mul_le_mul_right_iff power).1 lo
  case upper =>
    have exponent : n.log2 + 1 = 53 + d := by omega
    rw [exponent, Nat.pow_add, hm] at hi
    exact (Nat.mul_lt_mul_right power).1 hi
  case value =>
    have exponent : n.log2 + 1022 = d + 1074 := by omega
    rw [exponent, Nat.pow_add, ← Nat.mul_assoc, ← hm]

/-- A number of fewer digits gets zeros after its last place. -/
theorem exists_significand_of_lt {n : Nat} (hn : n ≠ 0) (hl : n.log2 < 52) :
    ∃ m, Significand n m := by
  have lo := Nat.log2_self_le hn
  have hi := Nat.lt_log2_self (n := n)
  obtain ⟨d, hd⟩ := Nat.exists_eq_add_of_lt hl
  have place : ((n.log2 : Int) - 52 + 1074).toNat = n.log2 + 1022 := by omega
  have units : (-((n.log2 : Int) - 52)).toNat = d + 1 := by omega
  have power : 0 < 2 ^ (d + 1) := Nat.two_pow_pos _
  have rounded : roundDiv (n * 2 ^ (d + 1)) 1 = n * 2 ^ (d + 1) := by
    have whole := roundDiv_mul_self (n * 2 ^ (d + 1)) Nat.one_pos
    rwa [Nat.mul_one] at whole
  refine ⟨n * 2 ^ (d + 1), ?rounded, ?lower, ?upper, ?value⟩
  case rounded =>
    simp only [nearestMagnitude, lastPlace_one hn, place, units, rounded]
    rw [if_neg (by omega)]
  case lower =>
    have exponent : n.log2 + (d + 1) = 52 := by omega
    rw [← exponent, Nat.pow_add]
    exact Nat.mul_le_mul_right _ lo
  case upper =>
    have exponent : n.log2 + 1 + (d + 1) = 53 := by omega
    rw [← exponent, Nat.pow_add _ (n.log2 + 1)]
    exact Nat.mul_lt_mul_of_pos_right hi power
  case value =>
    have exponent : d + 1 + (n.log2 + 1022) = 1074 := by omega
    rw [← exponent, Nat.pow_add _ (d + 1), Nat.mul_assoc]

theorem exactly_ofNat {n : Nat} (h : Short n) : Exactly (ofNat n) n := by
  by_cases hn : n = 0
  · subst hn
    exact ⟨by decide, by decide, by decide, by decide +kernel⟩
  · obtain ⟨m, rounded, lo, hi, value⟩ := (Nat.lt_or_ge n.log2 52).elim
      (exists_significand_of_lt hn) (h.exists_significand hn)
    have top : n.log2 ≤ 1023 := by
      obtain ⟨k, hk, -, bound⟩ := h
      have reach : 2 ^ n.log2 ≤ 2 ^ (53 + k) := (Nat.log2_self_le hn).trans bound
      have := (Nat.pow_le_pow_iff_right (by decide)).1 reach
      omega
    have finite : (n.log2 + 1022) * 2 ^ 52 + m ≤ infiniteMagnitude := by
      clear value
      rw [infiniteMagnitude]
      omega
    rw [ofNat, ofRatio, if_neg hn, rounded, Nat.min_eq_right finite]
    exact exactly_ofMagnitude (Nat.add_le_add_right top 1022) lo hi value

/-- Numbers that are multiples of one power of two are added without rounding, if their sum is not
too long. -/
theorem add_ofNat {a b k : Nat} (hk : k ≤ 970) (ha : 2 ^ k ∣ a) (hb : 2 ^ k ∣ b)
    (h : a + b ≤ 2 ^ (53 + k)) : ofNat a + ofNat b = ofNat (a + b) :=
  (exactly_ofNat ⟨k, hk, ha, (Nat.le_add_right a b).trans h⟩).add
    (exactly_ofNat ⟨k, hk, hb, (Nat.le_add_left b a).trans h⟩)

/-! ## Lists of numbers -/

/-- Numbers that are added without rounding, in whichever order: multiples of one power of two, with
a total that is not too long. -/
def Unrounded (ns : List Nat) : Prop := ∃ k ≤ 970, (∀ n ∈ ns, 2 ^ k ∣ n) ∧ ns.sum ≤ 2 ^ (53 + k)

theorem Unrounded.of_perm {ns ns' : List Nat} (h : Unrounded ns) (hp : ns.Perm ns') :
    Unrounded ns' := by
  obtain ⟨k, hk, divides, bound⟩ := h
  exact ⟨k, hk, fun n hn ↦ divides n (hp.mem_iff.2 hn), hp.sum_nat ▸ bound⟩

theorem foldl_add_ofNat {k : Nat} (hk : k ≤ 970) {ns : List Nat} (hn : ∀ n ∈ ns, 2 ^ k ∣ n)
    {m : Nat} (hm : 2 ^ k ∣ m) (h : m + ns.sum ≤ 2 ^ (53 + k)) :
    ns.foldl (fun x n ↦ x + ofNat n) (ofNat m) = ofNat (m + ns.sum) := by
  induction ns generalizing m with
  | nil => rfl
  | cons n ns ih =>
    obtain ⟨first, rest⟩ := List.forall_mem_cons.1 hn
    rw [List.sum_cons, ← Nat.add_assoc] at h ⊢
    have sum : ofNat m + ofNat n = ofNat (m + n) := add_ofNat hk hm first (by omega)
    rw [List.foldl_cons, sum]
    exact ih rest (Nat.dvd_add hm first) h

theorem Unrounded.foldl_add {ns : List Nat} (h : Unrounded ns) :
    ns.foldl (fun x n ↦ x + ofNat n) (zero false) = ofNat ns.sum := by
  obtain ⟨k, hk, divides, bound⟩ := h
  have total := foldl_add_ofNat hk divides (Nat.dvd_zero _) (by rwa [Nat.zero_add])
  rwa [Nat.zero_add] at total

end Binary64

end LedgerQuery.Number
