import LedgerQuery.Proofs.ExactSums
import Mathlib.Algebra.Order.Field.Rat
import Mathlib.Algebra.Order.Field.Power
import Mathlib.Tactic.FieldSimp
import Mathlib.Tactic.Linarith
import Mathlib.Tactic.Positivity
import Mathlib.Tactic.Ring

/-!
# Rounding keeps the order

A larger quotient is never rounded to a smaller double (`place_ofRatio_mono`).  The last place of a
double tells between which powers of two the quotient lies (`lastPlace_spec`); two quotients with
one last place are rounded on one grid, where a greater one has no smaller neighbour
(`roundDiv_mono`), and of two with different last places a power of two lies between.
-/

namespace LedgerQuery.Number

/-! ## Whole numbers -/

/-- What a rounded quotient is: no more than a half away, and even if it is a half away. -/
structure Rounded (num den k : Nat) : Prop where
  lower : 2 * k * den ≤ 2 * num + den
  upper : 2 * num ≤ 2 * k * den + den
  even_of_lower : 2 * k * den = 2 * num + den → k % 2 = 0
  even_of_upper : 2 * num = 2 * k * den + den → k % 2 = 0

theorem rounded_roundDiv (num : Nat) {den : Nat} (h : 0 < den) :
    Rounded num den (roundDiv num den) := by
  have split := Nat.div_add_mod' num den
  have rest := Nat.mod_lt num h
  rw [roundDiv]
  generalize num / den = q at *
  generalize num % den = r at *
  have up : 2 * (q + 1) * den = 2 * (q * den) + 2 * den := by ring
  have down : 2 * q * den = 2 * (q * den) := by ring
  split_ifs with below above
  · constructor <;> rw [down] <;> omega
  · constructor <;> rw [up] <;> omega
  · -- Half way, `q` if it is even and else the number after it.
    obtain even | odd := Nat.mod_two_eq_zero_or_one q
    · rw [even, Nat.add_zero]
      constructor <;> rw [down] <;> omega
    · rw [odd]
      constructor <;> rw [up] <;> omega

/-- A greater quotient is not rounded to a smaller number. -/
theorem roundDiv_mono {num den num' den' : Nat} (hd : 0 < den) (hd' : 0 < den')
    (h : num * den' ≤ num' * den) : roundDiv num den ≤ roundDiv num' den' := by
  obtain ⟨lower, -, even, -⟩ := rounded_roundDiv num hd
  obtain ⟨-, upper, -, even'⟩ := rounded_roundDiv num' hd'
  generalize roundDiv num den = k at *
  generalize roundDiv num' den' = l at *
  by_contra! hlt
  have positive : 0 < den * den' := Nat.mul_pos hd hd'
  have lower' : 2 * k * (den * den') ≤ 2 * (num * den') + den * den' := by
    calc 2 * k * (den * den') = 2 * k * den * den' := by ring
      _ ≤ (2 * num + den) * den' := Nat.mul_le_mul_right _ lower
      _ = 2 * (num * den') + den * den' := by ring
  have upper' : 2 * (num' * den) ≤ 2 * l * (den * den') + den * den' := by
    calc 2 * (num' * den) = 2 * num' * den := by ring
      _ ≤ (2 * l * den' + den') * den := Nat.mul_le_mul_right _ upper
      _ = 2 * l * (den * den') + den * den' := by ring
  -- Both quotients are the half between `l` and `k`, and only one of these is even.
  have next : k = l + 1 := by
    have bound : 2 * k * (den * den') ≤ (2 * l + 2) * (den * den') := by
      rw [Nat.add_mul]
      omega
    have := Nat.le_of_mul_le_mul_right bound positive
    omega
  subst next
  have whole : 2 * (l + 1) * (den * den') = 2 * l * (den * den') + 2 * (den * den') := by ring
  have tie : 2 * (l + 1) * den = 2 * num + den := by
    refine Nat.eq_of_mul_eq_mul_right hd' ?_
    calc 2 * (l + 1) * den * den' = 2 * (l + 1) * (den * den') := by ring
      _ = 2 * (num * den') + den * den' := by omega
      _ = (2 * num + den) * den' := by ring
  have tie' : 2 * num' = 2 * l * den' + den' := by
    refine Nat.eq_of_mul_eq_mul_right hd ?_
    calc 2 * num' * den = 2 * (num' * den) := by ring
      _ = 2 * l * (den * den') + den * den' := by omega
      _ = (2 * l * den' + den') * den := by ring
  have first := even tie
  have second := even' tie'
  omega

/-- A quotient that reaches a number is not rounded below it. -/
theorem le_roundDiv {num den k : Nat} (h : 0 < den) (hk : k * den ≤ num) :
    k ≤ roundDiv num den := by
  have mono : roundDiv (k * den) den ≤ roundDiv num den :=
    roundDiv_mono h h (Nat.mul_le_mul_right den hk)
  rwa [roundDiv_mul_self k h] at mono

/-- A quotient that does not reach past a number is not rounded past it. -/
theorem roundDiv_le {num den k : Nat} (h : 0 < den) (hk : num ≤ k * den) :
    roundDiv num den ≤ k := by
  have mono : roundDiv num den ≤ roundDiv (k * den) den :=
    roundDiv_mono h h (Nat.mul_le_mul_right den hk)
  rwa [roundDiv_mul_self k h] at mono

namespace Binary64

/-! ## Last places -/

/-- The last place in multiples of `2 ^ -1074`, the place of the least double. -/
def lastUnit (num den : Nat) : Nat := (lastPlace num den + 1074).toNat

/-- Whether a quotient reaches a power of two, in units of the least double. -/
theorem reaches_iff (num den : Nat) {guess : Int} (h : 0 ≤ guess + 1074) :
    (if 0 ≤ guess then decide (den * 2 ^ (52 + guess.toNat) ≤ num)
        else decide (den * 2 ^ 52 ≤ num * 2 ^ (-guess).toNat)) = true ↔
      den * 2 ^ ((guess + 1074).toNat + 52) ≤ num * 2 ^ 1074 := by
  split
  · have units : (guess + 1074).toNat + 52 = 52 + guess.toNat + 1074 := by omega
    rw [decide_eq_true_iff, units, Nat.pow_add 2 _ 1074, ← Nat.mul_assoc,
      Nat.mul_le_mul_right_iff (Nat.two_pow_pos 1074)]
  · have units : (guess + 1074).toNat + 52 = 52 + (guess + 1074).toNat := Nat.add_comm _ _
    have whole : 1074 = (-guess).toNat + (guess + 1074).toNat := by omega
    have scale : num * 2 ^ 1074 = num * 2 ^ (-guess).toNat * 2 ^ (guess + 1074).toNat := by
      rw [Nat.mul_assoc, ← Nat.pow_add, ← whole]
    rw [decide_eq_true_iff, scale, units, Nat.pow_add 2 52, ← Nat.mul_assoc,
      Nat.mul_le_mul_right_iff (Nat.two_pow_pos _)]

/-- Between which powers of two a quotient lies.  One below `2 ^ -1022` has the place of the least
double, however small it is. -/
theorem lastUnit_spec {num den : Nat} (hn : num ≠ 0) (hd : den ≠ 0) :
    num * 2 ^ 1074 < den * 2 ^ (lastUnit num den + 53) ∧
      (0 < lastUnit num den → den * 2 ^ (lastUnit num den + 52) ≤ num * 2 ^ 1074) := by
  have small {k : Nat} (hk : num.log2 + 1 + 1074 ≤ den.log2 + k) :
      num * 2 ^ 1074 < den * 2 ^ k := by
    calc num * 2 ^ 1074 < 2 ^ (num.log2 + 1) * 2 ^ 1074 :=
          Nat.mul_lt_mul_of_pos_right Nat.lt_log2_self (Nat.two_pow_pos _)
      _ ≤ 2 ^ den.log2 * 2 ^ k := by
          rw [← Nat.pow_add 2 _ 1074, ← Nat.pow_add]
          exact Nat.pow_le_pow_right (by decide) hk
      _ ≤ den * 2 ^ k := Nat.mul_le_mul_right _ (Nat.log2_self_le hd)
  have large {k : Nat} (hk : den.log2 + 1 + k ≤ num.log2 + 1074) :
      den * 2 ^ k ≤ num * 2 ^ 1074 := by
    calc den * 2 ^ k ≤ 2 ^ (den.log2 + 1) * 2 ^ k := Nat.mul_le_mul_right _ Nat.lt_log2_self.le
      _ ≤ 2 ^ num.log2 * 2 ^ 1074 := by
          rw [← Nat.pow_add, ← Nat.pow_add 2 _ 1074]
          exact Nat.pow_le_pow_right (by decide) hk
      _ ≤ num * 2 ^ 1074 := Nat.mul_le_mul_right _ (Nat.log2_self_le hn)
  rw [lastUnit, lastPlace]
  generalize hg : (num.log2 : Int) - den.log2 - 52 = guess
  by_cases least : guess + 1074 < 0
  · -- The place of the least double, whether or not the power of two is reached.
    have place : ∀ p : Prop, [Decidable p] →
        (max (-1074) (if p then guess else guess - 1) + 1074).toNat = 0 := by
      intro p _
      split <;> omega
    rw [place]
    exact ⟨small (by omega), fun h ↦ absurd h (lt_irrefl 0)⟩
  · have above : 0 ≤ guess + 1074 := by omega
    have power := reaches_iff num den above
    generalize (if 0 ≤ guess then _ else _ : Bool) = reaches at *
    split
    · next reached =>
      have unit : (max (-1074) guess + 1074).toNat = (guess + 1074).toNat := by omega
      rw [unit]
      exact ⟨small (by omega), fun _ ↦ power.1 reached⟩
    · next missed =>
      have missed := Nat.lt_of_not_le (mt power.2 missed)
      refine ⟨?_, fun h ↦ large (by omega)⟩
      by_cases first : guess = -1074
      · exact small (by omega)
      · have unit : (max (-1074) (guess - 1) + 1074).toNat + 53 = (guess + 1074).toNat + 52 := by
          omega
        rwa [unit]

theorem neg_le_lastPlace (num den : Nat) : -1074 ≤ lastPlace num den := le_max_left _ _

/-- A quotient is rounded on the grid of its last place. -/
theorem nearestMagnitude_eq (num den : Nat) :
    nearestMagnitude num den = min infiniteMagnitude (lastUnit num den * 2 ^ 52 +
      roundDiv (num * 2 ^ 1074) (den * 2 ^ lastUnit num den)) := by
  have least := neg_le_lastPlace num den
  rw [nearestMagnitude, lastUnit]
  generalize lastPlace num den = q at *
  congr 2
  split
  · have unit : (q + 1074).toNat = q.toNat + 1074 := by omega
    rw [unit, Nat.pow_add, ← Nat.mul_assoc, roundDiv_mul_right _ _ (Nat.two_pow_pos 1074)]
  · have whole : 1074 = (-q).toNat + (q + 1074).toNat := by omega
    have scale : num * 2 ^ 1074 = num * 2 ^ (-q).toNat * 2 ^ (q + 1074).toNat := by
      rw [Nat.mul_assoc, ← Nat.pow_add, ← whole]
    rw [scale, roundDiv_mul_right _ _ (Nat.two_pow_pos _)]

theorem nearestMagnitude_mono {num den num' den' : Nat} (hn : num ≠ 0) (hd : den ≠ 0)
    (hn' : num' ≠ 0) (hd' : den' ≠ 0) (h : num * den' ≤ num' * den) :
    nearestMagnitude num den ≤ nearestMagnitude num' den' := by
  obtain ⟨below, -⟩ := lastUnit_spec hn hd
  obtain ⟨below', above'⟩ := lastUnit_spec hn' hd'
  have above := (lastUnit_spec hn hd).2
  rw [nearestMagnitude_eq, nearestMagnitude_eq]
  generalize lastUnit num den = e at *
  generalize lastUnit num' den' = e' at *
  have grid : 0 < den * 2 ^ e := Nat.mul_pos (Nat.pos_of_ne_zero hd) (Nat.two_pow_pos e)
  have grid' : 0 < den' * 2 ^ e' := Nat.mul_pos (Nat.pos_of_ne_zero hd') (Nat.two_pow_pos e')
  refine min_le_min le_rfl ?_
  rcases lt_trichotomy e e' with hlt | rfl | hgt
  · -- At most the next power of two on the one side, at least that power on the other.
    have upper : roundDiv (num * 2 ^ 1074) (den * 2 ^ e) ≤ 2 ^ 53 := by
      refine roundDiv_le grid ?_
      calc num * 2 ^ 1074 ≤ den * 2 ^ (e + 53) := below.le
        _ = 2 ^ 53 * (den * 2 ^ e) := by rw [Nat.pow_add]; ring
    have lower : 2 ^ 52 ≤ roundDiv (num' * 2 ^ 1074) (den' * 2 ^ e') := by
      refine le_roundDiv grid' ?_
      calc 2 ^ 52 * (den' * 2 ^ e') = den' * 2 ^ (e' + 52) := by rw [Nat.pow_add]; ring
        _ ≤ num' * 2 ^ 1074 := above' (by omega)
    omega
  · have step :
      roundDiv (num * 2 ^ 1074) (den * 2 ^ e) ≤ roundDiv (num' * 2 ^ 1074) (den' * 2 ^ e) := by
      refine roundDiv_mono grid grid' ?_
      rw [Nat.mul_mul_mul_comm, Nat.mul_mul_mul_comm num']
      exact Nat.mul_le_mul_right _ h
    omega
  · -- The quotient with the greater last place is the greater one.
    have contra : den * den' * 2 ^ (e + 52) < den * den' * 2 ^ (e + 52) := by
      calc den * den' * 2 ^ (e + 52) = den * 2 ^ (e + 52) * den' := by ring
        _ ≤ num * 2 ^ 1074 * den' := Nat.mul_le_mul_right _ (above (by omega))
        _ = num * den' * 2 ^ 1074 := Nat.mul_right_comm _ _ _
        _ ≤ num' * den * 2 ^ 1074 := Nat.mul_le_mul_right _ h
        _ = num' * 2 ^ 1074 * den := Nat.mul_right_comm _ _ _
        _ < den' * 2 ^ (e' + 53) * den := Nat.mul_lt_mul_of_pos_right below' (Nat.pos_of_ne_zero hd)
        _ ≤ den' * 2 ^ (e + 52) * den :=
            Nat.mul_le_mul_right _
              (Nat.mul_le_mul_left _ (Nat.pow_le_pow_right (by decide) (by omega)))
        _ = den * den' * 2 ^ (e + 52) := by ring
    exact absurd contra (lt_irrefl _)

/-! ## Places -/

theorem place_ofMagnitude {m : Nat} (h : m < 2 ^ 63) : (ofMagnitude false m).place = m := by
  have bits : (ofMagnitude false m).bits.toNat = m := by
    simp only [ofMagnitude, Bool.false_eq_true, if_false, Nat.zero_add]
    rw [UInt64.toNat_ofNat', Nat.mod_eq_of_lt (by omega)]
  rw [place, isNegative, magnitude, bits, Nat.mod_eq_of_lt h,
    if_neg (by rw [decide_eq_true_iff]; omega)]

theorem place_ofRatio (num den : Nat) :
    (ofRatio false num den).place = if num = 0 then 0 else (nearestMagnitude num den : Int) := by
  have bound : nearestMagnitude num den ≤ infiniteMagnitude := min_le_left _ _
  rw [ofRatio]
  split
  · exact place_ofMagnitude (by decide)
  · exact place_ofMagnitude (bound.trans_lt (by decide))

/-- A greater quotient is rounded to a double that is not smaller. -/
theorem place_ofRatio_mono {num den num' den' : Nat} (hd : den ≠ 0) (hd' : den' ≠ 0)
    (h : num * den' ≤ num' * den) :
    (ofRatio false num den).place ≤ (ofRatio false num' den').place := by
  rw [place_ofRatio, place_ofRatio]
  split
  · split <;> omega
  · next hn =>
    have hn' : num' ≠ 0 := by
      rintro rfl
      rw [Nat.zero_mul, Nat.le_zero] at h
      exact (Nat.mul_eq_zero.1 h).elim hn hd'
    rw [if_neg hn']
    exact Int.ofNat_le.2 (nearestMagnitude_mono hn hd hn' hd' h)

theorem place_ofNat_mono {m n : Nat} (h : m ≤ n) : (ofNat m).place ≤ (ofNat n).place :=
  place_ofRatio_mono Nat.one_ne_zero Nat.one_ne_zero (Nat.mul_le_mul_right 1 h)

end Binary64

end LedgerQuery.Number
