import LedgerQuery.Number.Reading
import LedgerQuery.Proofs.CellOrder
import LedgerQuery.Proofs.Rounding
import LedgerQuery.Proofs.Tokens
import Mathlib.Algebra.Order.Field.Power
import Mathlib.Data.Rat.Cast.Order
import Mathlib.Tactic.FieldSimp
import Mathlib.Tactic.Positivity

/-!
# Decimal numbers

A decimal number is written by digits, with a point among them or none and with an exponent or none
(`WritesDecimal`).  What is read from it is the double nearest to the number
(`WritesDecimal.parse?`), also where the exponent is so large or so small that no power of ten is
formed (`ofDecimal_eq_nearest`).  It is read as a natural number if it is one without point and
exponent and below the bound (`WritesDecimal.decimal?_eq_some_iff`).
-/

namespace LedgerQuery.Number

open Sql.Lexer (isDigit_of_writes decimal_cases)

/-! ## The nearest double -/

namespace Binary64

/-- The double nearest to a number that is not negative. -/
def nearest (q : ℚ) : Binary64 := ofRatio false q.num.toNat q.den

/-- A greater number has no smaller double. -/
theorem nearest_mono {q r : ℚ} (h : q ≤ r) : (nearest q).place ≤ (nearest r).place := by
  refine place_ofRatio_mono q.den_nz r.den_nz ?_
  have cross := (Rat.le_iff q r).1 h
  rcases lt_or_ge q.num 0 with hq | hq
  · rw [Int.toNat_of_nonpos hq.le, Nat.zero_mul]
    exact Nat.zero_le _
  · have hr : 0 ≤ r.num := Rat.num_nonneg.2 ((Rat.num_nonneg.1 hq).trans h)
    zify
    rwa [Int.toNat_of_nonneg hq, Int.toNat_of_nonneg hr]

theorem ofRatio_eq_nearest (num : Nat) {den : Nat} (hd : den ≠ 0) :
    ofRatio false num den = nearest (num / den) := by
  have positive : (0 : ℚ) ≤ num / den := by positivity
  have value : ((num / den : ℚ).num.toNat : ℚ) * den = num * (num / den : ℚ).den := by
    have split := Rat.num_div_den (num / den : ℚ)
    have hd : (den : ℚ) ≠ 0 := Nat.cast_ne_zero.2 hd
    have hd' : ((num / den : ℚ).den : ℚ) ≠ 0 := Nat.cast_ne_zero.2 (Rat.den_nz _)
    have toNat : ((num / den : ℚ).num.toNat : ℚ) = (num / den : ℚ).num :=
      congrArg Int.cast (Int.toNat_of_nonneg (Rat.num_nonneg.2 positive))
    rw [toNat]
    exact (div_eq_div_iff hd' hd).1 split
  have value : (num / den : ℚ).num.toNat * den = num * (num / den : ℚ).den := by
    exact_mod_cast value
  exact Cell.place_injective (le_antisymm (place_ofRatio_mono hd (Rat.den_nz _) value.ge)
    (place_ofRatio_mono (Rat.den_nz _) hd value.le))

theorem ofNat_eq_nearest (n : Nat) : ofNat n = nearest n := by
  rw [ofNat, ofRatio_eq_nearest n Nat.one_ne_zero, Nat.cast_one, div_one]

theorem place_nearest_nonneg (q : ℚ) : 0 ≤ (nearest q).place := by
  rw [nearest, place_ofRatio]
  split
  · exact le_rfl
  · exact Int.natCast_nonneg _

theorem place_nearest_le (q : ℚ) : (nearest q).place ≤ infiniteMagnitude := by
  rw [nearest, place_ofRatio]
  split
  · exact Int.natCast_nonneg _
  · exact Int.ofNat_le.2 (min_le_left _ _)

theorem ten_pow_ne_zero (k : Nat) : 10 ^ k ≠ 0 := (Nat.pow_pos (by decide)).ne'

theorem cast_ten_pow (k : Nat) : ((10 ^ k : Nat) : ℚ) = 10 ^ k := by norm_cast

/-- Far below the least double there is only zero. -/
theorem nearest_eq_zero {q : ℚ} (h : q ≤ 10 ^ (-331 : Int)) : nearest q = zero false := by
  have power : (10 : ℚ) ^ (-331 : Int) = (1 : Nat) / (10 ^ 331 : Nat) := by
    rw [zpow_neg, zpow_ofNat, Nat.cast_one, one_div, cast_ten_pow 331]
  have least : (ofRatio false 1 (10 ^ 331)).place = 0 := by decide +kernel
  have bound := nearest_mono h
  rw [power, ← ofRatio_eq_nearest 1 (ten_pow_ne_zero 331), least] at bound
  exact Cell.place_injective (le_antisymm bound (place_nearest_nonneg q))

/-- Far above the greatest double there is only infinity. -/
theorem nearest_eq_infinite {q : ℚ} (h : 10 ^ (330 : Int) ≤ q) : nearest q = infinite false := by
  have power : (10 : ℚ) ^ (330 : Int) = (10 ^ 330 : Nat) := by
    rw [zpow_ofNat, cast_ten_pow 330]
  have greatest : (ofNat (10 ^ 330)).place = infiniteMagnitude := by decide +kernel
  have bound := nearest_mono h
  rw [power, ← ofNat_eq_nearest, greatest] at bound
  exact Cell.place_injective (le_antisymm (place_nearest_le q) bound)

/-! ## Powers of ten -/

/-- The place of the first digit tells between which powers of ten a number lies. -/
theorem toDigits_bounds {m : Nat} (h : m ≠ 0) :
    m < 10 ^ (Nat.toDigits 10 m).length ∧ 10 ^ ((Nat.toDigits 10 m).length - 1) ≤ m := by
  have ten : 1 < 10 := by decide
  have positive : 0 < (Nat.toDigits 10 m).length :=
    List.length_pos_iff.2 (writes_toDigits ten (by decide) m).ne_nil
  refine ⟨(Nat.length_toDigits_le_iff ten positive).1 le_rfl, ?_⟩
  rcases Nat.eq_or_lt_of_le positive with one | more
  · rw [← one]
    exact Nat.pos_of_ne_zero h
  · refine Nat.le_of_not_lt fun less ↦ ?_
    have := (Nat.length_toDigits_le_iff ten (by omega)).2 less
    omega

/-- A decimal number is below the power of ten at its first digit. -/
theorem decimal_le {m : Nat} (h : m ≠ 0) (e : Int) :
    (m : ℚ) * 10 ^ e ≤ 10 ^ (((Nat.toDigits 10 m).length : Int) + e) := by
  have upper : (m : ℚ) ≤ 10 ^ ((Nat.toDigits 10 m).length : Int) := by
    rw [zpow_natCast, ← cast_ten_pow]
    exact Nat.cast_le.2 (toDigits_bounds h).1.le
  rw [zpow_add₀ (by norm_num)]
  exact mul_le_mul_of_nonneg_right upper (by positivity)

/-- A decimal number reaches the power of ten below its first digit. -/
theorem le_decimal {m : Nat} (h : m ≠ 0) (e : Int) :
    (10 : ℚ) ^ ((((Nat.toDigits 10 m).length - 1 : Nat) : Int) + e) ≤ m * 10 ^ e := by
  have lower : (10 : ℚ) ^ (((Nat.toDigits 10 m).length - 1 : Nat) : Int) ≤ m := by
    rw [zpow_natCast, ← cast_ten_pow]
    exact Nat.cast_le.2 (toDigits_bounds h).2
  rw [zpow_add₀ (by norm_num)]
  exact mul_le_mul_of_nonneg_right lower (by positivity)

/-- A decimal number is rounded once, whatever its exponent. -/
theorem ofDecimal_eq_nearest (m : Nat) (e : Int) : ofDecimal false m e = nearest (m * 10 ^ e) := by
  have ten : (1 : ℚ) ≤ 10 := by norm_num
  rw [ofDecimal]
  split
  · next low =>
    refine (nearest_eq_zero ?_).symm
    by_cases hm : m = 0
    · rw [hm, Nat.cast_zero, zero_mul]
      positivity
    · have top : ((Nat.toDigits 10 m).length : Int) + e ≤ -331 := by
        simp only [hm, Bool.or_eq_true, decide_eq_true_eq, false_or] at low
        omega
      exact (decimal_le hm e).trans (zpow_le_zpow_right₀ ten top)
  · next low =>
    have hm : m ≠ 0 := by
      rintro rfl
      exact low rfl
    split
    · next high =>
      have top : 330 ≤ (((Nat.toDigits 10 m).length - 1 : Nat) : Int) + e := by omega
      exact (nearest_eq_infinite ((zpow_le_zpow_right₀ ten top).trans (le_decimal hm e))).symm
    · split
      · next he =>
        obtain ⟨k, rfl⟩ := Int.eq_ofNat_of_zero_le he
        rw [ofRatio_eq_nearest _ Nat.one_ne_zero, Nat.cast_one, div_one, Int.toNat_natCast,
          zpow_natCast, Nat.cast_mul, cast_ten_pow]
      · next he =>
        obtain ⟨k, hk⟩ := Int.eq_ofNat_of_zero_le (Int.neg_nonneg_of_nonpos (Int.not_le.1 he).le)
        rw [hk, Int.toNat_natCast, ofRatio_eq_nearest _ (ten_pow_ne_zero k), ← Int.neg_neg e, hk,
          zpow_neg, div_eq_mul_inv, zpow_natCast, cast_ten_pow]

end Binary64

/-! ## Texts -/

/-- Digits with a point among them or none, as a number and how many of its digits are behind the
point. -/
inductive Mantissa : List Char → Nat → Nat → Prop
  | whole {ds : List Char} {m : Nat} (digits : Writes 10 ds m) : Mantissa ds m 0
  | point {front back : List Char} {m : Nat} (digits : Writes 10 (front ++ back) m) :
      Mantissa (front ++ '.' :: back) m back.length

/-- The exponent after the digits, or none. -/
inductive TenPower : List Char → Int → Prop
  | none : TenPower [] 0
  | plain {mark : Char} {ds : List Char} {n : Nat} (isMark : mark = 'e' ∨ mark = 'E')
      (digits : Writes 10 ds n) : TenPower (mark :: ds) n
  | plus {mark : Char} {ds : List Char} {n : Nat} (isMark : mark = 'e' ∨ mark = 'E')
      (digits : Writes 10 ds n) : TenPower (mark :: '+' :: ds) n
  | minus {mark : Char} {ds : List Char} {n : Nat} (isMark : mark = 'e' ∨ mark = 'E')
      (digits : Writes 10 ds n) : TenPower (mark :: '-' :: ds) (-n)

/-- A decimal number without a sign, of any length. -/
inductive WritesDecimal : List Char → ℚ → Prop
  | mk {ms es : List Char} {m k : Nat} {e : Int} (mantissa : Mantissa ms m k)
      (exponent : TenPower es e) : WritesDecimal (ms ++ es) (m * 10 ^ (e - k))

/-! ## Reading -/

theorem valueOf_of_writes {ds : List Char} {n : Nat} (h : Writes 10 ds n) : valueOf ds = n := by
  induction h with
  | @digit c d value =>
    show 0 * 10 + (digit? 10 c).getD 0 = d
    rw [value, Option.getD_some]
    omega
  | @concat cs c m d front value ih =>
    rw [valueOf] at ih
    rw [valueOf, List.foldl_append, ih]
    show m * 10 + (digit? 10 c).getD 0 = m * 10 + d
    rw [value, Option.getD_some]

/-- Digits are split off up to a character that is none. -/
theorem span_isDigit {ds rest : List Char} (hd : ∀ c ∈ ds, c.isDigit = true)
    (hr : ∀ c ∈ rest.head?, c.isDigit = false) : (ds ++ rest).span Char.isDigit = (ds, rest) := by
  rw [List.span_eq_takeWhile_dropWhile, List.takeWhile_append_of_pos hd,
    List.dropWhile_append_of_pos hd, Text.dropWhile_of_head? hr]
  cases rest with
  | nil => simp
  | cons c rest => simp [hr c rfl]

theorem exponentDigits?_of_writes {ds : List Char} {n : Nat} (h : Writes 10 ds n) :
    Reading.exponentDigits? ds = some n := by
  have digits : ds.all Char.isDigit = true := List.all_eq_true.2 (isDigit_of_writes h)
  have some_ : ds.isEmpty = false := List.isEmpty_eq_false_iff.2 h.ne_nil
  rw [Reading.exponentDigits?, digits, some_, valueOf_of_writes h]
  rfl

namespace TenPower

variable {es : List Char} {e : Int}

theorem head? (h : TenPower es e) : ∀ c ∈ es.head?, c = 'e' ∨ c = 'E' := by
  cases h with
  | none => exact fun c hc ↦ (Option.not_mem_none c hc).elim
  | plain hm _ | plus hm _ | minus hm _ =>
    rintro _ ⟨⟩
    exact hm

theorem exponent? (h : TenPower es e) : Reading.exponent? es = some e := by
  cases h with
  | none => rfl
  | @plain mark ds n hm digits =>
    have read := exponentDigits?_of_writes digits
    obtain ⟨c, cs, rfl⟩ := List.exists_cons_of_ne_nil digits.ne_nil
    have digit := isDigit_of_writes digits c List.mem_cons_self
    have value : Reading.exponent? (mark :: c :: cs) =
        (Reading.exponentDigits? (c :: cs)).map Int.ofNat := by
      rcases hm with rfl | rfl <;>
        · simp only [Reading.exponent?]
          split
          · next h =>
            cases h
            exact absurd digit (by decide)
          · next h =>
            cases h
            exact absurd digit (by decide)
          · rfl
    rw [value, read]
    rfl
  | @plus mark ds n hm digits =>
    have value : Reading.exponent? (mark :: '+' :: ds) =
        (Reading.exponentDigits? ds).map Int.ofNat := by
      rcases hm with rfl | rfl <;> rfl
    rw [value, exponentDigits?_of_writes digits]
    rfl
  | @minus mark ds n hm digits =>
    have value : Reading.exponent? (mark :: '-' :: ds) =
        (Reading.exponentDigits? ds).map fun n ↦ -Int.ofNat n := by
      rcases hm with rfl | rfl <;> rfl
    rw [value, exponentDigits?_of_writes digits]
    rfl

end TenPower

/-- How the digits before an exponent, and the exponent itself, are read. -/
theorem digits?_of_writes {ms es : List Char} {m k : Nat} {e : Int} (hm : Mantissa ms m k)
    (he : TenPower es e) :
    Reading.digits? false (ms ++ es) = some (.ofDecimal false m (e - k)) := by
  have mark : ∀ c ∈ es.head?, c.isDigit = false ∧ c ≠ '.' := by
    intro c hc
    rcases he.head? c hc with rfl | rfl <;> decide
  cases hm with
  | whole digits =>
    have empty : ms.isEmpty = false := List.isEmpty_eq_false_iff.2 digits.ne_nil
    have point : Reading.fraction es = ([], es) := by
      unfold Reading.fraction
      split
      · exact absurd rfl (mark _ rfl).2
      · rfl
    rw [Reading.digits?, span_isDigit (isDigit_of_writes digits) fun c hc ↦ (mark c hc).1]
    dsimp only
    rw [point]
    dsimp only
    rw [empty, he.exponent?, List.append_nil, valueOf_of_writes digits]
    rfl
  | @point front back m digits =>
    have all := isDigit_of_writes digits
    have empty : (front.isEmpty && back.isEmpty) = false := by
      rw [← Bool.not_eq_true, Bool.and_eq_true, List.isEmpty_iff, List.isEmpty_iff]
      rintro ⟨rfl, rfl⟩
      exact digits.ne_nil rfl
    have start : (front ++ '.' :: (back ++ es)).span Char.isDigit = (front, '.' :: (back ++ es)) :=
      span_isDigit (fun c hc ↦ all c (List.mem_append_left _ hc)) (by rintro _ ⟨⟩; rfl)
    rw [Reading.digits?, List.append_assoc, List.cons_append, start]
    dsimp only
    rw [Reading.fraction, span_isDigit (fun c hc ↦ all c (List.mem_append_right _ hc))
      fun c hc ↦ (mark c hc).1]
    dsimp only
    rw [empty, he.exponent?, valueOf_of_writes digits]
    rfl

namespace WritesDecimal

variable {cs : List Char} {q : ℚ}

/-- A decimal number starts with a digit or a point. -/
theorem exists_cons (h : WritesDecimal cs q) :
    ∃ c rest, cs = c :: rest ∧ c ∈ ['.', '0', '1', '2', '3', '4', '5', '6', '7', '8', '9'] := by
  have digit {ds : List Char} {m : Nat} (digits : Writes 10 ds m) (c : Char) (hc : c ∈ ds) :
      c ∈ ['.', '0', '1', '2', '3', '4', '5', '6', '7', '8', '9'] :=
    List.mem_cons_of_mem _ (decimal_cases (digits.digit?_isSome c hc))
  obtain ⟨mantissa, -⟩ := h
  cases mantissa with
  | whole digits =>
    obtain ⟨c, cs, rfl⟩ := List.exists_cons_of_ne_nil digits.ne_nil
    exact ⟨c, _, rfl, digit digits c List.mem_cons_self⟩
  | @point front back m digits =>
    cases front with
    | nil => exact ⟨'.', _, rfl, List.mem_cons_self⟩
    | cons c front => exact ⟨c, _, rfl, digit digits c List.mem_cons_self⟩

/-- None of the characters is a quote. -/
theorem not_isQuote (h : WritesDecimal cs q) : ∀ c ∈ cs, Text.isQuote c = false := by
  have digits {ds : List Char} {m : Nat} (hd : Writes 10 ds m) (c : Char) (hc : c ∈ ds) :
      Text.isQuote c = false := isQuote_of_digit? (hd.digit?_isSome c hc)
  have mark {c : Char} (hc : c = 'e' ∨ c = 'E') : Text.isQuote c = false := by
    rcases hc with rfl | rfl <;> rfl
  obtain ⟨mantissa, exponent⟩ := h
  refine List.forall_mem_append.2 ⟨?_, ?_⟩
  · cases mantissa with
    | whole hd => exact digits hd
    | point hd =>
      obtain ⟨front, back⟩ := List.forall_mem_append.1 (digits hd)
      exact List.forall_mem_append.2 ⟨front, List.forall_mem_cons.2 ⟨rfl, back⟩⟩
  · cases exponent with
    | none => exact fun c hc ↦ absurd hc List.not_mem_nil
    | plain hm hd => exact List.forall_mem_cons.2 ⟨mark hm, digits hd⟩
    | plus hm hd | minus hm hd =>
      exact List.forall_mem_cons.2 ⟨mark hm, List.forall_mem_cons.2 ⟨rfl, digits hd⟩⟩

/-- A number that has neither a point nor an exponent is the one that its digits write. -/
theorem eq_of_writes (h : WritesDecimal cs q) {n : Nat} (hn : Writes 10 cs n) : q = n := by
  have all := isDigit_of_writes hn
  obtain ⟨mantissa, exponent⟩ := h
  obtain ⟨front, back⟩ := List.forall_mem_append.1 all
  cases exponent with
  | none => cases mantissa with
    | whole hd =>
      rw [List.append_nil] at hn
      rw [hd.unique hn]
      simp
    | point _ => exact absurd (front '.' (by simp)) (by decide)
  | plain hm _ | plus hm _ | minus hm _ =>
    have digit := back _ List.mem_cons_self
    rcases hm with rfl | rfl <;> exact absurd digit (by decide)

/-- A decimal number is read as a natural number if it has neither a point nor an exponent and is
below the bound. -/
theorem decimal?_eq_some_iff (h : WritesDecimal cs q) {bound n : Nat} (hb : 0 < bound) :
    decimal? bound (.ofList cs) = some n ↔ n < bound ∧ Writes 10 cs n := by
  have plus : ∀ ds, cs ≠ '+' :: ds := by
    rintro ds rfl
    obtain ⟨c, rest, same, hc⟩ := h.exists_cons
    rw [← (List.cons.inj same).1] at hc
    exact absurd hc (by decide)
  have ok : decimal? bound (.ofList cs) = some n ↔ read 10 bound cs = .ok n := by
    rw [decimal?, String.toList_ofList]
    cases read 10 bound cs <;> simp [Except.toOption]
  rw [ok, read_eq_ok_iff hb]
  simp only [plus, false_and, exists_false, or_false]

theorem digits? (h : WritesDecimal cs q) : Reading.digits? false cs = some (.nearest q) := by
  obtain ⟨mantissa, exponent⟩ := h
  rw [digits?_of_writes mantissa exponent, Binary64.ofDecimal_eq_nearest]

/-- A decimal number is read as the double nearest to it. -/
theorem parse? (h : WritesDecimal cs q) :
    Binary64.parse? (.ofList cs) = some (.nearest q) := by
  have digits := h.digits?
  obtain ⟨c, rest, rfl, hc⟩ := h.exists_cons
  have plain : ∀ c ∈ ['.', '0', '1', '2', '3', '4', '5', '6', '7', '8', '9'],
      c ≠ '-' ∧ c ≠ '+' ∧ c.toLower ≠ 'i' ∧ c.toLower ≠ 'n' := by simp
  obtain ⟨minus, plus, i, n⟩ := plain c hc
  have word : Reading.word? false (c :: rest) = none := by
    simp [Reading.word?, i, n]
  rw [Binary64.parse?, String.toList_ofList]
  split
  · next h => exact absurd (List.cons.inj h).1 minus
  · next h => exact absurd (List.cons.inj h).1 plus
  · rw [Reading.signed?, word, digits]
    rfl

end WritesDecimal

end LedgerQuery.Number
