import LedgerQuery.Query.Filter
import Mathlib.Data.List.TakeWhile
import Mathlib.Data.Nat.Digits.Defs

/-!
# Digits

The digits that write a number in a base (`Writes`): zeros may stand in front, and letters may be of
either case.  Whatever writes a number is read as this number (`read_of_writes`), and the digits
without zeros in front are among what writes it (`writes_toDigits`).  The number of a block is the
one that decimal digits write, or hexadecimal ones after `0x` (`blockNumber?_decimal`,
`blockNumber?_hexadecimal`).
-/

namespace LedgerQuery

namespace Number

/-- Digits of a base that write a number, the last digit for the smallest part of it. -/
inductive Writes (radix : Nat) : List Char → Nat → Prop
  | digit {c : Char} {d : Nat} (value : digit? radix c = some d) : Writes radix [c] d
  | concat {cs : List Char} {c : Char} {m d : Nat} (front : Writes radix cs m)
      (value : digit? radix c = some d) : Writes radix (cs ++ [c]) (m * radix + d)

namespace Writes

variable {radix n : Nat} {cs : List Char}

theorem digit?_isSome (h : Writes radix cs n) : ∀ c ∈ cs, (digit? radix c).isSome := by
  induction h with
  | digit value =>
    intro c hc
    rw [List.mem_singleton.1 hc, value]
    rfl
  | concat _ value ih =>
    refine List.forall_mem_append.2 ⟨ih, fun c hc ↦ ?_⟩
    rw [List.mem_singleton.1 hc, value]
    rfl

theorem ne_nil (h : Writes radix cs n) : cs ≠ [] := by
  cases h with
  | digit _ => exact List.cons_ne_nil _ _
  | concat _ _ => exact List.append_ne_nil_of_right_ne_nil _ (List.cons_ne_nil _ _)

end Writes

theorem digit?_eq_some_iff {radix d : Nat} {c : Char} :
    digit? radix c = some d ↔ digitValue? c = some d ∧ d < radix := by
  simp [digit?, Option.filter_eq_some_iff]

theorem digitValue?_digitChar : ∀ d < 16, digitValue? (Nat.digitChar d) = some d := by
  decide +kernel

/-- The digits of a number write it. -/
theorem writes_toDigits {radix : Nat} (h : 1 < radix) (h16 : radix ≤ 16) (n : Nat) :
    Writes radix (Nat.toDigits radix n) n := by
  have digit : ∀ d < radix, digit? radix (Nat.digitChar d) = some d := fun d hd ↦
    digit?_eq_some_iff.2 ⟨digitValue?_digitChar d (hd.trans_le h16), hd⟩
  induction n using Nat.strongRecOn with
  | ind n ih =>
    by_cases hn : n < radix
    · rw [Nat.toDigits_of_lt_base hn]
      exact .digit (digit n hn)
    · rw [Nat.toDigits_of_base_le h (Nat.le_of_not_lt hn)]
      have front := ih (n / radix) (Nat.div_lt_self (by omega) h)
      have whole := front.concat (digit _ (Nat.mod_lt n (by omega)))
      rwa [Nat.div_add_mod'] at whole

/-! ## Reading -/

theorem readDigits_append {radix bound v m : Nat} {cs : List Char} (ds : List Char)
    (h : readDigits radix bound v cs = .ok m) :
    readDigits radix bound v (cs ++ ds) = readDigits radix bound m ds := by
  induction cs generalizing v with
  | nil =>
    cases h
    rfl
  | cons c cs ih =>
    rw [readDigits] at h
    rw [List.cons_append, readDigits]
    split at h
    · cases h
    · next d hd =>
      split at h
      · next hb => rw [if_pos hb, ih h]
      · cases h

theorem readDigits_of_writes {radix bound n : Nat} {cs : List Char} (h : Writes radix cs n)
    (hn : n < bound) : readDigits radix bound 0 cs = .ok n := by
  have step {v d : Nat} {c : Char} (hc : digit? radix c = some d) (hv : v * radix + d < bound) :
      readDigits radix bound v [c] = .ok (v * radix + d) := by
    rw [readDigits, hc]
    dsimp only
    rw [if_pos hv]
    rfl
  induction h with
  | @digit c d value =>
    have whole : 0 * radix + d = d := by omega
    exact whole ▸ step value (whole.symm ▸ hn)
  | @concat cs c m d front value ih =>
    have positive : 0 < radix := Nat.zero_lt_of_lt (digit?_eq_some_iff.1 value).2
    have hm : m ≤ m * radix := Nat.le_mul_of_pos_right m positive
    rw [readDigits_append [c] (ih (by omega))]
    exact step value hn

/-- What writes a number below the bound is read as this number. -/
theorem read_of_writes {radix bound n : Nat} {cs : List Char} (h : Writes radix cs n)
    (hn : n < bound) : read radix bound cs = .ok n := by
  have plus (cs : List Char) : ¬Writes radix ('+' :: cs) n := by
    intro h
    have hd := h.digit?_isSome '+' List.mem_cons_self
    have none : digit? radix '+' = none := rfl
    rw [none] at hd
    cases hd
  unfold read
  split
  · exact absurd rfl h.ne_nil
  · exact absurd h (plus _)
  · exact absurd h (plus _)
  · exact readDigits_of_writes h hn

theorem writes_of_readDigits {radix bound v n : Nat} {ps cs : List Char} (hp : Writes radix ps v)
    (h : readDigits radix bound v cs = .ok n) : Writes radix (ps ++ cs) n := by
  induction cs generalizing ps v with
  | nil =>
    cases h
    rwa [List.append_nil]
  | cons c cs ih =>
    rw [readDigits] at h
    split at h
    · cases h
    · next d hd =>
      split at h
      · have whole := ih (hp.concat hd) h
        rwa [List.append_assoc, List.singleton_append] at whole
      · cases h

theorem readDigits_eq_ok {radix bound n : Nat} {cs : List Char} (hcs : cs ≠ [])
    (h : readDigits radix bound 0 cs = .ok n) : Writes radix cs n := by
  obtain ⟨c, cs, rfl⟩ := List.exists_cons_of_ne_nil hcs
  rw [readDigits] at h
  split at h
  · cases h
  · next d hd =>
    split at h
    · rw [Nat.zero_mul, Nat.zero_add] at h
      exact writes_of_readDigits (.digit hd) h
    · cases h

/-- What is read as a number writes this number, a plus sign in front of it apart. -/
theorem read_eq_ok_iff {radix bound n : Nat} {cs : List Char} (hb : 0 < bound) :
    read radix bound cs = .ok n ↔
      n < bound ∧ (Writes radix cs n ∨ ∃ ds, cs = '+' :: ds ∧ Writes radix ds n) := by
  constructor
  · intro h
    refine ⟨read_lt hb h, ?_⟩
    unfold read at h
    split at h
    · cases h
    · cases h
    · next ds single =>
      have hd : ds ≠ [] := fun none ↦ single (none ▸ rfl)
      exact .inr ⟨ds, rfl, readDigits_eq_ok hd h⟩
    · next none _ _ => exact .inl (readDigits_eq_ok none h)
  · rintro ⟨hn, h | ⟨ds, rfl, h⟩⟩
    · exact read_of_writes h hn
    · have read : read radix bound ('+' :: ds) = readDigits radix bound 0 ds := by
        unfold read
        split
        · next none => cases none
        · next single =>
          cases single
          exact absurd rfl h.ne_nil
        · next same => rw [(List.cons.inj same).2]
        · next plus => exact absurd rfl (plus ds)
      rw [read, readDigits_of_writes h hn]

/-- Digits write one number only. -/
theorem Writes.unique {radix m n : Nat} {cs : List Char} (hm : Writes radix cs m)
    (hn : Writes radix cs n) : m = n := by
  have first := readDigits_of_writes hm (Nat.lt_succ_of_le (Nat.le_add_right m n))
  have second := readDigits_of_writes hn (Nat.lt_succ_of_le (Nat.le_add_left n m))
  exact Except.ok.inj (first.symm.trans second)

end Number

/-! ## Quotes -/

namespace Text

theorem dropWhile_of_head? {p : Char → Bool} {cs : List Char} (h : ∀ c ∈ cs.head?, p c = false) :
    cs.dropWhile p = cs := by
  cases cs with
  | nil => rfl
  | cons c cs => rw [List.dropWhile_cons_of_neg (Bool.eq_false_iff.1 (h c rfl))]

/-- What stands between characters of the class, and has none of them at its own ends, is left. -/
theorem stripChars_append {p : Char → Bool} {before cs after : List Char}
    (hb : ∀ c ∈ before, p c = true) (ha : ∀ c ∈ after, p c = true)
    (hh : ∀ c ∈ cs.head?, p c = false) (hl : ∀ c ∈ cs.getLast?, p c = false) :
    stripChars p (before ++ (cs ++ after)) = cs := by
  rw [stripChars, List.dropWhile_append_of_pos hb]
  cases cs with
  | nil =>
    rw [List.nil_append, List.dropWhile_eq_nil_iff.2 ha]
    rfl
  | cons c cs =>
    have start : (c :: cs ++ after).dropWhile p = c :: cs ++ after := dropWhile_of_head? hh
    rw [start, List.reverse_append,
      List.dropWhile_append_of_pos fun d hd ↦ ha d (List.mem_reverse.1 hd),
      dropWhile_of_head? (by rwa [List.head?_reverse]), List.reverse_reverse]

theorem stripChars_of_ends {p : Char → Bool} {cs : List Char} (hh : ∀ c ∈ cs.head?, p c = false)
    (hl : ∀ c ∈ cs.getLast?, p c = false) : stripChars p cs = cs := by
  have whole : stripChars p ([] ++ (cs ++ [])) = cs := stripChars_append (by simp) (by simp) hh hl
  rwa [List.nil_append, List.append_nil] at whole

/-- What stands between quotes, and has no quotes at its own ends, is left. -/
theorem unquote_append (before cs after : List Char) (hb : ∀ c ∈ before, isQuote c = true)
    (ha : ∀ c ∈ after, isQuote c = true)
    (hh : ∀ c ∈ cs.head?, isQuote c = false) (hl : ∀ c ∈ cs.getLast?, isQuote c = false) :
    unquote (.ofList (before ++ (cs ++ after))) = .ofList cs := by
  rw [unquote, strip, String.toList_ofList, stripChars_append hb ha hh hl]

theorem unquote_of_not_isQuote {cs : List Char} (h : ∀ c ∈ cs, isQuote c = false) :
    unquote (.ofList cs) = .ofList cs := by
  rw [unquote, strip, String.toList_ofList,
    stripChars_of_ends (fun c hc ↦ h c (List.mem_of_mem_head? hc))
      fun c hc ↦ h c (List.mem_of_getLast? hc)]

end Text

namespace Number

theorem isQuote_of_digit? {radix : Nat} {c : Char} (h : (digit? radix c).isSome) :
    Text.isQuote c = false := by
  obtain ⟨d, hd⟩ := Option.isSome_iff_exists.1 h
  rw [Text.isQuote, Bool.or_eq_false_iff]
  constructor <;> rw [beq_eq_false_iff_ne] <;> rintro rfl <;> cases hd

end Number

/-! ## Numbers of blocks -/

namespace Query

open Chain
open Number (Writes)

theorem blockNumber?_decimal {ds : List Char} {n : Quantity 64} (h : Writes 10 ds n.val) :
    blockNumber? (.ofList ds) = some n := by
  rw [blockNumber?, String.toList_ofList]
  split
  · exact absurd (h.digit?_isSome 'x' (by simp)) (by decide)
  · exact absurd (h.digit?_isSome 'X' (by simp)) (by decide)
  · rw [Number.decimal?, String.toList_ofList, Number.read_of_writes h n.isLt]
    exact Quantity.ofNat?_val n

theorem blockNumber?_hexadecimal {ds : List Char} {n : Quantity 64} (h : Writes 16 ds n.val) :
    blockNumber? (.ofList ('0' :: 'x' :: ds)) = some n := by
  have digits := Number.read_of_writes h (n.isLt.trans (by decide : 2 ^ 64 < 2 ^ 128))
  have parsed : Quantity.parse (.ofList ('0' :: 'x' :: ds)) = .ok n.val := by
    simp [Quantity.parse, h.ne_nil, digits]
  have found : Quantity.read 64 (.ofList ('0' :: 'x' :: ds)) = .ok n := by
    simp only [Quantity.read, parsed, Quantity.ofNat?_val]
  simp only [blockNumber?, String.toList_ofList, found]

theorem blockNumber?_marked (cs : List Char) : blockNumber? (.ofList ('X' :: cs)) = none := by
  have failed : Number.read 10 (2 ^ 64) ('X' :: cs) = .error .invalidDigit := rfl
  rw [blockNumber?, String.toList_ofList]
  show (Number.decimal? (2 ^ 64) _).bind _ = _
  rw [Number.decimal?, String.toList_ofList, failed]
  rfl

end Query

end LedgerQuery
