import LedgerQuery.Chain.Codec
import LedgerQuery.Proofs.Digits
import LedgerQuery.Proofs.Evaluation

/-!
# Texts that are numbers

A quantity is read from a text if and only if the text is `0x` or `0X` and hexadecimal digits that
write it (`Quantity.parse_eq_ok_iff`), and the number of a block from such a text or from decimal
digits (`blockNumber?_eq_some_iff`).  In all of them a plus sign may stand in front of the digits,
which nobody writes there (`numbers_read`).  Zeros may stand in front of the digits too, as many as
one likes.
-/

namespace LedgerQuery

namespace Number

/-- What may stand in front of the digits of a number. -/
inductive Sign : List Char → Prop
  | none : Sign []
  | plus : Sign ['+']

/-- Characters that are `0x` or `0X`, a sign and hexadecimal digits that write a number. -/
inductive Hexadecimal (sign : List Char) : List Char → Nat → Prop
  | lower {ds : List Char} {n : Nat} (digits : Writes 16 ds n) :
      Hexadecimal sign ('0' :: 'x' :: (sign ++ ds)) n
  | upper {ds : List Char} {n : Nat} (digits : Writes 16 ds n) :
      Hexadecimal sign ('0' :: 'X' :: (sign ++ ds)) n

/-- Characters that write a number in decimal digits, or in hexadecimal ones with their mark. -/
inductive Numeral (sign : List Char) : List Char → Nat → Prop
  | decimal {ds : List Char} {n : Nat} (digits : Writes 10 ds n) : Numeral sign (sign ++ ds) n
  | hexadecimal {cs : List Char} {n : Nat} (marked : Hexadecimal sign cs n) : Numeral sign cs n

/-- What is read as a number is a sign and digits. -/
theorem read_eq_ok_iff_sign {radix bound n : Nat} {cs : List Char} (hb : 0 < bound) :
    read radix bound cs = .ok n ↔
      n < bound ∧ ∃ sign ds, Sign sign ∧ cs = sign ++ ds ∧ Writes radix ds n := by
  rw [read_eq_ok_iff hb]
  refine and_congr_right fun _ ↦ ⟨?_, ?_⟩
  · rintro (digits | ⟨ds, rfl, digits⟩)
    · exact ⟨[], cs, .none, rfl, digits⟩
    · exact ⟨['+'], ds, .plus, rfl, digits⟩
  · rintro ⟨sign, ds, known, rfl, digits⟩
    cases known with
    | none => exact .inl digits
    | plus => exact .inr ⟨ds, rfl, digits⟩

/-- Decimal digits do not begin like a mark, with a sign or without one. -/
theorem Numeral.marked {sign cs rest : List Char} {n : Nat} {mark : Char} (known : Sign sign)
    (h : Numeral sign cs n) (hm : mark = 'x' ∨ mark = 'X') (hc : cs = '0' :: mark :: rest) :
    Hexadecimal sign cs n := by
  cases h with
  | hexadecimal marked => exact marked
  | decimal digits =>
    cases known with
    | plus => cases hc
    | none =>
      have digit := digits.digit?_isSome mark (by rw [List.nil_append] at hc; simp [hc])
      rcases hm with rfl | rfl <;> exact absurd digit (by decide)

/-- Without a mark there are only decimal digits. -/
theorem Numeral.plain {sign cs : List Char} {n : Nat} (h : Numeral sign cs n)
    (hx : ∀ rest, cs ≠ '0' :: 'x' :: rest) (hX : ∀ rest, cs ≠ '0' :: 'X' :: rest) :
    ∃ ds, cs = sign ++ ds ∧ Writes 10 ds n := by
  cases h with
  | decimal digits => exact ⟨_, rfl, digits⟩
  | hexadecimal marked =>
    cases marked with
    | lower _ => exact absurd rfl (hx _)
    | upper _ => exact absurd rfl (hX _)

end Number

open Number (Sign Hexadecimal Numeral Writes)

/-! ## Quantities -/

namespace Chain.Quantity

theorem ofNat?_eq_some_iff {width n : Nat} {q : Quantity width} :
    ofNat? width n = some q ↔ n = q.val := by
  constructor
  · intro h
    rw [ofNat?] at h
    split at h
    · cases h
      rfl
    · cases h
  · rintro rfl
    exact ofNat?_val q

/-- After a mark, what is read is the number in the digits. -/
theorem parse_of_mark {raw : String} {ds : List Char} {mark : Char} {n : Nat}
    (hm : mark = 'x' ∨ mark = 'X') (text : raw.toList = '0' :: mark :: ds) :
    parse raw = .ok n ↔ Number.read 16 (2 ^ 128) ds = .ok n := by
  have read : parse raw = .ok n ↔ ds ≠ [] ∧ Number.read 16 (2 ^ 128) ds = .ok n := by
    rcases hm with rfl | rfl
    all_goals
      cases ds with
      | nil => simp [parse, text]
      | cons d ds =>
        simp only [parse, text]
        cases Number.read 16 (2 ^ 128) (d :: ds) <;> simp
  rw [read, and_iff_right_iff_imp]
  rintro digits rfl
  cases digits

/-- A text is a quantity if and only if it is a mark and digits, and not too large. -/
theorem parse_eq_ok_iff {raw : String} {n : Nat} :
    parse raw = .ok n ↔ n < 2 ^ 128 ∧ ∃ sign, Sign sign ∧ Hexadecimal sign raw.toList n := by
  have bound : 0 < 2 ^ 128 := Nat.two_pow_pos 128
  constructor
  · intro h
    have marked : ∃ mark ds, (mark = 'x' ∨ mark = 'X') ∧ raw.toList = '0' :: mark :: ds := by
      rw [parse] at h
      split at h
      · next ds text => exact ⟨'x', ds, .inl rfl, text⟩
      · next ds text => exact ⟨'X', ds, .inr rfl, text⟩
      · cases h
    obtain ⟨mark, ds, hm, text⟩ := marked
    rw [parse_of_mark hm text, Number.read_eq_ok_iff_sign bound] at h
    obtain ⟨small, sign, ds, known, rfl, digits⟩ := h
    refine ⟨small, sign, known, ?_⟩
    rcases hm with rfl | rfl
    · exact text ▸ .lower digits
    · exact text ▸ .upper digits
  · rintro ⟨small, sign, known, marked⟩
    have read {ds : List Char} (digits : Writes 16 ds n) :
        Number.read 16 (2 ^ 128) (sign ++ ds) = .ok n :=
      (Number.read_eq_ok_iff_sign bound).2 ⟨small, sign, ds, known, rfl, digits⟩
    generalize text : raw.toList = cs at marked
    cases marked with
    | lower digits => exact (parse_of_mark (.inl rfl) text).2 (read digits)
    | upper digits => exact (parse_of_mark (.inr rfl) text).2 (read digits)

variable {width : Nat} {raw : String} {q : Quantity width}

theorem read_eq_ok_iff : read width raw = .ok q ↔ parse raw = .ok q.val := by
  rw [read]
  cases parse raw with
  | error e => simp
  | ok n =>
    rw [Except.ok.injEq, ← ofNat?_eq_some_iff]
    dsimp only
    cases ofNat? width n <;> simp

/-- A field of a record is read from a text as the text is on its own. -/
theorem ofJson_text_eq_ok_iff : ofJson width (.text raw) = .ok q ↔ parse raw = .ok q.val := by
  rw [← read_eq_ok_iff, ofJson, Json.text, Json.readText]
  dsimp only
  cases read width raw <;> simp

end Chain.Quantity

/-! ## Numbers of blocks -/

namespace Query

open Chain

/-- With a mark, the number of a block is a quantity; without one, it is in decimal digits. -/
theorem blockNumber?_of_mark {s : String} {rest : List Char} {mark : Char} {n : Quantity 64}
    (hm : mark = 'x' ∨ mark = 'X') (text : s.toList = '0' :: mark :: rest) :
    blockNumber? s = some n ↔ Quantity.parse s = .ok n.val := by
  rw [← Quantity.read_eq_ok_iff]
  rcases hm with rfl | rfl
  all_goals
    simp only [blockNumber?, text]
    cases Quantity.read 64 s <;> simp

theorem blockNumber?_of_no_mark {s : String} {n : Quantity 64}
    (hx : ∀ rest, s.toList ≠ '0' :: 'x' :: rest) (hX : ∀ rest, s.toList ≠ '0' :: 'X' :: rest) :
    blockNumber? s = some n ↔ Number.read 10 (2 ^ 64) s.toList = .ok n.val := by
  have decimal : blockNumber? s = (Number.decimal? (2 ^ 64) s).bind (Quantity.ofNat? 64) := by
    rw [blockNumber?]
    split
    · next text => exact absurd text (hx _)
    · next text => exact absurd text (hX _)
    · rfl
  rw [decimal, Number.decimal?]
  cases Number.read 10 (2 ^ 64) s.toList with
  | error e => simp [Except.toOption]
  | ok m =>
    rw [Except.ok.injEq, ← Quantity.ofNat?_eq_some_iff]
    rfl

/-- A text is the number of a block if and only if it is a numeral. -/
theorem blockNumber?_eq_some_iff {s : String} {n : Quantity 64} :
    blockNumber? s = some n ↔ ∃ sign, Sign sign ∧ Numeral sign s.toList n.val := by
  by_cases hm : ∃ mark rest, (mark = 'x' ∨ mark = 'X') ∧ s.toList = '0' :: mark :: rest
  · obtain ⟨mark, rest, hm, text⟩ := hm
    have small : n.val < 2 ^ 128 := n.isLt.trans (by decide)
    rw [blockNumber?_of_mark hm text, Quantity.parse_eq_ok_iff, and_iff_right small]
    refine exists_congr fun sign ↦ and_congr_right fun known ↦ ?_
    exact ⟨.hexadecimal, fun numeral ↦ numeral.marked known hm text⟩
  · have lower (rest : List Char) (text : s.toList = '0' :: 'x' :: rest) : False :=
      hm ⟨'x', rest, .inl rfl, text⟩
    have upper (rest : List Char) (text : s.toList = '0' :: 'X' :: rest) : False :=
      hm ⟨'X', rest, .inr rfl, text⟩
    have bound : 0 < 2 ^ 64 := Nat.two_pow_pos 64
    rw [blockNumber?_of_no_mark lower upper, Number.read_eq_ok_iff_sign bound, and_iff_right n.isLt]
    refine exists_congr fun sign ↦ ?_
    constructor
    · rintro ⟨ds, known, text, digits⟩
      exact ⟨known, text ▸ .decimal digits⟩
    · rintro ⟨known, numeral⟩
      obtain ⟨ds, text, digits⟩ := numeral.plain lower upper
      exact ⟨ds, known, text, digits⟩

variable {t : Table} {column literal : String}

/-- A literal is looked up as the number of a block if and only if it is a numeral between
quotes. -/
theorem lookup_eq_number_iff (hc : Text.lower column = "blocknumber") {n : Quantity 64} :
    lookup t column literal = .ok (numberLookup t n) ↔
      ∃ sign, Sign sign ∧ Numeral sign (Text.unquote literal).toList n.val := by
  have injective : Function.Injective (numberLookup t) := by
    intro m n h
    cases t <;> cases h <;> rfl
  rw [← blockNumber?_eq_some_iff, lookup_blocknumber hc, blockNumber]
  cases blockNumber? (Text.unquote literal) with
  | none => simp [Except.map]
  | some m => simp [Except.map, injective.eq_iff]

theorem lookup_eq_invalid_iff (hc : Text.lower column = "blocknumber") :
    lookup t column literal = .error (.invalidFilterValue column (Text.unquote literal)) ↔
      ∀ (n : Quantity 64) (sign : List Char), Sign sign →
        ¬Numeral sign (Text.unquote literal).toList n.val := by
  have none : blockNumber? (Text.unquote literal) = none ↔
      ∀ (n : Quantity 64) (sign : List Char), Sign sign →
        ¬Numeral sign (Text.unquote literal).toList n.val := by
    simp only [Option.eq_none_iff_forall_ne_some, ne_eq, blockNumber?_eq_some_iff, not_exists,
      not_and]
  rw [← none, lookup_blocknumber hc, blockNumber]
  cases blockNumber? (Text.unquote literal) with
  | none => simp [Except.map]
  | some m => simp [Except.map]

/-- Which texts are numbers: quantities, fields of records, and the literals that the number of a
block is compared with.  A plus sign in front of the digits is read over; without it, these are the
texts that say a number, as far as it has a place. -/
theorem numbers_read (raw : String) (width : Nat) (t : Table) (column literal : String)
    (hc : Text.lower column = "blocknumber") :
    (∀ n, Quantity.parse raw = .ok n ↔
      n < 2 ^ 128 ∧ ∃ sign, Sign sign ∧ Hexadecimal sign raw.toList n) ∧
    (∀ q : Quantity width,
      (Quantity.ofJson width (.text raw) = .ok q ↔
        q.val < 2 ^ 128 ∧ ∃ sign, Sign sign ∧ Hexadecimal sign raw.toList q.val) ∧
      (Json.readNullable (Quantity.ofJson width) (.text raw) = .ok (some q) ↔
        q.val < 2 ^ 128 ∧ ∃ sign, Sign sign ∧ Hexadecimal sign raw.toList q.val)) ∧
    (∀ n : Quantity 64, lookup t column literal = .ok (numberLookup t n) ↔
      ∃ sign, Sign sign ∧ Numeral sign (Text.unquote literal).toList n.val) ∧
    (lookup t column literal = .error (.invalidFilterValue column (Text.unquote literal)) ↔
      ∀ (n : Quantity 64) (sign : List Char), Sign sign →
        ¬Numeral sign (Text.unquote literal).toList n.val) := by
  refine ⟨fun n ↦ Quantity.parse_eq_ok_iff, fun q ↦ ?_, fun n ↦ lookup_eq_number_iff hc,
    lookup_eq_invalid_iff hc⟩
  have field : Quantity.ofJson width (.text raw) = .ok q ↔ _ :=
    Quantity.ofJson_text_eq_ok_iff.trans Quantity.parse_eq_ok_iff
  refine ⟨field, Iff.trans ?_ field⟩
  rw [Json.readNullable]
  · cases Quantity.ofJson width (.text raw) <;> simp [Except.map]
  · nofun

theorem numbers_read_plus :
    Quantity.parse "0x+1" = .ok 1 ∧
      lookup .blocks "BlockNumber" "'+5'" = .ok (.blockByNumber ⟨5, by decide⟩) ∧
      lookup .blocks "BlockNumber" "'0X+fF'" = .ok (.blockByNumber ⟨255, by decide⟩) := by
  have one : "0x+1".toList = '0' :: 'x' :: (['+'] ++ ['1']) := by decide
  have five : (Text.unquote "'+5'").toList = ['+'] ++ ['5'] := by decide
  have byte : (Text.unquote "'0X+fF'").toList = '0' :: 'X' :: (['+'] ++ (['f'] ++ ['F'])) := by
    decide
  have column : Text.lower "BlockNumber" = "blocknumber" := by decide +kernel
  have written : Writes 16 (['f'] ++ ['F']) (15 * 16 + 15) := .concat (.digit rfl) rfl
  obtain ⟨quantity, -, number, -⟩ := numbers_read "0x+1" 64 .blocks "BlockNumber" "'+5'" column
  obtain ⟨-, -, marked, -⟩ := numbers_read "0x+1" 64 .blocks "BlockNumber" "'0X+fF'" column
  refine ⟨(quantity _).2 ⟨by decide, ['+'], .plus, ?_⟩, (number _).2 ⟨['+'], .plus, ?_⟩,
    (marked _).2 ⟨['+'], .plus, .hexadecimal ?_⟩⟩
  · exact one ▸ .lower (.digit rfl)
  · exact five ▸ .decimal (.digit rfl)
  · exact byte ▸ .upper written

end Query

end LedgerQuery
