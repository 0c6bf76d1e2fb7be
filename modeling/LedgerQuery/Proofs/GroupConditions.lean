import LedgerQuery.Proofs.Decimals
import LedgerQuery.Proofs.Grouped

/-!
# Numbers in conditions on groups

A natural number compares exactly with a literal that is one too and below `2 ^ 128`.  With every
other decimal literal it compares as a double does: exactly again, unless both round to the same
double and so count as equal (`compare_literalCell`).  `NULL` is no literal of its own here; cells
compare with it as with the text of these four letters.  A query with groups keeps its groups by
these comparisons (`ofGroups_numbers`).
-/

namespace LedgerQuery.Query

open Chain
open Number (Binary64 Writes WritesDecimal)

/-! ## Comparisons -/

/-- What a comparison says about two numbers. -/
def Comparison.Relates : Comparison → ℚ → ℚ → Prop
  | .eq, a, b => a = b
  | .ne, a, b => a ≠ b
  | .lt, a, b => a < b
  | .le, a, b => a ≤ b
  | .gt, a, b => b < a
  | .ge, a, b => b ≤ a

theorem Comparison.holds_compare (op : Comparison) (a b : ℚ) :
    op.holds (compare a b) = true ↔ op.Relates a b := by
  cases op with
  | eq => rw [holds, beq_iff_eq, compare_eq_iff_eq, Relates]
  | ne => rw [holds, bne_iff_ne, ne_eq, compare_eq_iff_eq, Relates]
  | lt => rw [holds, beq_iff_eq, compare_lt_iff_lt, Relates]
  | le => rw [holds, bne_iff_ne, compare_le_iff_le, Relates]
  | gt => rw [holds, beq_iff_eq, compare_gt_iff_gt, Relates]
  | ge => rw [holds, bne_iff_ne, compare_ge_iff_ge, Relates]

/-! ## Literals -/

section Literals

variable {cs : List Char} {q : ℚ}

/-- Digits below the bound are a natural number. -/
theorem literalCell_whole (h : WritesDecimal cs q) {n : Nat} (hn : n < 2 ^ 128)
    (hw : Writes 10 cs n) :
    literalCell (.ofList cs) = .integer n := by
  have read := (h.decimal?_eq_some_iff (by decide)).2 ⟨hn, hw⟩
  have unquoted := Text.unquote_of_not_isQuote h.not_isQuote
  simp only [literalCell, unquoted, ne_eq, not_true_eq_false, if_false, read]

/-- Every other decimal number is a double. -/
theorem literalCell_rounded (h : WritesDecimal cs q) (hw : ∀ n < 2 ^ 128, ¬ Writes 10 cs n) :
    literalCell (.ofList cs) = .float (.nearest q) := by
  have read : Number.decimal? (2 ^ 128) (.ofList cs) = none := by
    rw [Option.eq_none_iff_forall_ne_some]
    intro n hn
    obtain ⟨bound, digits⟩ := (h.decimal?_eq_some_iff (by decide)).1 hn
    exact hw n bound digits
  have unquoted := Text.unquote_of_not_isQuote h.not_isQuote
  simp only [literalCell, unquoted, ne_eq, not_true_eq_false, if_false, read, h.parse?]

/-- Whether a natural number is told apart from the number that a literal writes: the literal is a
natural number too, or the two round to different doubles. -/
def ToldApart (v : Nat) (cs : List Char) (q : ℚ) : Prop :=
  (∃ n < 2 ^ 128, Writes 10 cs n) ∨ Binary64.ofNat v ≠ .nearest q

/-- Rounding does not turn two numbers round: they compare as they are, or as equal. -/
theorem compare_nearest {v : Nat} (h : Binary64.ofNat v ≠ .nearest q) :
    (Binary64.ofNat v).compare (.nearest q) = compare (v : ℚ) q := by
  have apart : (Binary64.nearest v).place ≠ (Binary64.nearest q).place := by
    rw [← Binary64.ofNat_eq_nearest]
    exact fun places ↦ h (Cell.place_injective places)
  rw [Binary64.compare, Binary64.ofNat_eq_nearest]
  rcases lt_trichotomy (v : ℚ) q with less | rfl | greater
  · have places := lt_of_le_of_ne (Binary64.nearest_mono less.le) apart
    rw [compare_lt_iff_lt.2 less, compare_lt_iff_lt.2 places]
  · exact absurd rfl apart
  · have places := lt_of_le_of_ne (Binary64.nearest_mono greater.le) apart.symm
    rw [compare_gt_iff_gt.2 greater, compare_gt_iff_gt.2 places]

theorem compare_cast (m n : Nat) : compare (m : ℚ) n = compare m n := by
  rcases lt_trichotomy m n with less | rfl | greater
  · rw [compare_lt_iff_lt.2 less, compare_lt_iff_lt.2 (Nat.cast_lt.2 less)]
  · rw [compare_eq_iff_eq.2 rfl, compare_eq_iff_eq.2 rfl]
  · rw [compare_gt_iff_gt.2 greater, compare_gt_iff_gt.2 (Nat.cast_lt.2 greater)]

/-- A natural number compares with the number that a literal writes as it should, where the two are
told apart. -/
theorem compare_literalCell (h : WritesDecimal cs q) {v : Nat} (ht : ToldApart v cs q) :
    (Cell.integer v).compare (literalCell (.ofList cs)) = compare (v : ℚ) q := by
  by_cases whole : ∃ n < 2 ^ 128, Writes 10 cs n
  · obtain ⟨n, hn, digits⟩ := whole
    rw [literalCell_whole h hn digits, h.eq_of_writes digits, compare_cast]
    rfl
  · have apart := ht.resolve_left whole
    rw [literalCell_rounded h fun n hn hw ↦ whole ⟨n, hn, hw⟩]
    exact compare_nearest apart

/-- Where the two are not told apart, they count as equal. -/
theorem compare_literalCell_tie (h : WritesDecimal cs q) {v : Nat} (ht : ¬ ToldApart v cs q) :
    (Cell.integer v).compare (literalCell (.ofList cs)) = .eq := by
  obtain ⟨whole, same⟩ := not_or.1 ht
  have same : Binary64.ofNat v = .nearest q := not_not.1 same
  rw [literalCell_rounded h fun n hn hw ↦ whole ⟨n, hn, hw⟩]
  show (Binary64.ofNat v).compare (.nearest q) = .eq
  rw [same]
  exact compare_eq_iff_eq.2 rfl

end Literals

/-! ## Groups -/

section Keeps

variable {column : String} {op : Comparison} {cs : List Char} {q : ℚ} {v : Nat}

theorem keeps_integer (v : Nat) (literal : String) :
    (GroupFilter.ofLiteral column op literal).keeps (.integer v) =
      op.holds ((Cell.integer v).compare (literalCell literal)) := by
  simp only [GroupFilter.keeps, GroupFilter.ofLiteral, Cell.isNull, Bool.not_false, Bool.true_and]

theorem keeps_number (h : WritesDecimal cs q) (ht : ToldApart v cs q) :
    (GroupFilter.ofLiteral column op (.ofList cs)).keeps (.integer v) = true ↔ op.Relates v q := by
  rw [keeps_integer, compare_literalCell h ht, op.holds_compare]

theorem keeps_number_tie (h : WritesDecimal cs q) (ht : ¬ ToldApart v cs q) :
    (GroupFilter.ofLiteral column op (.ofList cs)).keeps (.integer v) = op.holds .eq := by
  rw [keeps_integer, compare_literalCell_tie h ht]

/-- `NULL` is a text like any other. -/
theorem keeps_null (a : Cell) :
    (GroupFilter.ofLiteral column op "NULL").keeps a = true ↔
      a ≠ .null ∧ op.holds (a.compare (.text "NULL")) = true := by
  have text : literalCell "NULL" = .text "NULL" := by decide
  rw [GroupFilter.keeps, GroupFilter.ofLiteral, text, Bool.and_eq_true, Bool.not_eq_true',
    ← Bool.not_eq_true, Cell.isNull_iff]

end Keeps

/-- Which groups a condition with a number keeps: those whose number relates to it, as far as the
two are told apart; else it counts as equal.  A condition with `NULL` keeps the groups whose cell is
not empty and compares as it should with the text. -/
theorem ofGroups_numbers {t : Table} {select : List SelectItem} {groupBy : List String}
    {extras : List Operand} {column literal : String} {op : Comparison} {records : List Record}
    {rows : Rows}
    (h : Rows.ofGroups t select groupBy extras (some (.ofLiteral column op literal)) records =
      .ok rows) :
    ∃ (l : Layout) (keeps : List Record → Bool),
      Layout.build t (Aggregate.ofCall t) select extras = .ok l ∧ column ∈ l.slots.map Slot.column ∧
      rows = Rows.ofLayout l (((partition groupBy records).filter keeps).map fun g ↦
        (l.slots.map Slot.column).map (cellNamed l.slots g)) ∧
      (∀ g v, cellNamed l.slots g column = .integer v → ∀ q, WritesDecimal literal.toList q →
        (ToldApart v literal.toList q → (keeps g = true ↔ op.Relates v q)) ∧
        (¬ ToldApart v literal.toList q → keeps g = op.holds .eq)) ∧
      (literal = "NULL" → ∀ g, keeps g = true ↔ cellNamed l.slots g column ≠ .null ∧
        op.holds ((cellNamed l.slots g column).compare (.text "NULL")) = true) := by
  obtain ⟨l, hl, -, hcolumn, hrows⟩ := ofGroups_eq_map h
  refine ⟨l, fun g ↦ (GroupFilter.ofLiteral column op literal).keeps (cellNamed l.slots g column),
    hl, hcolumn _ rfl, hrows, fun g v hv q hq ↦ ?_, ?_⟩
  · have whole : literal = .ofList literal.toList := (String.ofList_toList).symm
    dsimp only
    rw [hv]
    generalize literal.toList = cs at *
    subst whole
    exact ⟨keeps_number hq, keeps_number_tie hq⟩
  · rintro rfl g
    exact keeps_null _

/-- A transaction that needs the least gas that is no double. -/
def oddGas : Record := .transaction { (default : Transaction) with gas := ⟨2 ^ 53 + 1, by decide⟩ }

/-- The gas of transactions, kept by a condition. -/
def gasRows (op : Comparison) (literal : String) : Except Error Rows :=
  Rows.ofGroups .transactions [⟨.column "gas", none⟩] ["gas"] []
    (some (.ofLiteral "gas" op literal)) [oddGas]

theorem writesDecimal_point :
    WritesDecimal "9007199254740992.0".toList ((90071992547409920 : Nat) * 10 ^ (0 - 1 : Int)) := by
  have digits : Nat.toDigits 10 90071992547409920 = "9007199254740992".toList ++ ['0'] := by
    decide
  have text : "9007199254740992.0".toList = ("9007199254740992".toList ++ '.' :: ['0']) ++ [] := by
    decide
  have written := Number.writes_toDigits (by decide : 1 < 10) (by decide) 90071992547409920
  rw [digits] at written
  rw [text]
  exact .mk (.point written) .none

theorem not_toldApart_point :
    ¬ ToldApart (2 ^ 53 + 1) "9007199254740992.0".toList
      ((90071992547409920 : Nat) * 10 ^ (0 - 1 : Int)) := by
  rw [ToldApart, ← Binary64.ofDecimal_eq_nearest]
  rintro (⟨n, -, digits⟩ | apart)
  · have point := digits.digit?_isSome '.' (by decide)
    exact absurd point (by decide)
  · exact apart (by decide)

/-- A group is dropped though its number is greater, and one is kept though it is compared with
nothing. -/
theorem ofGroups_numbers_oddGas :
    (∃ rows, gasRows .gt "9007199254740992.0" = .ok rows ∧ rows.rows = []) ∧
      ∃ rows, gasRows .ne "NULL" = .ok rows ∧ rows.rows = [[.integer (2 ^ 53 + 1)]] := by
  have layout :
      Layout.build .transactions (Aggregate.ofCall .transactions) [⟨.column "gas", none⟩] [] =
      .ok ⟨[⟨"gas", "gas", .field⟩], 1⟩ := by decide
  have groups : partition ["gas"] [oddGas] = [[oddGas]] := by decide
  have cell : cellNamed [⟨"gas", "gas", .field⟩] [oddGas] "gas" = .integer (2 ^ 53 + 1) := by
    decide
  constructor
  · have shown : (gasRows .gt "9007199254740992.0").toOption.isSome := by decide
    obtain ⟨rows, hr⟩ := Option.isSome_iff_exists.1 shown
    have ok := eq_ok_of_toOption hr
    obtain ⟨l, keeps, hl, -, hrows, number, -⟩ := ofGroups_numbers ok
    obtain rfl := Except.ok.inj (hl.symm.trans layout)
    have dropped := (number _ _ cell _ writesDecimal_point).2 not_toldApart_point
    refine ⟨rows, ok, ?_⟩
    rw [hrows, groups, List.filter_cons_of_neg (by rw [dropped]; decide)]
    rfl
  · have shown : (gasRows .ne "NULL").toOption.isSome := by decide
    obtain ⟨rows, hr⟩ := Option.isSome_iff_exists.1 shown
    have ok := eq_ok_of_toOption hr
    obtain ⟨l, keeps, hl, -, hrows, -, null⟩ := ofGroups_numbers ok
    obtain rfl := Except.ok.inj (hl.symm.trans layout)
    have kept : keeps [oddGas] = true := by
      rw [null rfl, cell]
      decide
    refine ⟨rows, ok, ?_⟩
    rw [hrows, groups, List.filter_cons_of_pos kept, List.filter_nil, List.map_singleton]
    show [[cellNamed _ [oddGas] "gas"]] = _
    rw [cell]

end LedgerQuery.Query
