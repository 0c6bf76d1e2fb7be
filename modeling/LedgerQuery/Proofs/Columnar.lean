import LedgerQuery.Proofs.Digits
import LedgerQuery.Proofs.ExactSums
import LedgerQuery.Proofs.Kinds

/-!
# What the columns of a result show

A result turned into columns has one for each label and in it an entry for each row, empty where the
cell of the row is (`ResultSet.columnar_shows`).  A column of numbers and no texts is one of doubles
if it has a double or a number of more than 64 bits in it, so that one such number has all the
others rounded.  From the other columns all numbers can be read off again, and from these the ones
that are short enough for a double (`Column.Entry.tells_iff`).
-/

namespace LedgerQuery

namespace Number.Binary64

/-- A number of 128 bits that is a double has no more digits than one. -/
theorem Exactly.short {x : Binary64} {n : Nat} (h : Exactly x n) (hn : n < 2 ^ 128) : Short n := by
  have top : x.significand < 2 ^ 53 := by
    have fraction : x.fraction < 2 ^ 52 := Nat.mod_lt _ (Nat.two_pow_pos 52)
    rw [significand]
    split <;> omega
  have value := h.value
  generalize (x.exponent + 1074).toNat = e at value
  rcases Nat.le_total e 1074 with he | he
  · -- All places of the significand and perhaps some more, so that there is nothing to divide by.
    obtain ⟨d, hd⟩ := Nat.exists_eq_add_of_le he
    rw [hd, Nat.pow_add, Nat.mul_left_comm, Nat.mul_comm] at value
    have whole : x.significand = n * 2 ^ d := by
      refine Nat.eq_of_mul_eq_mul_left (Nat.two_pow_pos e) ?_
      rw [value, Nat.mul_comm]
    have bound : n ≤ n * 2 ^ d := Nat.le_mul_of_pos_right n (Nat.two_pow_pos d)
    exact ⟨0, Nat.zero_le _, Nat.one_dvd n, by omega⟩
  · obtain ⟨d, rfl⟩ := Nat.exists_eq_add_of_le he
    rw [Nat.add_comm, Nat.pow_add, ← Nat.mul_assoc] at value
    have whole : x.significand * 2 ^ d = n :=
      Nat.eq_of_mul_eq_mul_right (Nat.two_pow_pos 1074) value
    by_cases none : n = 0
    · exact ⟨0, Nat.zero_le _, Nat.one_dvd n, by omega⟩
    · have positive : 0 < x.significand :=
        Nat.pos_of_ne_zero fun zero ↦ none (by rw [← whole, zero, Nat.zero_mul])
      have power : 2 ^ d < 2 ^ 128 :=
        (Nat.le_mul_of_pos_left (2 ^ d) positive).trans_lt (whole ▸ hn)
      have places : d < 128 := (Nat.pow_lt_pow_iff_right (by decide)).1 power
      refine ⟨d, by omega, ⟨x.significand, by rw [← whole, Nat.mul_comm]⟩, ?_⟩
      rw [← whole, Nat.pow_add]
      exact Nat.mul_le_mul_right _ top.le

/-- A number of 128 bits is a double if and only if it has no more digits than one. -/
theorem exactly_ofNat_iff {n : Nat} (hn : n < 2 ^ 128) : Exactly (ofNat n) n ↔ Short n :=
  ⟨fun h ↦ h.short hn, exactly_ofNat⟩

end Number.Binary64

open Number (Binary64)

namespace Cell

/-- The numbers that a cell tells: a double the one that it is exactly, a text the one whose digits
it is. -/
inductive Tells : Cell → Nat → Prop
  | integer (n : Nat) : Tells (.integer n) n
  | float {x : Binary64} {n : Nat} (exact : Binary64.Exactly x n) : Tells (.float x) n
  | text {s : String} {n : Nat} (digits : Number.Writes 10 s.toList n) : Tells (.text s) n

/-- A cell tells one number at most. -/
theorem Tells.unique {a : Cell} {m n : Nat} (hm : a.Tells m) (hn : a.Tells n) : m = n := by
  cases hm with
  | integer _ => cases hn; rfl
  | text digits => cases hn with
    | text digits' => exact digits.unique digits'
  | float exact => cases hn with
    | float exact' =>
      exact Nat.eq_of_mul_eq_mul_right (Nat.two_pow_pos 1074) (exact.value.symm.trans exact'.value)

theorem tells_display (n : Nat) : (Cell.text (Cell.integer n).display).Tells n := by
  refine .text ?_
  rw [display, Number.decimalDigits, String.toList_ofList]
  exact Number.writes_toDigits (by decide) (by decide) n

end Cell

namespace Query

namespace Column

/-! ## Entries -/

/-- The kind of what a column holds. -/
def kind : Column → Cell.Kind
  | .integers _ => .integer
  | .floats _ => .float
  | .texts _ => .text

/-- The entries of a column as cells. -/
def entries : Column → List Cell
  | .integers ns => ns.map Cell.ofNat?
  | .floats xs => xs.map fun x ↦ x.elim .null Cell.float
  | .texts ss => ss.map Cell.ofText?

/-- How a cell is entered in a column of some kind. -/
inductive Entry : Cell.Kind → Cell → Cell → Prop
  | null (k : Cell.Kind) : Entry k .null .null
  | whole {n : Nat} (small : n < 2 ^ 64) : Entry .integer (.integer n) (.integer n)
  | rounded (n : Nat) : Entry .float (.integer n) (.float (.ofNat n))
  | float (x : Binary64) : Entry .float (.float x) (.float x)
  | written {a : Cell} (filled : a ≠ .null) : Entry .text a (.text a.display)

namespace Entry

variable {k : Cell.Kind} {a b : Cell}

theorem eq_null_iff (h : Entry k a b) : b = .null ↔ a = .null := by
  cases h with
  | null _ => simp
  | whole _ => simp
  | rounded _ => simp
  | float _ => simp
  | written filled => simp [filled]

/-- A number can be read off its entry, unless the entry is a double and the number too long for
one. -/
theorem tells_iff {n : Nat} (h : Entry k (.integer n) b) (hn : n < 2 ^ 128) :
    b.Tells n ↔ (k = .float → Binary64.Short n) := by
  cases h with
  | whole _ => exact ⟨fun _ ↦ nofun, fun _ ↦ .integer n⟩
  | written _ => exact ⟨fun _ ↦ nofun, fun _ ↦ Cell.tells_display n⟩
  | rounded _ =>
    rw [← Binary64.exactly_ofNat_iff hn]
    refine ⟨fun told _ ↦ ?_, fun exact ↦ .float (exact rfl)⟩
    cases told with
    | float exact => exact exact

end Entry

/-! ## Kinds -/

/-- Whether cells are empty or numbers of 64 bits. -/
def Whole (cells : List Cell) : Prop := ∀ a ∈ cells, a = .null ∨ ∃ n < 2 ^ 64, a = .integer n

variable {cells : List Cell}

theorem all_fitsInteger : cells.all fitsInteger = true ↔ Whole cells := by
  rw [List.all_eq_true]
  refine forall₂_congr fun a _ ↦ ?_
  cases a <;> simp [fitsInteger]

theorem all_numbers :
    (cells.all fun a ↦ a.isNull || a.toFloat?.isSome) = true ↔ ∀ s, .text s ∉ cells := by
  have number (a : Cell) : (a.isNull || a.toFloat?.isSome) = true ↔ ∀ s, a ≠ .text s := by
    cases a <;> simp [Cell.isNull, Cell.toFloat?]
  rw [List.all_eq_true]
  simp only [number]
  exact ⟨fun h s hs ↦ h _ hs s rfl, fun h a ha s hs ↦ h s (hs ▸ ha)⟩

theorem Whole.text_not_mem (h : Whole cells) (s : String) : .text s ∉ cells := by
  intro hs
  obtain none | ⟨n, -, whole⟩ := h _ hs
  · cases none
  · cases whole

/-- Without texts, it takes a double or a number that is too large. -/
theorem not_whole_iff (ht : ∀ s, .text s ∉ cells) :
    ¬Whole cells ↔ (∃ x, .float x ∈ cells) ∨ ∃ n, 2 ^ 64 ≤ n ∧ .integer n ∈ cells := by
  constructor
  · intro h
    simp only [Whole, not_forall] at h
    obtain ⟨a, ha, h⟩ := h
    cases a with
    | null => exact absurd (.inl rfl) h
    | integer n => exact .inr ⟨n, Nat.le_of_not_lt fun small ↦ h (.inr ⟨n, small, rfl⟩), ha⟩
    | float x => exact .inl ⟨x, ha⟩
    | text s => exact absurd ha (ht s)
  · rintro (⟨x, hx⟩ | ⟨n, large, hn⟩) h
    · obtain none | ⟨m, -, whole⟩ := h _ hx
      · cases none
      · cases whole
    · obtain none | ⟨m, small, whole⟩ := h _ hn
      · cases none
      · cases whole
        omega

/-- What a column of some cells is: its entries are those of the cells, and its kind is decided by
all of them. -/
structure Shows (c : Column) (cells : List Cell) : Prop where
  entries : List.Forall₂ (Entry c.kind) cells c.entries
  integers : c.kind = .integer ↔ Whole cells
  floats : c.kind = .float ↔
    (∀ s, .text s ∉ cells) ∧ ((∃ x, .float x ∈ cells) ∨ ∃ n, 2 ^ 64 ≤ n ∧ .integer n ∈ cells)
  texts : c.kind = .text ↔ ∃ s, .text s ∈ cells

theorem forall₂_map {f : Cell → Cell} {R : Cell → Cell → Prop} (h : ∀ a ∈ cells, R a (f a)) :
    List.Forall₂ R cells (cells.map f) := by
  rw [List.forall₂_map_right_iff, List.forall₂_same]
  exact h

theorem shows_ofCells (cells : List Cell) : (ofCells cells).Shows cells := by
  rw [ofCells]
  split
  · next whole =>
    rw [all_fitsInteger] at whole
    refine ⟨?_, iff_of_true rfl whole, iff_of_false nofun ?_, iff_of_false nofun ?_⟩
    · rw [entries, List.map_map]
      refine forall₂_map fun a ha ↦ ?_
      obtain rfl | ⟨n, small, rfl⟩ := whole a ha
      · exact .null _
      · exact .whole small
    · rintro ⟨ht, large⟩
      exact (not_whole_iff ht).2 large whole
    · rintro ⟨s, hs⟩
      exact whole.text_not_mem s hs
  · next whole =>
    rw [all_fitsInteger] at whole
    split
    · next numbers =>
      rw [all_numbers] at numbers
      refine ⟨?_, iff_of_false nofun whole,
        iff_of_true rfl ⟨numbers, (not_whole_iff numbers).1 whole⟩,
        iff_of_false nofun fun ⟨s, hs⟩ ↦ numbers s hs⟩
      rw [entries, List.map_map]
      refine forall₂_map fun a ha ↦ ?_
      cases a with
      | null => exact .null _
      | integer n => exact .rounded n
      | float x => exact .float x
      | text s => exact absurd ha (numbers s)
    · next numbers =>
      rw [all_numbers] at numbers
      refine ⟨?_, iff_of_false nofun whole, iff_of_false nofun fun h ↦ numbers h.1,
        iff_of_true rfl ?_⟩
      · rw [entries, List.map_map]
        refine forall₂_map fun a _ ↦ ?_
        cases a with
        | null => exact .null _
        | integer n => exact .written nofun
        | float x => exact .written nofun
        | text s => exact .written nofun
      · simpa only [not_forall, not_not] using numbers

namespace Shows

variable {c : Column} (h : c.Shows cells)
include h

theorem length_eq : c.entries.length = cells.length := h.entries.length_eq.symm

theorem getElem?_entry {i : Nat} {a : Cell} (ha : cells[i]? = some a) :
    ∃ b, c.entries[i]? = some b ∧ Entry c.kind a b := by
  obtain ⟨hi, rfl⟩ := List.getElem?_eq_some_iff.1 ha
  have hi' : i < c.entries.length := h.length_eq ▸ hi
  exact ⟨_, List.getElem?_eq_getElem hi', h.entries.get hi hi'⟩

/-- Empty cells, and no others, have empty entries. -/
theorem null_iff (i : Nat) : c.entries[i]? = some .null ↔ cells[i]? = some .null := by
  cases ha : cells[i]? with
  | none =>
    have past : c.entries[i]? = none := by
      rw [List.getElem?_eq_none_iff, h.length_eq]
      exact List.getElem?_eq_none_iff.1 ha
    rw [past]
  | some a =>
    obtain ⟨b, hb, entry⟩ := h.getElem?_entry ha
    rw [hb, Option.some.injEq, Option.some.injEq]
    exact entry.eq_null_iff

end Shows

end Column

/-! ## Results -/

/-- A result with labels, whose rows have a cell for each of them, has a column for each of them.
The entry of an empty cell is empty, and that of a number tells the number, unless the column is one
of doubles and the number too long for one. -/
theorem ResultSet.columnar_shows {s : ResultSet} (labeled : s.labels ≠ [])
    (rectangular : ∀ row ∈ s.rows, row.length = s.labels.length) :
    ∃ columns, s.columnar? = some columns ∧ columns.map Prod.fst = s.labels ∧
      ∀ (i : Nat) (label : String) (c : Column), columns[i]? = some (label, c) →
        ∃ cells : List Cell, s.rows.map (·[i]?) = cells.map some ∧ c.Shows cells ∧
          c.entries.length = s.rows.length ∧
          (∀ r : Nat, c.entries[r]? = some .null ↔ cells[r]? = some .null) ∧
          ∀ (r n : Nat), cells[r]? = some (.integer n) → n < 2 ^ 128 →
            ∃ entry, c.entries[r]? = some entry ∧
              (entry.Tells n ↔ (c.kind = .float → Binary64.Short n)) := by
  have some_labels : s.labels.isEmpty = false := by rwa [List.isEmpty_eq_false_iff]
  refine ⟨_, by rw [columnar?, some_labels, if_neg Bool.false_ne_true], ?_, ?_⟩
  · rw [List.map_map]
    exact List.zipIdx_map_fst 0 s.labels
  intro i label c hc
  rw [List.getElem?_map, Option.map_eq_some_iff] at hc
  obtain ⟨⟨l, j⟩, hl, hc⟩ := hc
  obtain ⟨found, rfl⟩ : s.labels[i]? = some l ∧ i = j := by
    simpa [List.getElem?_zipIdx] using hl
  cases hc
  have bound : i < s.labels.length := (List.getElem?_eq_some_iff.1 found).1
  have shown := Column.shows_ofCells (s.rows.map fun row ↦ row[i]?.getD .null)
  refine ⟨_, ?_, shown, by rw [shown.length_eq, List.length_map], shown.null_iff,
    fun r n hn small ↦ ?_⟩
  · rw [List.map_map]
    refine List.map_congr_left fun row hrow ↦ ?_
    have there : i < row.length := rectangular row hrow ▸ bound
    simp [List.getElem?_eq_getElem there]
  · obtain ⟨entry, found, entered⟩ := shown.getElem?_entry hn
    exact ⟨entry, found, entered.tells_iff small⟩

/-- Two transactions with what they cost and transfer; the first one's amount is given. -/
def transfers (amount : Nat) : ResultSet where
  table := .transactions
  columns := ["gas", "value"]
  labels := ["gas", "wei"]
  index := [("gas", 0), ("value", 1)]
  aliases := [("wei", "value")]
  rows := [[.integer 21000, .integer amount], [.null, .integer 1]]
  projected := 2

/-- Numbers of more than 64 bits are entered as doubles, with no double among the cells: two results
that differ have the same columns. -/
theorem columnar_not_injective :
    (∀ row ∈ (transfers (2 ^ 64 + 1)).rows ++ (transfers (2 ^ 64)).rows,
        ∀ a ∈ row, a.isFloat = false) ∧
      transfers (2 ^ 64 + 1) ≠ transfers (2 ^ 64) ∧
      (transfers (2 ^ 64 + 1)).columnar? = (transfers (2 ^ 64)).columnar? := by
  refine ⟨by decide, by decide, by decide +kernel⟩

theorem columnar_shows_transfers :
    ∃ gas wei : Column, (transfers (2 ^ 64 + 1)).columnar? = some [("gas", gas), ("wei", wei)] ∧
      gas.Shows [.integer 21000, .null] ∧ wei.Shows [.integer (2 ^ 64 + 1), .integer 1] ∧
      (∃ entry, gas.entries[0]? = some entry ∧ entry.Tells 21000) ∧
      (∃ entry, wei.entries[0]? = some entry ∧ ¬entry.Tells (2 ^ 64 + 1)) ∧
      ∃ entry, wei.entries[1]? = some entry ∧ entry.Tells 1 := by
  have long : ¬Binary64.Short (2 ^ 64 + 1) := by
    rintro ⟨k, -, divides, bound⟩
    -- The number is odd.
    cases k with
    | zero => exact absurd bound (by decide)
    | succ k => exact absurd ((Dvd.intro_left (2 ^ k) rfl).trans divides) (by decide)
  have short : Binary64.Short 1 := ⟨0, by decide, by decide, by decide⟩
  obtain ⟨columns, found, -, each⟩ :=
    ResultSet.columnar_shows (s := transfers (2 ^ 64 + 1)) (by decide) (by decide)
  have shape : (transfers (2 ^ 64 + 1)).columnar? =
      some [("gas", .ofCells [.integer 21000, .null]),
        ("wei", .ofCells [.integer (2 ^ 64 + 1), .integer 1])] := rfl
  cases shape.symm.trans found
  have cells : Function.Injective (List.map (some : Cell → Option Cell)) :=
    List.map_injective_iff.2 (Option.some_injective _)
  obtain ⟨gas, hgas, gasShown, -, -, gasNumbers⟩ := each 0 _ _ rfl
  obtain ⟨wei, hwei, weiShown, -, -, weiNumbers⟩ := each 1 _ _ rfl
  obtain rfl : [.integer 21000, .null] = gas := cells hgas
  obtain rfl : [.integer (2 ^ 64 + 1), .integer 1] = wei := cells hwei
  have doubles : (Column.ofCells [.integer (2 ^ 64 + 1), .integer 1]).kind = .float := by decide
  obtain ⟨cost, hcost, costTold⟩ := gasNumbers 0 21000 rfl (by decide)
  obtain ⟨first, hfirst, firstTold⟩ := weiNumbers 0 (2 ^ 64 + 1) rfl (by decide)
  obtain ⟨second, hsecond, secondTold⟩ := weiNumbers 1 1 rfl (by decide)
  exact ⟨_, _, shape, gasShown, weiShown,
    ⟨cost, hcost, costTold.2 fun doubles ↦ absurd doubles (by decide)⟩,
    ⟨first, hfirst, fun told ↦ long (firstTold.1 told doubles)⟩,
    ⟨second, hsecond, secondTold.2 fun _ ↦ short⟩⟩

end Query

end LedgerQuery
