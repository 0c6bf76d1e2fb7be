import LedgerQuery.Json.Reader
import LedgerQuery.Json.Writer
import LedgerQuery.Proofs.Digits

/-!
# Written values read again

A value without numbers (`Plain`) is read back from its text, whatever follows it
(`Reader.value_append`), so a document made of its text alone is this value (`parse_write`).  A
character of a string takes one step of the reader, however it is escaped
(`Reader.string_char_append`).
-/

namespace LedgerQuery.Json

/-- A value without numbers, in which nothing breaks off. -/
inductive Plain : Json → Prop
  | null : Plain .null
  | bool (b : Bool) : Plain (.bool b)
  | text (s : String) : Plain (.text s)
  | list {js : List Json} (items : ∀ j ∈ js, Plain j) : Plain (.list js)
  | object {ms : List (String × Json)} (members : ∀ m ∈ ms, Plain m.2) : Plain (.object ms)

namespace Reader

/-! ## Strings -/

theorem hexUnit_control {c : Char} (h : c.toNat < 32) (cs : List Char) :
    hexUnit ('0' :: '0' :: Nat.digitChar (c.toNat / 16) :: Nat.digitChar (c.toNat % 16) :: cs) =
      some (c.toNat, cs) := by
  have zero : Number.digitValue? '0' = some 0 := by decide
  have high := Number.digitValue?_digitChar (c.toNat / 16) (by omega)
  have low := Number.digitValue?_digitChar (c.toNat % 16) (by omega)
  have whole : c.toNat / 16 * 16 + c.toNat % 16 = c.toNat := by omega
  simp [hexUnit, zero, high, low, whole]

theorem escape_unit {c : Char} (h : c.toNat < 32) (cs : List Char) :
    escape (Writer.unit c ++ cs).tail = some (some c, cs) := by
  have high : isHigh c.toNat = false := by simp [isHigh]; omega
  have low : isLow c.toNat = false := by simp [isLow]; omega
  simp [Writer.unit, escape, unit, hexUnit_control h, high, low, Char.ofNat_toNat]

/-- A written character is read in one step. -/
theorem string_char_append (fuel : Nat) (r : List Char) (c : Char) (cs : List Char) :
    string (fuel + 1) (some r) (Writer.char c ++ cs) = string fuel (some (c :: r)) cs := by
  unfold Writer.char
  split_ifs with h₁ h₂ h₃ h₄ h₅ h₆ h₇ h₈
  · cases eq_of_beq h₁; rfl
  · cases eq_of_beq h₂; rfl
  · cases eq_of_beq h₃; rfl
  · cases eq_of_beq h₄; rfl
  · cases eq_of_beq h₅; rfl
  · cases eq_of_beq h₆; rfl
  · cases eq_of_beq h₇; rfl
  · have escaped := escape_unit (c := c) h₈ cs
    show string (fuel + 1) (some r) ('\\' :: (Writer.unit c ++ cs).tail) = _
    rw [string, escaped]
    rfl
  · rw [List.singleton_append, string, if_neg h₈]
    · rfl
    · exact fun h ↦ h₁ (beq_iff_eq.2 h)
    · exact fun h ↦ h₂ (beq_iff_eq.2 h)

theorem string_flatMap_append (cs rest : List Char) {fuel : Nat} (r : List Char)
    (h : cs.length < fuel) :
    string fuel (some r) (cs.flatMap Writer.char ++ '"' :: rest) =
      some (some (.ofList (r.reverse ++ cs)), rest) := by
  induction cs generalizing fuel r with
  | nil =>
    obtain ⟨fuel, rfl⟩ := Nat.exists_eq_add_of_lt h
    simp [string]
  | cons c cs ih =>
    obtain ⟨fuel, rfl⟩ := Nat.exists_eq_add_of_lt (Nat.zero_lt_of_lt h)
    rw [Nat.zero_add] at h ⊢
    rw [List.flatMap_cons, List.append_assoc, string_char_append, ih (c :: r) (by simpa using h)]
    simp

theorem length_le_flatMap (cs : List Char) : cs.length ≤ (cs.flatMap Writer.char).length := by
  have positive (c : Char) : 1 ≤ (Writer.char c).length := by
    unfold Writer.char Writer.unit
    split_ifs <;> simp
  induction cs with
  | nil => exact Nat.le_refl _
  | cons c cs ih =>
    have := positive c
    rw [List.flatMap_cons, List.length_append, List.length_cons]
    omega

/-- What follows the opening quote of a written string is read as the string. -/
theorem string_append (s : String) (rest : List Char) :
    ∃ cs, Writer.string s ++ rest = '"' :: cs ∧
      string (cs.length + 1) (some []) cs = some (some s, rest) := by
  refine ⟨s.toList.flatMap Writer.char ++ '"' :: rest, by simp [Writer.string], ?_⟩
  have enough : s.toList.length < (s.toList.flatMap Writer.char ++ '"' :: rest).length + 1 := by
    have := length_le_flatMap s.toList
    rw [List.length_append]
    omega
  rw [string_flatMap_append _ _ _ enough, List.reverse_nil, List.nil_append, String.ofList_toList]

/-! ## Values -/

theorem skip_cons {c : Char} (h : isBlank c = false) (cs : List Char) :
    skip (c :: cs) = c :: cs := by
  rw [skip, List.dropWhile_cons_of_neg (by simp [h])]

/-- A written value starts with a character that is neither a blank nor a closing bracket. -/
theorem head_value {j : Json} (h : Plain j) :
    ∃ c cs, Writer.value j = c :: cs ∧ isBlank c = false ∧ c ≠ ']' := by
  cases h with
  | null => exact ⟨'n', _, rfl, by decide, by decide⟩
  | bool b =>
    cases b
    · exact ⟨'f', _, rfl, by decide, by decide⟩
    · exact ⟨'t', _, rfl, by decide, by decide⟩
  | text s => exact ⟨'"', _, rfl, by decide, by decide⟩
  | list items => exact ⟨'[', _, rfl, by decide, by decide⟩
  | object members => exact ⟨'\x7b', _, rfl, by decide, by decide⟩

/-- A value is read from its text if there is fuel for every character of it. -/
def Reads (j : Json) : Prop :=
  ∀ (fuel : Nat) (rest : List Char), (Writer.value j).length ≤ fuel →
    value fuel (Writer.value j ++ rest) = (j, some rest)

theorem elements_append {j : Json} {js : List Json} (h : ∀ i ∈ j :: js, Reads i) {fuel : Nat}
    (rest : List Char) (hf : (Writer.elements (j :: js)).length < fuel) :
    elements fuel (Writer.elements (j :: js) ++ ']' :: rest) = (j :: js, some rest) := by
  obtain ⟨fuel, rfl⟩ := Nat.exists_eq_succ_of_ne_zero (Nat.ne_zero_of_lt hf)
  have first := h j List.mem_cons_self
  induction js generalizing j fuel with
  | nil =>
    rw [Writer.elements] at hf ⊢
    rw [elements, first fuel _ (Nat.le_of_lt_succ hf)]
    rfl
  | cons i js ih =>
    have others : ∀ k ∈ i :: js, Reads k := fun k hk ↦ h k (List.mem_cons_of_mem j hk)
    rw [Writer.elements, List.length_append, List.length_cons] at hf
    obtain ⟨fuel, rfl⟩ : ∃ n, fuel = n + 1 := Nat.exists_eq_add_one.2 (by omega)
    have tail := ih others fuel (by omega) (others i List.mem_cons_self)
    rw [Writer.elements, List.append_assoc, List.cons_append, elements, first _ _ (by omega)]
    simp only [skip_cons (show isBlank ',' = false by decide), tail]

theorem members_comma {k : String} {j : Json} (h : Reads j) {fuel : Nat} (rest : List Char)
    (hf : (Writer.value j).length ≤ fuel) :
    members (fuel + 1) (Writer.string k ++ ':' :: (Writer.value j ++ ',' :: rest)) =
      ((some k, j) :: (members fuel rest).1, (members fuel rest).2) := by
  obtain ⟨cs, written, read⟩ := string_append k (':' :: (Writer.value j ++ ',' :: rest))
  rw [written, members, skip_cons (show isBlank '"' = false by decide)]
  simp only [read, skip_cons (show isBlank ':' = false by decide), h fuel _ hf,
    skip_cons (show isBlank ',' = false by decide)]

theorem members_brace {k : String} {j : Json} (h : Reads j) {fuel : Nat} (rest : List Char)
    (hf : (Writer.value j).length ≤ fuel) :
    members (fuel + 1) (Writer.string k ++ ':' :: (Writer.value j ++ '\x7d' :: rest)) =
      ([(some k, j)], some rest) := by
  obtain ⟨cs, written, read⟩ := string_append k (':' :: (Writer.value j ++ '\x7d' :: rest))
  rw [written, members, skip_cons (show isBlank '"' = false by decide)]
  simp only [read, skip_cons (show isBlank ':' = false by decide), h fuel _ hf,
    skip_cons (show isBlank '\x7d' = false by decide)]

theorem members_append {m : String × Json} {ms : List (String × Json)}
    (h : ∀ i ∈ m :: ms, Reads i.2) {fuel : Nat} (rest : List Char)
    (hf : (Writer.members ((m :: ms).map fun i ↦ (some i.1, i.2))).length < fuel) :
    members fuel (Writer.members ((m :: ms).map fun i ↦ (some i.1, i.2)) ++ '\x7d' :: rest) =
      ((m :: ms).map fun i ↦ (some i.1, i.2), some rest) := by
  obtain ⟨fuel, rfl⟩ := Nat.exists_eq_succ_of_ne_zero (Nat.ne_zero_of_lt hf)
  have first := h m List.mem_cons_self
  induction ms generalizing m fuel with
  | nil =>
    rw [List.map_cons, List.map_nil, Writer.members] at hf ⊢
    rw [List.length_append, List.length_cons] at hf
    rw [List.append_assoc, List.cons_append, Option.getD_some, members_brace first _ (by omega)]
  | cons i ms ih =>
    have others : ∀ k ∈ i :: ms, Reads k.2 := fun k hk ↦ h k (List.mem_cons_of_mem m hk)
    rw [List.map_cons, List.map_cons, Writer.members, List.length_append, List.length_append,
      List.length_cons, List.length_cons] at hf
    obtain ⟨fuel, rfl⟩ : ∃ n, fuel = n + 1 := Nat.exists_eq_add_one.2 (by omega)
    have tail := ih others fuel (by rw [List.map_cons]; omega) (others i List.mem_cons_self)
    rw [List.map_cons] at tail
    rw [List.map_cons, List.map_cons, Writer.members, Option.getD_some, List.append_assoc,
      List.append_assoc, List.cons_append, List.cons_append, members_comma first _ (by omega), tail]

theorem reads_text (s : String) : Reads (.text s) := by
  intro fuel rest hf
  obtain ⟨cs, written, read⟩ := string_append s rest
  obtain ⟨fuel, rfl⟩ := Nat.exists_eq_add_one.2 (Nat.lt_of_lt_of_le (Nat.succ_pos _) hf)
  calc value (fuel + 1) (Writer.string s ++ rest)
      = value (fuel + 1) ('"' :: cs) := by rw [written]
    _ = orBroken ((string (cs.length + 1) (some []) cs).map fun p ↦ (.str p.1, p.2)) := rfl
    _ = (.text s, some rest) := by rw [read]; rfl

theorem reads_list {js : List Json} (plain : ∀ j ∈ js, Plain j) (h : ∀ j ∈ js, Reads j) :
    Reads (.list js) := by
  intro fuel rest hf
  obtain ⟨fuel, rfl⟩ := Nat.exists_eq_add_one.2 (Nat.lt_of_lt_of_le (Nat.succ_pos _) hf)
  cases js with
  | nil => rfl
  | cons j js =>
    obtain ⟨c, cs, start, blank, bracket⟩ : ∃ c cs, Writer.elements (j :: js) = c :: cs ∧
        isBlank c = false ∧ c ≠ ']' := by
      obtain ⟨c, cs, start, blank, bracket⟩ := head_value (plain j List.mem_cons_self)
      cases js with
      | nil => exact ⟨c, cs, start, blank, bracket⟩
      | cons i js => exact ⟨c, _, congrArg (· ++ _) start, blank, bracket⟩
    rw [list, Writer.value, List.length_cons, List.length_append, List.length_singleton] at hf
    have enough : (Writer.elements (j :: js)).length < fuel := by omega
    have read := elements_append h rest enough
    calc value (fuel + 1) (Writer.value (.list (j :: js)) ++ rest)
        = value (fuel + 1) ('[' :: (Writer.elements (j :: js) ++ ']' :: rest)) := by
          rw [list, Writer.value, List.cons_append, List.append_assoc, List.singleton_append]
      _ = (.list (j :: js), some rest) := by
        rw [start, List.cons_append] at read ⊢
        rw [value, skip_cons (show isBlank '[' = false by decide)]
        simp only [skip_cons blank]
        split
        · next h => exact absurd (List.cons.inj h).1 bracket
        · rw [read]
          rfl

theorem reads_object {ms : List (String × Json)} (h : ∀ m ∈ ms, Reads m.2) :
    Reads (.object ms) := by
  intro fuel rest hf
  obtain ⟨fuel, rfl⟩ := Nat.exists_eq_add_one.2 (Nat.lt_of_lt_of_le (Nat.succ_pos _) hf)
  cases ms with
  | nil => rfl
  | cons m ms =>
    obtain ⟨cs, start⟩ : ∃ cs, Writer.members ((m :: ms).map fun i ↦ (some i.1, i.2)) =
        '"' :: cs := by
      cases ms <;> exact ⟨_, rfl⟩
    rw [object, Writer.value, List.length_cons, List.length_append, List.length_singleton] at hf
    have enough : (Writer.members ((m :: ms).map fun i ↦ (some i.1, i.2))).length < fuel := by omega
    have read := members_append h rest enough
    rw [start] at read
    calc value (fuel + 1) (Writer.value (.object (m :: ms)) ++ rest)
        = value (fuel + 1) ('\x7b' :: ('"' :: cs ++ '\x7d' :: rest)) := by
          rw [object, Writer.value, start, List.cons_append, List.append_assoc,
            List.singleton_append]
      _ = (.obj (members fuel ('"' :: cs ++ '\x7d' :: rest)).1
            (members fuel ('"' :: cs ++ '\x7d' :: rest)).2.isSome,
            (members fuel ('"' :: cs ++ '\x7d' :: rest)).2) := rfl
      _ = (.object (m :: ms), some rest) := by
        rw [read]
        rfl

theorem reads_of_plain {j : Json} (h : Plain j) : Reads j := by
  induction h with
  | null =>
    intro fuel rest hf
    obtain ⟨fuel, rfl⟩ := Nat.exists_eq_add_one.2 (Nat.lt_of_lt_of_le (Nat.succ_pos _) hf)
    rfl
  | bool b =>
    intro fuel rest hf
    cases b <;>
      obtain ⟨fuel, rfl⟩ := Nat.exists_eq_add_one.2 (Nat.lt_of_lt_of_le (Nat.succ_pos _) hf)
    · rfl
    · rfl
  | text s => exact reads_text s
  | list items ih => exact reads_list items ih
  | object _ ih => exact reads_object ih

end Reader

/-- A document made of the text of a value is this value. -/
theorem parse_write {j : Json} (h : Plain j) : parse (write j) = ⟨j, false⟩ := by
  have read := Reader.reads_of_plain h ((Writer.value j).length + 1) [] (Nat.le_succ _)
  rw [List.append_nil] at read
  rw [parse, write, String.toList_ofList]
  simp only [read]
  rfl

end LedgerQuery.Json
