import LedgerQuery.Proofs.Lowercase
import LedgerQuery.Table
import Mathlib.Data.List.Basic

/-!
# The case of ASCII letters

Two texts are the same up to the case of ASCII letters if they have one text in common with these
letters in lower case (`Text.fold`).  Such texts have the same lower case (`Text.lower_fold`), since
no ASCII letter changes what becomes of the letters around it, and a text in lower case has no other
ASCII letters left (`Text.fold_lower`).
-/

namespace LedgerQuery

namespace Unicode

/-- Letters that are not of ASCII are kept by folding. -/
theorem toLower_of_not_ascii {c : Char} (h : ¬ c.toNat < 128) : c.toLower = c := by
  refine dif_neg fun hc ↦ h ?_
  have hZ : c.toNat ≤ 'Z'.toNat := hc.2
  exact Nat.lt_of_le_of_lt hZ (by decide)

/-- Folding a character twice is folding it once. -/
theorem toLower_toLower (c : Char) : c.toLower.toLower = c.toLower := by
  by_cases h : c.toNat < 128
  · have hl := (toLower_ascii c.toNat h).2
    rwa [Char.ofNat_toNat] at hl
  · rw [toLower_of_not_ascii h, toLower_of_not_ascii h]

/-- A character comes into a class, or out of it, at each boundary that it has reached. -/
theorem within_eq_foldl (bounds : Array Nat) (n : Nat) :
    within bounds n =
      bounds.toList.foldl (fun inside b ↦ if b ≤ n then !inside else inside) false := by
  rw [within, Array.foldl_toList]

/-- What class a code point is in depends only on which boundaries it has reached. -/
theorem within_congr {bounds : Array Nat} {m n : Nat} (h : ∀ b ∈ bounds.toList, b ≤ m ↔ b ≤ n) :
    within bounds m = within bounds n := by
  rw [within_eq_foldl, within_eq_foldl]
  exact List.foldl_ext _ _ _ fun inside b hb ↦ if_congr (h b hb) rfl rfl

/-- No ASCII letter is passed over where the next letter with a case is looked for: there is no
boundary among the capitals and none among the others. -/
theorem within_caseIgnorable_letter {n : Nat} (h : 65 ≤ n ∧ n ≤ 90 ∨ 97 ≤ n ∧ n ≤ 122) :
    within caseIgnorable n = false := by
  have apart : ∀ b ∈ caseIgnorable.toList, (b ≤ 65 ∨ 90 < b) ∧ (b ≤ 97 ∨ 122 < b) := by
    decide +kernel
  rcases h with h | h
  · have first : within caseIgnorable 65 = false := by
      rw [within_eq_foldl]
      decide +kernel
    refine (within_congr fun b hb ↦ ?_).trans first
    have := (apart b hb).1
    omega
  · have first : within caseIgnorable 97 = false := by
      rw [within_eq_foldl]
      decide +kernel
    refine (within_congr fun b hb ↦ ?_).trans first
    have := (apart b hb).2
    omega

/-- A character is folded to itself, or is a capital letter of ASCII. -/
theorem toLower_cases (c : Char) : c.toLower = c ∨
    65 ≤ c.toNat ∧ c.toNat ≤ 90 ∧ c.toLower.toNat = c.toNat + 32 := by
  have ascii : ∀ n < 128, (Char.ofNat n).toLower = Char.ofNat n ∨
      65 ≤ n ∧ n ≤ 90 ∧ (Char.ofNat n).toLower.toNat = n + 32 := by decide
  by_cases h : c.toNat < 128
  · have hc := ascii c.toNat h
    rwa [Char.ofNat_toNat] at hc
  · exact .inl (toLower_of_not_ascii h)

/-- Both cases of an ASCII letter have a case, and neither is passed over. -/
theorem class_toLower (c : Char) :
    isCased c.toLower = isCased c ∧ isCaseIgnorable c.toLower = isCaseIgnorable c := by
  obtain h | ⟨lo, hi, h⟩ := toLower_cases c
  · rw [h]
    exact ⟨rfl, rfl⟩
  · constructor
    · have alpha : ∀ n < 128, (Char.ofNat n).toLower.isAlpha = (Char.ofNat n).isAlpha := by decide
      have hc := alpha c.toNat (by omega)
      rw [Char.ofNat_toNat] at hc
      rw [isCased, if_pos (by omega), isCased, if_pos (by omega), hc]
    · rw [isCaseIgnorable, isCaseIgnorable, h, within_caseIgnorable_letter (.inr (by omega)),
        within_caseIgnorable_letter (.inl (by omega))]

/-- A settled character is kept by folding. -/
theorem Settled.toLower_eq {c : Char} (h : Settled c) : c.toLower = c := by
  by_cases hc : c.toNat < 128
  · exact (lowerLetter_of_ascii hc).symm.trans h.lowerLetter_eq
  · exact toLower_of_not_ascii hc

end Unicode

namespace Text

open Unicode

/-- A text with its ASCII letters in lower case. -/
def fold (s : String) : String := .ofList (s.toList.map Char.toLower)

/-- A text is folded character by character. -/
theorem toList_fold (s : String) : (fold s).toList = s.toList.map Char.toLower :=
  String.toList_ofList

/-- Texts are the same up to the case of ASCII letters if they fold to one text. -/
theorem sameAscii_eq_fold (s t : String) : sameAscii s t = (fold s == fold t) := by
  rw [sameAscii, ← toList_fold, ← toList_fold, Bool.eq_iff_iff, beq_iff_eq, beq_iff_eq]
  exact String.toList_inj

theorem sameAscii_iff {s t : String} : sameAscii s t = true ↔ fold s = fold t := by
  rw [sameAscii_eq_fold, beq_iff_eq]

/-- Folding a text twice is folding it once. -/
theorem fold_fold (s : String) : fold (fold s) = fold s := by
  have chars : (fold s).toList.map Char.toLower = (fold s).toList := by
    rw [toList_fold, List.map_map]
    exact List.map_congr_left fun c _ ↦ toLower_toLower c
  rw [fold, chars, String.ofList_toList]

/-- Whether a cased letter follows does not depend on the case of ASCII letters. -/
theorem nextCased_map_toLower (cs : List Char) :
    nextCased (cs.map Char.toLower) = nextCased cs := by
  have ignorable : isCaseIgnorable ∘ Char.toLower = isCaseIgnorable := by
    funext c
    rw [Function.comp_apply, (class_toLower c).2]
  rw [nextCased, nextCased, List.dropWhile_map, ignorable]
  cases cs.dropWhile isCaseIgnorable with
  | nil => rfl
  | cons c _ => exact (class_toLower c).1

/-- A letter is lowered alike when the text around it is folded. -/
theorem lowerAt_map_toLower (before : List Char) (c : Char) (after : List Char) :
    lowerAt (before.map Char.toLower) c.toLower (after.map Char.toLower) =
      lowerAt before c after := by
  by_cases h : c.toNat < 128
  · have hl := (toLower_ascii c.toNat h).1
    rw [Char.ofNat_toNat] at hl
    rw [lowerAt_of_ascii _ _ hl, lowerAt_of_ascii _ _ h, toLower_toLower]
  · rw [toLower_of_not_ascii h, lowerAt, nextCased_map_toLower, nextCased_map_toLower, lowerAt]

/-- A text is lowered alike when it and the text before it are folded. -/
theorem lowerFrom_map_toLower (before cs : List Char) :
    lowerFrom (before.map Char.toLower) (cs.map Char.toLower) = lowerFrom before cs := by
  induction cs generalizing before with
  | nil => rfl
  | cons c cs ih =>
    have next := ih (c :: before)
    rw [List.map_cons] at next
    rw [List.map_cons, lowerFrom, lowerFrom, lowerAt_map_toLower, next]

/-- Folding before lowering changes nothing. -/
theorem lower_fold (s : String) : lower (fold s) = lower s := by
  rw [lower, toList_fold, lower]
  exact congrArg String.ofList (lowerFrom_map_toLower [] s.toList)

/-- Texts that are the same up to the case of ASCII letters have one lowercase form. -/
theorem lower_eq_of_sameAscii {s t : String} (h : sameAscii s t = true) : lower s = lower t := by
  rw [← lower_fold s, sameAscii_iff.1 h, lower_fold]

/-- A text of settled characters is kept by folding. -/
theorem fold_of_settled {s : String} (h : ∀ c ∈ s.toList, Settled c) : fold s = s := by
  rw [fold, List.map_congr_left fun c hc ↦ (h c hc).toLower_eq, List.map_id', String.ofList_toList]

/-- Folding after lowering changes nothing. -/
theorem fold_lower (s : String) : fold (lower s) = lower s := fold_of_settled (settled_lower s)

/-- A name in lower case is its own lower case without regard to ASCII letters. -/
theorem fold_of_lower {s : String} (h : lower s = s) : fold s = s := by rw [← h, fold_lower]

end Text

namespace Table

theorem ofName?_fold (name : String) : ofName? (Text.fold name) = ofName? name := by
  simp only [ofName?, Text.sameAscii_eq_fold, Text.fold_fold]

/-- A column is found under any case of its name. -/
theorem column?_fold (t : Table) (name : String) : t.column? (Text.fold name) = t.column? name := by
  rw [column?, column?, Text.lower_fold]

/-- The columns of a table are written in lowercase. -/
theorem fold_of_mem_columns {t : Table} {c : String} (h : c ∈ t.columns) : Text.fold c = c := by
  cases t <;> revert c <;> decide +kernel

end Table

end LedgerQuery
