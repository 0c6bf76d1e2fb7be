import LedgerQuery.Query.Plan
import LedgerQuery.Text.Lowercase

/-!
# Lower case twice

What is in lower case already stays as it is (`Text.lower_lower`), since no letter is the lower-case
partner of one letter and has another partner itself.  The letters are kept in runs, so this is
checked for a run of partners against a run of letters at a time (`standsApart`).
-/

namespace LedgerQuery

namespace Unicode

/-! ## Runs of letters -/

/-- Whether a code point belongs to a run of letters. -/
def hits (n : Nat) (r : Nat × Nat × Nat × Int) : Bool :=
  r.1 ≤ n && n ≤ r.2.1 && (n - r.1) % r.2.2.1 == 0

/-- Whether the code points from `first` to `last` stand apart from a run of letters: before it,
after it, or between its letters. -/
def standsApart (first last step : Nat) (r : Nat × Nat × Nat × Int) : Bool :=
  Nat.blt r.2.1 first || Nat.blt last r.1 ||
    (Nat.beq step 2 || Nat.beq first last) && Nat.beq r.2.2.1 2 && Nat.beq ((first + r.1) % 2) 1

/-- Whether the partners of a run of letters are characters of their own, which are no capitals. -/
def isSound (r : Nat × Nat × Nat × Int) : Bool :=
  let first := (r.1 + r.2.2.2).toNat
  let last := (r.2.1 + r.2.2.2).toNat
  decide (0 ≤ r.1 + r.2.2.2) && Nat.blt 'Z'.toNat first &&
    (Nat.blt 'İ'.toNat first || Nat.blt last 'İ'.toNat) &&
    (Nat.blt last 0xd800 || Nat.blt 0xdfff first && Nat.blt last 0x110000) &&
    lowerRuns.toList.all (standsApart first last r.2.2.1)

/-- Each run of the table was found sound. -/
theorem isSound_of_mem : ∀ r ∈ lowerRuns.toList, isSound r = true := by
  have h : lowerRuns.toList.all isSound = true := by decide +kernel
  exact List.all_eq_true.1 h

/-- A run that stands apart from an interval hits no letter of it. -/
theorem hits_of_standsApart {first last step n : Nat} {r : Nat × Nat × Nat × Int}
    (h : standsApart first last step r = true) (hf : first ≤ n) (hl : n ≤ last)
    (hs : (n - first) % step = 0) : hits n r = false := by
  simp only [standsApart, Bool.or_eq_true, Bool.and_eq_true, Nat.blt_eq, Nat.beq_eq] at h
  rw [hits, Bool.eq_false_iff]
  intro hn
  simp only [Bool.and_eq_true, decide_eq_true_eq, beq_iff_eq] at hn
  obtain ⟨⟨hn₁, hn₂⟩, hn₃⟩ := hn
  obtain (h | h) | ⟨⟨rfl | rfl, h₂⟩, h₃⟩ := h
  · omega
  · omega
  · rw [h₂] at hn₃
    omega
  · rw [h₂] at hn₃
    omega

/-! ## Letters -/

/-- A character that stands for itself in lower case, wherever it stands in a text. -/
structure Settled (c : Char) : Prop where
  ne_sigma : c ≠ 'Σ'
  ne_dotted : c ≠ 'İ'
  lowerLetter_eq : lowerLetter c = c

/-- The distance of a letter to its lowercase form is that of the first run that hits it. -/
theorem lowerDistance_eq (n : Nat) :
    lowerDistance n = ((lowerRuns.toList.find? (hits n)).map fun r ↦ r.2.2.2).getD 0 := by
  unfold lowerDistance
  rw [← Array.find?_toList]
  generalize lowerRuns.toList = runs
  have hf : (runs.find? fun r ↦ r.1 ≤ n && n ≤ r.2.1 && (n - r.1) % r.2.2.1 == 0) =
      runs.find? (hits n) := rfl
  rw [hf]
  cases runs.find? (hits n) <;> rfl

/-- A letter that no run hits is its own lowercase form. -/
theorem lowerLetter_of_find?_eq_none {c : Char} (hc : ¬ c.toNat < 128)
    (h : lowerRuns.toList.find? (hits c.toNat) = none) : lowerLetter c = c := by
  rw [lowerLetter, if_neg hc, lowerDistance_eq, h, Option.map_none, Option.getD_none, Int.add_zero,
    Int.toNat_natCast, Char.ofNat_toNat]

/-- A letter is moved by the distance of the run that hits it. -/
theorem lowerLetter_of_find?_eq_some {c : Char} {r : Nat × Nat × Nat × Int}
    (hc : ¬ c.toNat < 128) (h : lowerRuns.toList.find? (hits c.toNat) = some r) :
    lowerLetter c = Char.ofNat (c.toNat + r.2.2.2).toNat := by
  rw [lowerLetter, if_neg hc, lowerDistance_eq, h, Option.map_some, Option.getD_some]

theorem ne_of_toNat_ne {c d : Char} (h : c.toNat ≠ d.toNat) : c ≠ d :=
  fun hcd ↦ h (congrArg Char.toNat hcd)

theorem toNat_ofNat {n : Nat} (h : n.isValidChar) : (Char.ofNat n).toNat = n := by
  rw [Char.ofNat, dif_pos h]
  rfl

/-! ### ASCII -/

/-- The lowercase form of an ASCII letter is of ASCII, and is its own lowercase form. -/
theorem toLower_ascii : ∀ n < 128,
    (Char.ofNat n).toLower.toNat < 128 ∧
      (Char.ofNat n).toLower.toLower = (Char.ofNat n).toLower := by
  decide

/-- ASCII characters above the capital letters are kept. -/
theorem toLower_of_lt_ascii : ∀ n < 128, 'Z'.toNat < n → (Char.ofNat n).toLower = Char.ofNat n := by
  decide

/-- An ASCII character that is kept is settled. -/
theorem settled_of_ascii {c : Char} (hc : c.toNat < 128) (hl : c.toLower = c) : Settled c where
  ne_sigma := ne_of_toNat_ne fun h ↦ absurd (h ▸ hc) (by decide)
  ne_dotted := ne_of_toNat_ne fun h ↦ absurd (h ▸ hc) (by decide)
  lowerLetter_eq := (lowerLetter_of_ascii hc).trans hl

/-! ### Partners -/

/-- The partners in a run of letters are settled. -/
theorem settled_partner {r : Nat × Nat × Nat × Int} (hr : r ∈ lowerRuns.toList) {n : Nat}
    (hn : hits n r = true) : Settled (Char.ofNat (n + r.2.2.2).toNat) := by
  have h := isSound_of_mem r hr
  simp only [isSound, Bool.and_eq_true, Bool.or_eq_true, decide_eq_true_eq, Nat.blt_eq] at h
  obtain ⟨⟨⟨⟨h₀, hupper⟩, hdotted⟩, hvalid⟩, hapart⟩ := h
  simp only [hits, Bool.and_eq_true, decide_eq_true_eq, beq_iff_eq] at hn
  obtain ⟨⟨hn₁, hn₂⟩, hn₃⟩ := hn
  generalize hm : (n + r.2.2.2 : Int).toNat = m
  have hf : (r.1 + r.2.2.2 : Int).toNat ≤ m := by omega
  have hl : m ≤ (r.2.1 + r.2.2.2 : Int).toNat := by omega
  have hs : (m - (r.1 + r.2.2.2 : Int).toNat) % r.2.2.1 = 0 := by
    have hd : m - (r.1 + r.2.2.2 : Int).toNat = n - r.1 := by omega
    rw [hd, hn₃]
  have hv : m.isValidChar := by
    rcases hvalid with h | ⟨h, h'⟩
    · exact .inl (Nat.lt_of_le_of_lt hl h)
    · exact .inr ⟨Nat.lt_of_lt_of_le h hf, Nat.lt_of_le_of_lt hl h'⟩
  have hc : (Char.ofNat m).toNat = m := toNat_ofNat hv
  have hnone : lowerRuns.toList.find? (hits (Char.ofNat m).toNat) = none := by
    rw [hc, List.find?_eq_none]
    intro q hq
    rw [hits_of_standsApart (List.all_eq_true.1 hapart q hq) hf hl hs]
    exact Bool.false_ne_true
  by_cases ha : (Char.ofNat m).toNat < 128
  · exact settled_of_ascii ha (toLower_of_lt_ascii m (hc ▸ ha) (Nat.lt_of_lt_of_le hupper hf))
  · refine ⟨ne_of_toNat_ne fun hσ ↦ ?_, ne_of_toNat_ne fun hi ↦ ?_,
      lowerLetter_of_find?_eq_none ha hnone⟩
    · -- A capital sigma has a partner of its own.
      rw [hσ] at hnone
      exact absurd hnone (by decide)
    · omega

/-- The lower case of a letter is settled. -/
theorem settled_lowerLetter {c : Char} (hσ : c ≠ 'Σ') (hi : c ≠ 'İ') : Settled (lowerLetter c) := by
  by_cases hc : c.toNat < 128
  · obtain ⟨hl, hll⟩ := toLower_ascii c.toNat hc
    rw [Char.ofNat_toNat] at hl hll
    rw [lowerLetter_of_ascii hc]
    exact settled_of_ascii hl hll
  · cases hf : lowerRuns.toList.find? (hits c.toNat) with
    | none =>
      have hl := lowerLetter_of_find?_eq_none hc hf
      rw [hl]
      exact ⟨hσ, hi, hl⟩
    | some r =>
      rw [lowerLetter_of_find?_eq_some hc hf]
      exact settled_partner (List.mem_of_find?_eq_some hf) (List.find?_some hf)

end Unicode

namespace Text

open Unicode

/-- A settled character is kept at any place. -/
theorem lowerAt_of_settled {c : Char} (h : Settled c) (before after : List Char) :
    lowerAt before c after = [c] := by
  rw [lowerAt, if_neg (by simpa using h.ne_sigma), if_neg (by simpa using h.ne_dotted),
    h.lowerLetter_eq]

/-- What a letter is lowered to is settled. -/
theorem settled_lowerAt (before : List Char) (c : Char) (after : List Char) :
    ∀ d ∈ lowerAt before c after, Settled d := by
  have sigma : Settled 'σ' :=
    ⟨by decide, by decide, lowerLetter_of_find?_eq_none (by decide) (by decide +kernel)⟩
  have final : Settled 'ς' :=
    ⟨by decide, by decide, lowerLetter_of_find?_eq_none (by decide) (by decide +kernel)⟩
  have dot : Settled '\u0307' :=
    ⟨by decide, by decide, lowerLetter_of_find?_eq_none (by decide) (by decide +kernel)⟩
  have i : Settled 'i' := settled_of_ascii (by decide) (by decide)
  intro d hd
  rw [lowerAt] at hd
  split at hd
  · rw [List.mem_singleton.1 hd]
    split
    · exact final
    · exact sigma
  · next hσ =>
    split at hd
    · rcases List.mem_cons.1 hd with rfl | hd
      · exact i
      · rw [List.mem_singleton.1 hd]
        exact dot
    · next hi =>
      rw [List.mem_singleton.1 hd]
      exact settled_lowerLetter (by simpa using hσ) (by simpa using hi)

/-- A text of settled characters is kept. -/
theorem lowerFrom_of_settled {cs : List Char} (h : ∀ c ∈ cs, Settled c) (before : List Char) :
    lowerFrom before cs = cs := by
  induction cs generalizing before with
  | nil => rfl
  | cons c cs ih =>
    obtain ⟨hc, hcs⟩ := List.forall_mem_cons.1 h
    rw [lowerFrom, lowerAt_of_settled hc, ih hcs, List.singleton_append]

/-- What a text is lowered to is settled, whatever stands before the text. -/
theorem settled_lowerFrom (before cs : List Char) : ∀ c ∈ lowerFrom before cs, Settled c := by
  induction cs generalizing before with
  | nil => exact fun c hc ↦ absurd hc List.not_mem_nil
  | cons c cs ih =>
    intro d hd
    rw [lowerFrom] at hd
    rcases List.mem_append.1 hd with hd | hd
    · exact settled_lowerAt before c cs d hd
    · exact ih (c :: before) d hd

/-- Each character of a lowered text is settled. -/
theorem settled_lower (s : String) : ∀ c ∈ (lower s).toList, Settled c := by
  rw [toList_lower]
  exact settled_lowerFrom [] s.toList

/-- A text of settled characters is in lower case. -/
theorem lower_of_settled {s : String} (h : ∀ c ∈ s.toList, Settled c) : lower s = s := by
  rw [lower, lowerFrom_of_settled h, String.ofList_toList]

/-- Lowering a text twice is lowering it once. -/
theorem lower_lower (s : String) : lower (lower s) = lower s :=
  lower_of_settled (settled_lower s)

end Text

end LedgerQuery
