import LedgerQuery.Proofs.Digits
import LedgerQuery.Sql.Lexer
import Mathlib.Data.List.TakeDrop
import Mathlib.Data.List.TakeWhile
import Mathlib.Tactic.IntervalCases

/-!
# Splitting a text into tokens

A text is split step by step, and what some steps give does not depend on the text after it: a text
is split by splitting its parts one after the other (`steps_append`, `lex_of_steps`).  Numbers,
texts in quotes and identifiers are one token each (`step_decimal`, `step_hexadecimal`,
`step_quoted`, `step_of_spells`).
-/

namespace LedgerQuery.Sql.Lexer

open Number (Writes)

/-! ## Several steps -/

/-- What a number of steps gives: tokens, whether a word stands right before, and the text after
them. -/
def steps : Nat → Bool → List Char → Option (List Token × Bool × List Char)
  | 0, afterWord, cs => some ([], afterWord, cs)
  | n + 1, afterWord, cs =>
    match step afterWord cs with
    | none => none
    | some (t, rest) => (steps n (isWord t) rest).map fun (ts, r) => (t.toList ++ ts, r)

theorem steps_append {m n : Nat} {w w' : Bool} {cs cs' : List Char} {ts us : List Token}
    {r : Bool × List Char} (h : steps m w cs = some (ts, w', cs'))
    (h' : steps n w' cs' = some (us, r)) : steps (m + n) w cs = some (ts ++ us, r) := by
  induction m generalizing w cs ts with
  | zero =>
    cases h
    rwa [Nat.zero_add]
  | succ m ih =>
    rw [steps] at h
    rw [Nat.succ_add, steps]
    split at h
    · cases h
    · next t rest ht =>
      obtain ⟨⟨ts', r'⟩, hs, he⟩ := Option.map_eq_some_iff.1 h
      cases he
      rw [ih hs]
      rw [Option.map_some, List.append_assoc]

theorem steps_nil (n : Nat) (w : Bool) : ∃ w', steps n w [] = some ([], w', []) := by
  induction n generalizing w with
  | zero => exact ⟨w, rfl⟩
  | succ n ih =>
    obtain ⟨w', h⟩ := ih false
    refine ⟨w', ?_⟩
    show (steps n false []).map _ = _
    rw [h]
    rfl

theorem tokens_nil (fuel : Nat) (w : Bool) : tokens fuel w [] = some [] := by
  cases fuel <;> rfl

theorem tokens_of_steps {n : Nat} {w w' : Bool} {cs : List Char} {ts : List Token} (fuel : Nat)
    (h : steps n w cs = some (ts, w', [])) : tokens (n + fuel) w cs = some ts := by
  induction n generalizing w cs ts with
  | zero =>
    cases h
    exact tokens_nil _ _
  | succ n ih =>
    cases cs with
    | nil =>
      obtain ⟨w', h'⟩ := steps_nil (n + 1) w
      cases h.symm.trans h'
      exact tokens_nil _ _
    | cons c cs =>
      rw [steps] at h
      split at h
      · cases h
      · next t rest ht =>
        obtain ⟨⟨ts', r'⟩, hs, he⟩ := Option.map_eq_some_iff.1 h
        cases he
        rw [Nat.succ_add, tokens, ht]
        · dsimp only
          rw [ih hs, Option.map_some]
        · exact List.cons_ne_nil c cs

/-- A text is split if no more steps than it has characters leave nothing of it. -/
theorem lex_of_steps {n : Nat} {w : Bool} {s : String} {ts : List Token}
    (h : steps n false s.toList = some (ts, w, [])) (hn : n ≤ s.toList.length) :
    lex s = some ts := by
  obtain ⟨fuel, hf⟩ := Nat.exists_eq_add_of_le hn
  show tokens s.toList.length false s.toList = _
  rw [hf, tokens_of_steps fuel h]

/-! ## Words -/

theorem step_blank (w : Bool) (cs : List Char) : step w (' ' :: cs) = some (none, cs) := by
  have start : isWordStart ' ' = false := rfl
  have blank : Unicode.isBlank ' ' = true := rfl
  show (if isWordStart ' ' = true then some (some (word (' ' :: cs)).1, (word (' ' :: cs)).2)
    else if (' '.isDigit || ' ' == '.') = true then
      some (some (number (' ' :: cs)).1, (number (' ' :: cs)).2)
    else if Unicode.isBlank ' ' = true then some (none, cs)
    else some (some (symbol (' ' :: cs)).1, (symbol (' ' :: cs)).2)) = _
  rw [start, if_neg Bool.false_ne_true, if_neg (by decide), if_pos blank]

theorem steps_blank (w : Bool) (cs : List Char) : steps 1 w (' ' :: cs) = some ([], false, cs) := by
  rw [steps, step_blank]
  rfl

/-- What starts like a word, and not like a literal with a mark before its quote, is a word. -/
theorem step_wordStart {c d : Char} {cs : List Char} (hc : isWordStart c = true)
    (hd : d ∉ ['\'', '"', '&']) (w : Bool) :
    step w (c :: d :: cs) = some (some (word (c :: d :: cs)).1, (word (c :: d :: cs)).2) := by
  have marks : ∀ e ∈ ['-', '/', '\'', '"', '`', '.', '$', '?'], ¬isWordStart e = true :=
    List.any_eq_false.1 rfl
  unfold step
  -- Every other start is a mark, or a letter with a quote or with `&` after it.
  split
  case h_26 h =>
    cases h
    exact if_pos hc
  all_goals
    next h =>
      cases h <;>
        first
        | exact absurd hc (marks _ (by decide))
        | exact absurd (by decide) hd

/-- Letters and digits are one word up to a character that is none of them. -/
theorem step_word {c d : Char} {cs : List Char} (hc : isWordStart c = true)
    (hp : (c :: cs).all isWordPart = true) (hd : isWordPart d = false)
    (hq : d ∉ ['\'', '"', '&']) (w : Bool) (rest : List Char) :
    step w (c :: cs ++ d :: rest) = some (some (.word ⟨.ofList (c :: cs), none⟩), d :: rest) := by
  have quotes : ∀ e ∈ ['\'', '"', '&'], ¬isWordPart e = true :=
    List.any_eq_false.1 rfl
  have hp := List.all_eq_true.1 hp
  have hd := Bool.eq_false_iff.1 hd
  have whole : word (c :: cs ++ d :: rest) = (.word ⟨.ofList (c :: cs), none⟩, d :: rest) := by
    rw [word, List.takeWhile_append_of_pos hp, List.dropWhile_append_of_pos hp,
      List.takeWhile_cons_of_neg hd, List.dropWhile_cons_of_neg hd, List.append_nil]
  have start : ∃ e es, cs ++ d :: rest = e :: es ∧ e ∉ ['\'', '"', '&'] := by
    cases cs with
    | nil => exact ⟨d, rest, rfl, hq⟩
    | cons e es => exact ⟨e, _, rfl, fun hm ↦ quotes e hm (hp e (by simp))⟩
  obtain ⟨e, es, he, hm⟩ := start
  rw [List.cons_append] at whole ⊢
  rw [he] at whole ⊢
  rw [step_wordStart hc hm, whole]

/-! ## Literals -/

theorem decimal_cases {c : Char} (h : (Number.digit? 10 c).isSome) :
    c ∈ ['0', '1', '2', '3', '4', '5', '6', '7', '8', '9'] := by
  obtain ⟨d, hd⟩ := Option.isSome_iff_exists.1 h
  obtain ⟨hv, hlt⟩ := Number.digit?_eq_some_iff.1 hd
  rw [Number.digitValue?] at hv
  split at hv
  · next hc =>
    have lower : 48 ≤ c.toNat := hc.1
    have upper : c.toNat ≤ 57 := hc.2
    have same := Char.ofNat_toNat c
    interval_cases c.toNat <;> subst same <;> decide
  · split at hv
    · cases hv
      omega
    · split at hv
      · cases hv
        omega
      · cases hv

section Digits

variable {ds : List Char} {n : Nat} (w : Bool)

theorem isDigit_of_writes (h : Writes 10 ds n) : ∀ c ∈ ds, c.isDigit = true := by
  have digits : ∀ c ∈ ['0', '1', '2', '3', '4', '5', '6', '7', '8', '9'], c.isDigit = true :=
    List.all_eq_true.1 rfl
  exact fun c hc ↦ digits c (decimal_cases (h.digit?_isSome c hc))

theorem number_of_writes (h : Writes 10 ds n) :
    number ds = (.literal (.number (.ofList ds) false), []) := by
  have whole : ds.span Char.isDigit = (ds, []) := by
    have all := isDigit_of_writes h
    rw [List.span_eq_takeWhile_dropWhile, List.takeWhile_eq_self_iff.2 all,
      List.dropWhile_eq_nil_iff.2 all]
  rw [number, whole]
  dsimp only
  split
  · next he => cases he
  · next he => cases he
  · simp only [numberTail, exponent, List.append_nil]

/-- Decimal digits are a number. -/
theorem step_decimal (h : Writes 10 ds n) :
    step w ds = some (some (.literal (.number (.ofList ds) false)), []) := by
  have read := number_of_writes h
  obtain ⟨c, cs, rfl⟩ := List.exists_cons_of_ne_nil h.ne_nil
  have hstep : step w (c :: cs) = some (some (number (c :: cs)).1, (number (c :: cs)).2) := by
    have hc := decimal_cases (h.digit?_isSome c List.mem_cons_self)
    simp only [List.mem_cons, List.not_mem_nil, or_false] at hc
    rcases hc with rfl | rfl | rfl | rfl | rfl | rfl | rfl | rfl | rfl | rfl <;> rfl
  rw [hstep, read]

/-- Hexadecimal digits after `0x` are a literal of another kind. -/
theorem step_hexadecimal (h : Writes 16 ds n) :
    step w ('0' :: 'x' :: ds) = some (some (.literal (.hex (.ofList ds))), []) := by
  have all : ∀ c ∈ ds, (Number.digitValue? c).isSome = true := by
    intro c hc
    obtain ⟨d, hd⟩ := Option.isSome_iff_exists.1 (h.digit?_isSome c hc)
    rw [(Number.digit?_eq_some_iff.1 hd).1]
    rfl
  have read : step w ('0' :: 'x' :: ds) =
      some (some (.literal (.hex (.ofList (ds.takeWhile fun c ↦ (Number.digitValue? c).isSome)))),
        ds.dropWhile fun c ↦ (Number.digitValue? c).isSome) := rfl
  rw [read, List.takeWhile_eq_self_iff.2 all, List.dropWhile_eq_nil_iff.2 all]

end Digits

/-- A text with each of its quotes `q` written twice. -/
def doubled (q : Char) (cs : List Char) : List Char :=
  cs.flatMap fun c ↦ if c = q then [q, q] else [c]

theorem doubled_of_not_mem {q : Char} {cs : List Char} (h : q ∉ cs) : doubled q cs = cs := by
  induction cs with
  | nil => rfl
  | cons c cs ih =>
    obtain ⟨hc, hcs⟩ := not_or.1 (mt List.mem_cons.2 h)
    rw [doubled, List.flatMap_cons, if_neg (Ne.symm hc), List.singleton_append]
    exact congrArg _ (ih hcs)

/-- What is read up to a quote is the text, with one quote for two of them. -/
theorem quotedRest_doubled {q : Char} {rest : List Char} (acc cs : List Char)
    (hr : rest.head? ≠ some q) :
    quotedRest q acc (doubled q cs ++ q :: rest) = some (.ofList (acc.reverse ++ cs), rest) := by
  induction cs generalizing acc with
  | nil =>
    cases rest with
    | nil => simp [doubled, quotedRest]
    | cons d rest =>
      have hd : (d == q) = false := beq_eq_false_iff_ne.2 fun h ↦ hr (congrArg some h)
      simp [doubled, quotedRest, hd]
  | cons c cs ih =>
    rw [doubled, List.flatMap_cons, ← doubled]
    by_cases hc : c = q
    · subst hc
      rw [if_pos rfl]
      show quotedRest c acc (c :: c :: (doubled c cs ++ c :: rest)) = _
      rw [quotedRest, if_neg (by simp), if_pos (beq_self_eq_true c), ih, List.reverse_cons,
        List.append_assoc, List.singleton_append]
    · obtain ⟨d, ds, hd⟩ := List.exists_cons_of_ne_nil (List.append_ne_nil_of_right_ne_nil
        (doubled q cs) (List.cons_ne_nil q rest))
      rw [if_neg hc, List.singleton_append, List.cons_append, hd, quotedRest,
        if_pos (bne_iff_ne.2 hc), ← hd, ih, List.reverse_cons, List.append_assoc,
        List.singleton_append]

theorem quotedRest_eq {q : Char} {cs rest : List Char} (acc : List Char) (h : q ∉ cs)
    (hr : rest.head? ≠ some q) :
    quotedRest q acc (cs ++ q :: rest) = some (.ofList (acc.reverse ++ cs), rest) := by
  have read := quotedRest_doubled acc cs hr
  rwa [doubled_of_not_mem h] at read

/-- A text between single quotes is one token, up to what is no quote any more. -/
theorem step_text (cs : List Char) (w : Bool) {rest : List Char} (hr : rest.head? ≠ some '\'') :
    step w ('\'' :: (doubled '\'' cs ++ '\'' :: rest)) =
      some (some (.literal (.text (.ofList cs))), rest) := by
  have read : step w ('\'' :: (doubled '\'' cs ++ '\'' :: rest)) =
      literal .text (quotedRest '\'' [] (doubled '\'' cs ++ '\'' :: rest)) := rfl
  rw [read, quotedRest_doubled [] cs hr]
  rfl

/-- A text between quotes is one token. -/
theorem step_quoted {cs : List Char} (h : '\'' ∉ cs) (w : Bool) :
    step w ('\'' :: (cs ++ ['\''])) = some (some (.literal (.text (.ofList cs))), []) := by
  have read := @step_text cs w [] (by simp)
  rwa [doubled_of_not_mem h] at read

/-! ## Identifiers -/

/-- The texts of identifiers: letters and digits, or any text between double quotes. -/
inductive Spells : List Char → Ident → Prop
  | bare {c : Char} {cs : List Char} (start : isWordStart c = true)
      (parts : (c :: cs).all isWordPart = true) : Spells (c :: cs) ⟨.ofList (c :: cs), none⟩
  | quoted {cs : List Char} (plain : '"' ∉ cs) :
      Spells ('"' :: (cs ++ ['"'])) ⟨.ofList cs, some '"'⟩

theorem Spells.length_pos {cs : List Char} {i : Ident} (h : Spells cs i) : 0 < cs.length := by
  cases h <;> exact Nat.zero_lt_succ _

/-- A comma, a blank or a parenthesis ends an identifier. -/
theorem step_of_spells {cs : List Char} {i : Ident} (h : Spells cs i) {d : Char}
    (hd : d ∈ [',', ' ', '(', ')']) (w : Bool) (rest : List Char) :
    step w (cs ++ d :: rest) = some (some (.word i), d :: rest) := by
  have ends : ∀ d ∈ [',', ' ', '(', ')'], (!isWordPart d) = true :=
    List.all_eq_true.1 rfl
  have plain : d ∉ ['\'', '"', '&'] := by
    simp only [List.mem_cons, List.not_mem_nil, or_false] at hd
    rcases hd with rfl | rfl | rfl | rfl <;> decide
  cases h with
  | bare start parts =>
    exact step_word start parts (Bool.not_eq_true' _ ▸ ends d hd) plain w rest
  | @quoted cs quotes =>
    have read : step w ('"' :: (cs ++ '"' :: d :: rest)) =
        (quotedRest '"' [] (cs ++ '"' :: d :: rest)).map
          fun p ↦ (some (.word ⟨p.1, some '"'⟩), p.2) := rfl
    have other : (d :: rest).head? ≠ some '"' := by
      rintro ⟨⟩
      exact plain (by decide)
    rw [List.cons_append, List.append_assoc, List.singleton_append, read,
      quotedRest_eq [] quotes other]
    rfl

end LedgerQuery.Sql.Lexer
