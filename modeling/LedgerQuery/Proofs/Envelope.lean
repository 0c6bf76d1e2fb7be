import LedgerQuery.Node.JsonRpc
import LedgerQuery.Proofs.JsonText
import LedgerQuery.Proofs.Members

/-!
# Envelopes

The text of a reply is an envelope (`Envelops`) if it holds a result and an error, either of which
may be absent or `null` (`Nullable`), and this is what the reader accepts (`ofText_eq_ok_iff`).  So
a result that is written by itself is read again, as settled, and there is no error
(`ofText_resultBody`).
-/

namespace LedgerQuery.Node

open Json (Shape Holds Plain)

/-! ## Members that may be absent -/

section Members

variable {α : Type} {name : String} {r : Json → Except Json.Fault α} {get : String → Option Json}

/-- What a member gives that may be absent or `null`. -/
inductive Nullable (R : Json → α → Prop) : Option Json → Option α → Prop
  | absent : Nullable R none none
  | null : Nullable R (some .null) none
  | value {j : Json} {a : α} (there : j ≠ .null) (gives : R j a) : Nullable R (some j) (some a)

/-- A value that may be `null` is read as none, or as what it gives. -/
theorem readNullable_eq_ok_iff {j : Json} {a : Option α} :
    Json.readNullable r j = .ok a ↔ Nullable (fun j a ↦ r j = .ok a) (some j) a := by
  by_cases null : j = .null
  · subst null
    refine ⟨fun h ↦ ?_, fun h ↦ ?_⟩
    · cases h
      exact .null
    · cases h with
      | null => rfl
      | value there _ => exact absurd rfl there
  · rw [Json.readNullable]
    · refine ⟨fun h ↦ ?_, fun h ↦ ?_⟩
      · cases read : r j with
        | error f => rw [read] at h; cases h
        | ok b =>
          rw [read] at h
          cases h
          exact .value null read
      · cases h with
        | null => exact absurd rfl null
        | value _ gives => rw [gives]; rfl
    · exact null

/-- A member that may be absent is read as none, or as what it gives. -/
theorem build_nullable_eq_ok_iff {a : Option α} :
    (Shape.nullable name r).build get = .ok a ↔ Nullable (fun j a ↦ r j = .ok a) (get name) a := by
  simp only [Shape.nullable, Shape.optional]
  cases get name with
  | some j => exact readNullable_eq_ok_iff
  | none =>
    refine ⟨fun h ↦ ?_, fun h ↦ ?_⟩
    · cases h
      exact .absent
    · cases h with
      | absent => rfl

end Members

/-! ## Errors of a node -/

/-- The code of an error is a whole number of 64 bits with a sign. -/
inductive Code : Json → Int → Prop
  | natural {n : Json.Numeral} {v : Nat} (value : n.value? = some (.natural v))
      (small : v < 2 ^ 63) :
      Code (.num n) v
  | negative {n : Json.Numeral} {v : Nat} (value : n.value? = some (.negative v)) :
      Code (.num n) (-v)

/-- A code is a number that fits. -/
theorem readCode_eq_ok_iff {j : Json} {code : Int} : readCode j = .ok code ↔ Code j code := by
  constructor
  · intro h
    rw [readCode.eq_def] at h
    split at h
    · split at h
      · next value =>
        split at h
        · next small =>
          cases h
          exact .natural value small
        · cases h
      · next value =>
        cases h
        exact .negative value
      · exact absurd h Json.mismatch_ne_ok
      · exact absurd h Json.mismatch_ne_ok
    · exact absurd h Json.mismatch_ne_ok
  · rintro (⟨value, small⟩ | value)
    · rw [readCode, value]
      exact if_pos small
    · rw [readCode, value]

theorem readText_eq_ok_iff {j : Json} {s : String} : Json.readText j = .ok s ↔ j = .text s := by
  constructor
  · intro h
    rw [Json.readText.eq_def] at h
    split at h
    · cases h
      rfl
    · exact absurd h Json.mismatch_ne_ok
  · rintro rfl
    rfl

/-- A value tells of an error of a node: it has a code and a message. -/
def Refuses (j : Json) (e : Refusal) : Prop :=
  ∃ get, Holds ["code", "message"] j get ∧
    (∃ code, get "code" = some code ∧ Code code e.code) ∧ get "message" = some (.text e.message)

/-- A refusal is read from an object or an array with a code and a message. -/
theorem refuses_iff {label : String} {origin : Json.Origin} {j : Json} {e : Refusal} :
    Refusal.shape.read label origin j = .ok e ↔ Refuses j e := by
  have checks : Refusal.shape.Checks :=
    Shape.Checks.pure Refusal.mk |>.seq .required |>.seq .required
  rw [checks.read_eq_ok_iff (by decide)]
  refine exists_congr fun get ↦ and_congr_right fun _ ↦ ?_
  rw [Refusal.shape, Shape.build_map_seq_eq_ok_iff]
  simp only [Shape.build_required_eq_ok_iff, readCode_eq_ok_iff, readText_eq_ok_iff]
  constructor
  · rintro ⟨code, message, hcode, ⟨j, hj, rfl⟩, rfl⟩
    exact ⟨hcode, hj⟩
  · rintro ⟨hcode, hmessage⟩
    exact ⟨e.code, e.message, hcode, ⟨_, hmessage, rfl⟩, rfl⟩

/-! ## Envelopes -/

/-- A text is an envelope with this result and this error, either of which may be absent or
`null`. -/
def Envelops (body : String) (result : Option Json) (error : Option Refusal) : Prop :=
  (Json.parse body).trailing = false ∧
  ∃ get, Holds ["result", "error"] (Json.parse body).value get ∧
    Nullable (fun j v ↦ j.settle Json.memberDepth = some v) (get "result") result ∧
    Nullable Refuses (get "error") error

/-- Any value is read as settled, unless it is too deep. -/
theorem anyValue_eq_ok_iff {j v : Json} :
    Json.anyValue j = .ok v ↔ j.settle Json.memberDepth = some v := by
  rw [Json.anyValue]
  cases j.settle Json.memberDepth <;> simp

/-- A text is read as an envelope if and only if it is one. -/
theorem ofText_eq_ok_iff {body : String} {result : Option Json} {error : Option Refusal} :
    Envelope.ofText body = .ok ⟨result, error⟩ ↔ Envelops body result error := by
  have checks : Envelope.shape.Checks :=
    Shape.Checks.pure Envelope.mk |>.seq .nullable |>.seq .nullable
  have read {d : Json.Document} {r : Json → Except Json.Fault Envelope} {a : Envelope} :
      d.read r = .ok a ↔ d.trailing = false ∧ r d.value = .ok a := by
    rw [Json.Document.read]
    cases r d.value with
    | error f => simp
    | ok b => cases d.trailing <;> simp
  rw [Envelope.ofText, read, checks.read_eq_ok_iff (by decide)]
  refine and_congr_right fun _ ↦ exists_congr fun get ↦ and_congr_right fun _ ↦ ?_
  rw [Envelope.shape, Shape.build_map_seq_eq_ok_iff]
  simp only [build_nullable_eq_ok_iff, anyValue_eq_ok_iff, refuses_iff, Envelope.mk.injEq]
  constructor
  · rintro ⟨_, _, hresult, herror, rfl, rfl⟩
    exact ⟨hresult, herror⟩
  · rintro ⟨hresult, herror⟩
    exact ⟨_, _, hresult, herror, rfl, rfl⟩

def resultBody (result : Json) : String := Json.write (.object [("result", result)])

/-- A result that is written by itself is read again without an error. -/
theorem ofText_resultBody {j : Json} {result : Option Json} (plain : Plain j)
    (h : Json.readNullable Json.anyValue j = .ok result) :
    Envelope.ofText (resultBody j) = .ok ⟨result, none⟩ := by
  have document : Json.parse (resultBody j) = ⟨.object [("result", j)], false⟩ :=
    Json.parse_write (.object (List.forall_mem_singleton.2 plain))
  have holds :
      Holds ["result", "error"] (.object [("result", j)]) fun name ↦ [("result", j)].lookup name :=
    Json.holds_object (List.nodup_singleton _) (List.forall_mem_singleton.2 fun other ↦
      absurd List.mem_cons_self other)
  have settled : Nullable (fun j v ↦ j.settle Json.memberDepth = some v) (some j) result := by
    simpa only [anyValue_eq_ok_iff] using readNullable_eq_ok_iff.1 h
  rw [ofText_eq_ok_iff, Envelops, document]
  exact ⟨rfl, _, holds, settled, .absent⟩

end LedgerQuery.Node
