/-!
# Lists of pairs as maps

A map is a list of pairs in which every key stands once, in the order in which the keys were first
seen. `List.lookup` reads it.
-/

namespace LedgerQuery.Keyed

universe u v

variable {κ : Type u} {α : Type v} [BEq κ]

def has (k : κ) (m : List (κ × α)) : Bool := (m.lookup k).isSome

/-- Gives a key a value: the value of a present key is replaced in its place. -/
def insert (k : κ) (a : α) : List (κ × α) → List (κ × α)
  | [] => [(k, a)]
  | (l, b) :: m => if k == l then (k, a) :: m else (l, b) :: insert k a m

/-- Gives a key a value unless it has one. -/
def insertNew (k : κ) (a : α) (m : List (κ × α)) : List (κ × α) :=
  if has k m then m else m ++ [(k, a)]

def erase (k : κ) (m : List (κ × α)) : List (κ × α) := m.filter (fun p => !(p.1 == k))

/-- The list without a key, the last pair in the place of the one that is gone. -/
def swapErase (k : κ) : List (κ × α) → List (κ × α)
  | [] => []
  | (l, b) :: m => if k == l then m.getLast?.toList ++ m.dropLast else (l, b) :: swapErase k m

/-- Takes the values of some keys out of a map, one key after the other. -/
def takeOut : List κ → List (κ × α) → List α
  | [], _ => []
  | k :: ks, m =>
    match m.lookup k with
    | some a => a :: takeOut ks (swapErase k m)
    | none => takeOut ks m

/-- Every value under its key, a later one in the place of an earlier one with the same key. -/
def index (key : α → κ) (as : List α) : List (κ × α) :=
  as.foldl (fun m a => insert (key a) a m) []

/-- Adds a value to those of its key. -/
def push (k : κ) (a : α) : List (κ × List α) → List (κ × List α)
  | [] => [(k, [a])]
  | (l, as) :: m => if k == l then (l, as ++ [a]) :: m else (l, as) :: push k a m

/-- The values that share a key, the keys in the order in which they are first seen. -/
def group (key : α → κ) (as : List α) : List (κ × List α) :=
  as.foldl (fun m a => push (key a) a m) []

theorem lookup_insert_self [LawfulBEq κ] (k : κ) (a : α) (m : List (κ × α)) :
    (insert k a m).lookup k = some a := by
  induction m with
  | nil => simp [insert]
  | cons p m ih =>
    obtain ⟨l, b⟩ := p
    by_cases h : k = l
    · simp [insert, h]
    · have h : (k == l) = false := beq_eq_false_iff_ne.2 h
      simp [insert, List.lookup_cons, h, ih]

theorem lookup_insert_of_ne [LawfulBEq κ] {j k : κ} (h : j ≠ k) (a : α) (m : List (κ × α)) :
    (insert k a m).lookup j = m.lookup j := by
  have h : (j == k) = false := beq_eq_false_iff_ne.2 h
  induction m with
  | nil => simp [insert, List.lookup_cons, h]
  | cons p m ih =>
    obtain ⟨l, b⟩ := p
    by_cases hk : k = l
    · subst hk; simp [insert, List.lookup_cons, h]
    · simp [insert, List.lookup_cons, hk, ih]

end LedgerQuery.Keyed
