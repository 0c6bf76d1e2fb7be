import LedgerQuery.Proofs.Run

/-!
# Clients that answer alike

A client simulates another one along a relation of their states if related states give the same
answer to every lookup and stay related (`Node.Client.Simulates`).  Then they stay related after any
lookups (`Simulates.after`), and conditions and plans give the same answers and the same errors with
both (`Simulates.evaluate`, `Simulates.run`).  A client whose answers do not change simulates itself
after any lookups, so that the operands of a connective are answered as if they stood alone
(`Steady.evaluate_pair`).
-/

namespace LedgerQuery.Node

variable {σ τ α : Type}

/-- Two outcomes with the same answer and related states. -/
def Agree (R : σ → τ → Prop) (x : α × σ) (y : α × τ) : Prop := x.1 = y.1 ∧ R x.2 y.2

theorem Agree.exists_eq {R : σ → τ → Prop} {x : α × σ} {y : α × τ} (h : Agree R x y) :
    ∃ a s u, x = (a, s) ∧ y = (a, u) ∧ R s u := by
  obtain ⟨a, s⟩ := x
  obtain ⟨b, u⟩ := y
  obtain ⟨rfl, related⟩ := h
  exact ⟨a, s, u, rfl, rfl, related⟩

namespace Client

def Simulates (R : σ → τ → Prop) (c : Client σ) (d : Client τ) : Prop :=
  ∀ (l : Lookup) (s : σ) (u : τ), R s u → Agree R (c l s) (d l u)

/-- The state of a client after some lookups, whatever their answers were. -/
def after (c : Client σ) (s : σ) (ls : List Lookup) : σ := ls.foldl (fun s l ↦ (c l s).2) s

namespace Simulates

open Query

variable {R : σ → τ → Prop} {c : Client σ} {d : Client τ} {s : σ} {u : τ}

theorem after (h : Simulates R c d) (hs : R s u) (ls : List Lookup) :
    R (c.after s ls) (d.after u ls) := by
  induction ls generalizing s u with
  | nil => exact hs
  | cons l ls ih => exact ih (h l s u hs).2

theorem evaluate (h : Simulates R c d) (t : Table) (p : Predicate) (hs : R s u) :
    Agree R (evaluate c t p s) (evaluate d t p u) := by
  induction p using evaluate.induct generalizing s u with
  | case1 column literal =>
    rw [evaluate_equals, evaluate_equals]
    cases lookup t column literal with
    | error e => exact ⟨rfl, hs⟩
    | ok l =>
      obtain ⟨a, s', u', hc, hd, related⟩ := (h l s u hs).exists_eq
      dsimp only [fetch]
      rw [hc, hd]
      cases a <;> exact ⟨rfl, related⟩
  | case2 op p q ihp ihq =>
    rw [evaluate_pair, evaluate_pair]
    obtain ⟨first, s', u', hc, hd, related⟩ := (ihp hs).exists_eq
    rw [hc, hd]
    cases first with
    | error e => exact ⟨rfl, related⟩
    | ok first =>
      obtain ⟨second, s', u', hc, hd, related⟩ := (ihq related).exists_eq
      dsimp only
      rw [hc, hd]
      cases second <;> exact ⟨rfl, related⟩
  | case3 op ps hps =>
    rw [evaluate_arity hps, evaluate_arity hps]
    exact ⟨rfl, hs⟩

theorem run (h : Simulates R c d) (p : Plan) (hs : R s u) : Agree R (run c p s) (run d p u) := by
  rw [run_eq, run_eq]
  rcases prepare p with e | ⟨scope, t, predicate⟩
  · exact ⟨rfl, hs⟩
  · obtain ⟨records, s', u', hc, hd, related⟩ := (h.evaluate t predicate hs).exists_eq
    dsimp only
    rw [hc, hd]
    cases records <;> exact ⟨rfl, related⟩

end Simulates

/-- A client that answers a lookup as it would have done at first, whatever it was asked before. -/
def Steady (c : Client σ) (s : σ) : Prop :=
  ∀ (ls : List Lookup) (l : Lookup), (c l (c.after s ls)).1 = (c l s).1

namespace Steady

open Query

variable {c : Client σ} {s : σ}

/-- After some lookups and after other ones the client simulates itself. -/
theorem simulates (h : c.Steady s) :
    Simulates (fun u v ↦ ∃ ls ls', u = c.after s ls ∧ v = c.after s ls') c c := by
  rintro l _ _ ⟨ls, ls', rfl, rfl⟩
  refine ⟨(h ls l).trans (h ls' l).symm, ls ++ [l], ls' ++ [l], ?_, ?_⟩
  · rw [Client.after, Client.after, List.foldl_append]
    rfl
  · rw [Client.after, Client.after, List.foldl_append]
    rfl

/-- Both operands of a connective are answered as if they stood alone. -/
theorem evaluate_pair (h : c.Steady s) (t : Table) (op : Connective) (p q : Predicate) :
    (evaluate c t (.logical op [p, q]) s).1 =
      match (evaluate c t p s).1, (evaluate c t q s).1 with
      | .ok first, .ok second => .ok (combine op first second)
      | .error e, _ => .error e
      | .ok _, .error e => .error e := by
  have start : ∃ ls ls', s = c.after s ls ∧ s = c.after s ls' := ⟨[], [], rfl, rfl⟩
  rw [Query.evaluate_pair]
  obtain ⟨first, u, -, hp, -, ls, -, hu, -⟩ := (h.simulates.evaluate t p start).exists_eq
  obtain ⟨second, v, w, hq, hq', -⟩ :=
    (h.simulates.evaluate t q ⟨ls, [], hu, rfl⟩ :
      Agree _ (evaluate c t q u) (evaluate c t q s)).exists_eq
  rw [hp, hq']
  cases first with
  | error e => rfl
  | ok first =>
    dsimp only
    rw [hq]
    cases second <;> rfl

end Steady

end Client

end LedgerQuery.Node
