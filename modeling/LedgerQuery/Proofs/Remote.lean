import LedgerQuery.Node.Remote
import LedgerQuery.Proofs.Codec
import LedgerQuery.Proofs.Envelope
import LedgerQuery.Proofs.Ledger
import LedgerQuery.Proofs.Simulation

/-!
# A ledger behind a connection

A node that keeps a ledger answers a request with what the ledger finds (`Ledger.respond`).  A
client that asks such a node gets the answers of the ledger (`answer_respond`), so it simulates the
ledger: whatever is looked up and whatever plan is run, answers and errors are the same, and there
are as many requests as the ledger counts lookups (`connection_interchangeable`).
-/

namespace LedgerQuery.Node

open Chain
open Json (Plain)
open Query

/-! ## Requests answered by a ledger -/

/-- The lookup that a method and its parameters ask for.  The transactions of a block are asked for
by asking for the block. -/
def Lookup.ofCall? (method : String) (params : List Json) : Option Lookup :=
  match method, params with
  | "eth_getBlockByNumber", [.str (some raw), .bool true] =>
    match Quantity.read 64 raw with
    | .ok n => some (.blockByNumber n)
    | .error _ => none
  | "eth_getBlockByHash", [.str (some hash), .bool true] => some (.blockByHash hash)
  | "eth_getTransactionByHash", [.str (some hash)] => some (.transactionByHash hash)
  | _, _ => none

/-- What is found, in node format, or `null`. -/
def orNull {α : Type} (toJson : α → Json) : Except Failure α → Json
  | .ok a => toJson a
  | .error _ => .null

/-- What a ledger finds for a method and its parameters. -/
def Ledger.found (l : Ledger) (method : String) (params : List Json) : Json :=
  match Lookup.ofCall? method params with
  | some (.blockByNumber n) => orNull Block.toJson (l.answer (.blockByNumber n))
  | some (.blockByHash hash) => orNull Block.toJson (l.answer (.blockByHash hash))
  | some (.transactionByHash hash) => orNull Transaction.toJson (l.answer (.transactionByHash hash))
  | some (.transactionsOf _) | none => .null

/-- The reply of a node that keeps a ledger. -/
def Ledger.respond (l : Ledger) (r : Request) : Reply :=
  ⟨200, resultBody (l.found r.method r.params)⟩

/-- A connection to a node that answers every request. -/
def Connection.against (node : Request → Reply) : Client Connection := fun l c ↦
  let (answer, d) := Connection.client l { c with replies := [node (l.request c.nextId)] }
  (answer, { d with replies := c.replies })

/-! ## Replies read again -/

/-- What is written of an answer is read again, and nothing was found where it is `null`. -/
theorem ofBody_orNull {α : Type} {l : Lookup} {toJson : α → Json} {f : α → l.Answer}
    {x : Except Failure α} (plain : ∀ a, Plain (toJson a))
    (read : ∀ a, ∃ v, Json.readNullable Json.anyValue (toJson a) = .ok (some v) ∧
      l.ofResult v = .ok (f a))
    (hx : ∀ e, x = .error e → e = .notFound l.subject) :
    l.ofBody (resultBody (orNull toJson x)) = x.map f := by
  cases x with
  | error e =>
    rw [hx e rfl, Lookup.ofBody, orNull, ofText_resultBody .null rfl]
    rfl
  | ok a =>
    obtain ⟨v, hv, ha⟩ := read a
    rw [Lookup.ofBody, orNull, ofText_resultBody (plain a) hv]
    simp only [ha]
    rfl

/-- A block that is written is read again, as settled. -/
theorem read_block (b : Block) :
    Json.readNullable Json.anyValue b.toJson = .ok (some b.settled) := by
  have read : Json.anyValue b.toJson = .ok b.settled := by
    rw [Json.anyValue, Json.memberDepth, b.settle_toJson]
  exact congrArg (Except.map some) read

/-- A transaction that is written is read again, as settled. -/
theorem read_transaction (t : Transaction) :
    Json.readNullable Json.anyValue t.toJson = .ok (some t.settled) := by
  have read : Json.anyValue t.toJson = .ok t.settled := by
    rw [Json.anyValue, Json.memberDepth, t.settle_toJson]
  exact congrArg (Except.map some) read

namespace Ledger

/-- A block that is not there is reported as missing. -/
theorem blockAt_eq_error {l : Ledger} {position : Option Nat} {subject : String} {e : Failure}
    (h : l.blockAt position subject = .error e) : e = .notFound subject := by
  rw [blockAt] at h
  split at h <;> cases h
  rfl

/-- A ledger fails only where it has nothing. -/
theorem answer_eq_error {l : Ledger} {q : Lookup} {e : Failure} (h : l.answer q = .error e) :
    e = .notFound q.subject := by
  cases q with
  | blockByNumber n => exact blockAt_eq_error h
  | blockByHash hash => exact blockAt_eq_error h
  | transactionsOf n =>
    rw [answer] at h
    cases hb : l.blockAt (l.byNumber.lookup n.val) (Lookup.transactionsOf n).subject with
    | error e' =>
      rw [hb] at h
      cases h
      exact blockAt_eq_error hb
    | ok b => rw [hb] at h; cases h
  | transactionByHash hash =>
    rw [answer] at h
    split at h <;> cases h
    rfl

theorem ofCall?_blockByNumber (n : Quantity 64) :
    Lookup.ofCall? "eth_getBlockByNumber" [n.toJson, .bool true] = some (.blockByNumber n) := by
  rw [Quantity.toJson, Json.text, Lookup.ofCall?]
  rw [Quantity.read_render (by decide)]

/-- The reply of a ledger says what the ledger answers. -/
theorem answer_respond (l : Ledger) (q : Lookup) (id : Nat) :
    Connection.answer q (some (l.respond (q.request id))) = l.answer q := by
  have same {α : Type} (x : Except Failure α) : x.map (fun a ↦ a) = x := by cases x <;> rfl
  have succeeded : (l.respond (q.request id)).succeeded = true := rfl
  rw [Connection.answer, if_pos succeeded, respond, found, Lookup.request]
  cases q with
  | blockByNumber n =>
    simp only [Lookup.call, ofCall?_blockByNumber]
    rw [ofBody_orNull (l := .blockByNumber n) (f := fun b ↦ b) Block.plain_toJson
      (fun b ↦ ⟨b.settled, read_block b, b.ofJson_settled .value⟩) fun _ ↦ answer_eq_error]
    exact same _
  | blockByHash hash =>
    have asked : Lookup.ofCall? "eth_getBlockByHash" [.text hash, .bool true] =
        some (.blockByHash hash) := rfl
    simp only [Lookup.call, asked]
    rw [ofBody_orNull (l := .blockByHash hash) (f := fun b ↦ b) Block.plain_toJson
      (fun b ↦ ⟨b.settled, read_block b, b.ofJson_settled .value⟩) fun _ ↦ answer_eq_error]
    exact same _
  | transactionsOf n =>
    have read (b : Block) :
        (Lookup.transactionsOf n).ofResult b.settled = .ok b.transactions := by
      rw [Lookup.ofResult, b.ofJson_settled]
      rfl
    simp only [Lookup.call, ofCall?_blockByNumber]
    rw [ofBody_orNull Block.plain_toJson (fun b ↦ ⟨b.settled, read_block b, read b⟩)
      fun _ ↦ answer_eq_error]
    rfl
  | transactionByHash hash =>
    have asked : Lookup.ofCall? "eth_getTransactionByHash" [.text hash] =
        some (.transactionByHash hash) := rfl
    simp only [Lookup.call, asked]
    rw [ofBody_orNull (l := .transactionByHash hash) (f := fun t ↦ t) Transaction.plain_toJson
      (fun t ↦ ⟨t.settled, read_transaction t, t.ofJson_settled .value⟩) fun _ ↦ answer_eq_error]
    exact same _

end Ledger

/-! ## Simulation -/

/-- A connection and a ledger that have seen as many lookups since the ledger was as given. -/
def Mirrors (l : Ledger) (c : Connection) (l' : Ledger) : Prop :=
  c.reachable = true ∧ l' = { l with calls := l.calls + c.requests.length }

/-- Asking the texts of a ledger is asking the ledger. -/
theorem simulates_against (l : Ledger) :
    Client.Simulates (Mirrors l) (Connection.against l.respond) Ledger.client := by
  rintro q c _ ⟨reachable, rfl⟩
  have same : (Ledger.answer { l with calls := l.calls + c.requests.length } q) = l.answer q := by
    cases q <;> rfl
  rw [Connection.against, Connection.client, Ledger.client, same]
  simp only [reachable, if_true, List.head?_cons, Ledger.answer_respond]
  exact ⟨rfl, rfl, by rw [List.length_append]; rfl⟩

/-! ## Replies in advance -/

namespace Connection

variable {α : Type} {node : Request → Reply}

/-- What is done with a node that answers every request can be done with its replies to these
requests, given in advance. -/
def Replays (node : Request → Reply) (f g : Connection → α × Connection) : Prop :=
  ∀ c, ∃ sent, (f c).2.requests = c.requests ++ sent ∧
    ∀ rest, g { c with replies := sent.map node ++ rest } =
      ((f c).1, { (f c).2 with replies := rest })

theorem replays_lookup (l : Lookup) : Replays node (against node l) (client l) := by
  intro c
  by_cases h : c.reachable = true
  · refine ⟨[l.request c.nextId], by simp [against, client, h], fun rest ↦ ?_⟩
    simp [against, client, h]
  · refine ⟨[], by simp [against, client, h], fun rest ↦ ?_⟩
    simp [against, client, h]

theorem replays_of_eq {f : Connection → α × Connection} (a : α) (h : ∀ c, f c = (a, c)) :
    Replays node f f := by
  intro c
  refine ⟨[], by rw [h, List.append_nil], fun rest ↦ ?_⟩
  rw [h, h]
  rfl

/-- Computations one after the other are replayed if each of them is. -/
theorem Replays.bind {β : Type} {x y : ExceptT Error (StateM Connection) α}
    {f g : α → ExceptT Error (StateM Connection) β} (hx : Replays node x y)
    (hf : ∀ a, Replays node (f a) (g a)) : Replays node (x >>= f) (y >>= g) := by
  have step {x : ExceptT Error (StateM Connection) α} {f : α → ExceptT Error (StateM Connection) β}
      (c : Connection) : (x >>= f) c = match x c with
        | (.error e, d) => (.error e, d)
        | (.ok a, d) => f a d := by
    simp only [Bind.bind, ExceptT.bind, ExceptT.mk, StateT.bind]
    rcases x c with ⟨e | a, d⟩ <;> rfl
  intro c
  obtain ⟨sent, requests, replayed⟩ := hx c
  rw [step]
  rcases hc : x c with ⟨e | a, d⟩
  · rw [hc] at requests replayed
    refine ⟨sent, requests, fun rest ↦ ?_⟩
    rw [step, replayed]
  · rw [hc] at requests replayed
    obtain ⟨later, requests', replayed'⟩ := hf a d
    refine ⟨sent ++ later, ?_, fun rest ↦ ?_⟩
    · rw [requests', requests, List.append_assoc]
    · rw [step, List.map_append, List.append_assoc, replayed]
      exact replayed' rest

/-- Fetching is replayed, as it makes one lookup. -/
theorem replays_fetch (l : Lookup) : Replays node (fetch (against node) l) (fetch client l) := by
  intro c
  have replays : Replays node (against node l) (client l) := replays_lookup l
  obtain ⟨sent, requests, replayed⟩ := replays c
  refine ⟨sent, ?_, fun rest ↦ ?_⟩
  · rw [← requests, fetch]
    rcases against node l c with ⟨_ | _, _⟩ <;> rfl
  · rw [fetch, fetch, replayed]
    rcases against node l c with ⟨_ | _, _⟩ <;> rfl

/-- The evaluation of conditions is replayed, lookup by lookup. -/
theorem replays_evaluate (t : Table) (p : Predicate) :
    Replays node (evaluate (against node) t p) (evaluate client t p) := by
  induction p using evaluate.induct with
  | case1 column literal =>
    rw [evaluate, evaluate]
    exact .bind (replays_of_eq _ fun _ ↦ rfl) replays_fetch
  | case2 op p q ihp ihq =>
    rw [evaluate, evaluate]
    exact ihp.bind fun first ↦ ihq.bind fun second ↦ replays_of_eq _ fun _ ↦ rfl
  | case3 op ps hps =>
    rw [evaluate.eq_3 _ t op ps hps, evaluate.eq_3 _ t op ps hps]
    exact replays_of_eq _ fun _ ↦ rfl

/-- A run is replayed, as only the evaluation of its conditions makes lookups. -/
theorem replays_run (p : Plan) : Replays node (run (against node) p) (run client p) := by
  rw [run, run]
  exact .bind (replays_of_eq _ fun _ ↦ rfl) fun _ ↦
    (replays_evaluate _ _).bind fun _ ↦ replays_of_eq _ fun _ ↦ rfl

end Connection

/-! ## Interchangeable nodes -/

theorem calls_ofBlocks (bs : List Block) : (Ledger.ofBlocks bs).calls = 0 := by
  induction bs using List.reverseRecOn with
  | nil => rfl
  | append_singleton bs b ih => rw [Ledger.ofBlocks_concat, Ledger.insert, ih]

/-- Against a node that answers every request with what a ledger finds, each lookup is answered as
by the ledger, whatever was looked up before, and each plan gives the same result or the same error;
there are as many requests as the ledger counts lookups.  It makes no difference whether the node
replies to each request or the replies to all of them are there in advance. -/
theorem connection_interchangeable (bs : List Block) :
    let ledger := Ledger.ofBlocks bs
    let remote := Connection.against ledger.respond
    let start := Connection.start true []
    (∀ (ls : List Lookup) (l : Lookup),
      (remote l (remote.after start ls)).1 = (Ledger.client l (Ledger.client.after ledger ls)).1 ∧
      (remote.after start ls).requests.length = (Ledger.client.after ledger ls).calls) ∧
    ∀ p : Plan,
      (run remote p start).1 = (run Ledger.client p ledger).1 ∧
      (run remote p start).2.requests.length = (run Ledger.client p ledger).2.calls ∧
      run Connection.client p
          (.start true ((run remote p start).2.requests.map ledger.respond)) =
        ((run Ledger.client p ledger).1, { (run remote p start).2 with replies := [] }) := by
  intro ledger remote start
  have simulates : Client.Simulates (Mirrors ledger) remote Ledger.client :=
    simulates_against ledger
  have mirrors : Mirrors ledger start ledger := ⟨rfl, rfl⟩
  have count {c : Connection} {l : Ledger} (h : Mirrors ledger c l) :
      c.requests.length = l.calls := by
    rw [h.2, calls_ofBlocks, Nat.zero_add]
  refine ⟨fun ls l ↦ ?_, fun p ↦ ?_⟩
  · have related := simulates.after mirrors ls
    exact ⟨(simulates l _ _ related).1, count related⟩
  · obtain ⟨same, related⟩ := simulates.run p mirrors
    have replays : Connection.Replays ledger.respond (run remote p) (run Connection.client p) :=
      Connection.replays_run p
    obtain ⟨sent, requests, replayed⟩ := replays start
    refine ⟨same, count related, ?_⟩
    have advance := replayed []
    rw [List.append_nil] at advance
    rw [← same, show (run remote p start).2.requests = sent from requests]
    exact advance

end LedgerQuery.Node
