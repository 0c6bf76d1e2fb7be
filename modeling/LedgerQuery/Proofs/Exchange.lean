import LedgerQuery.Proofs.Remote

/-!
# Lookups and their replies

A fresh connection sends one request for each lookup, numbered from 1, whatever became of the
lookups before (`after_start`).  A request tells what is asked for (`Lookup.call_eq_iff`), and the
lookup is answered by the reply to it and by nothing else, as the status of the reply and the
envelope in its text say (`Answers`).  `lookups_answered` puts this together for any lookups and any
replies.
-/

namespace LedgerQuery.Node

open Chain

/-! ## Requests -/

namespace Lookup

/-- What a node is asked for: the transactions of a block come with the block. -/
def asked : Lookup → Lookup
  | .transactionsOf n => .blockByNumber n
  | l => l

theorem ofCall?_call (l : Lookup) : ofCall? l.call.1 l.call.2 = some l.asked := by
  cases l with
  | blockByNumber n => exact Ledger.ofCall?_blockByNumber n
  | blockByHash hash => rfl
  | transactionsOf n => exact Ledger.ofCall?_blockByNumber n
  | transactionByHash hash => rfl

theorem call_asked (l : Lookup) : l.asked.call = l.call := by
  cases l <;> rfl

/-- A request tells what it asks for. -/
theorem call_eq_iff {l l' : Lookup} : l.call = l'.call ↔ l.asked = l'.asked := by
  constructor
  · intro same
    have asked := ofCall?_call l
    rw [same, ofCall?_call] at asked
    exact (Option.some.inj asked).symm
  · intro same
    rw [← call_asked l, same, call_asked l']

end Lookup

/-! ## Replies -/

/-- The answer to a lookup that a reply gives. -/
inductive Answers (l : Lookup) (r : Reply) : Except Failure l.Answer → Prop
  /-- The status is that of an error. -/
  | transport (failed : 400 ≤ r.status ∧ r.status < 600) : Answers l r (.error .transport)
  /-- The text is no envelope. -/
  | shapeless {f : Json.Fault} (succeeded : r.succeeded = true)
      (other : ∀ result error, ¬Envelops r.body result error) :
        Answers l r (.error (.undecodable f))
  /-- There is an error, whether there is a result or not. -/
  | refused {result : Option Json} {e : Refusal} (succeeded : r.succeeded = true)
      (envelope : Envelops r.body result (some e)) :
        Answers l r (.error (.refused e.code e.message))
  /-- The result is absent or `null`. -/
  | notFound (succeeded : r.succeeded = true) (envelope : Envelops r.body none none) :
      Answers l r (.error (.notFound l.subject))
  | found {v : Json} {a : l.Answer} (succeeded : r.succeeded = true)
      (envelope : Envelops r.body (some v) none) (right : l.ofResult v = .ok a) :
        Answers l r (.ok a)
  /-- The result is not what was asked for. -/
  | wrong {v : Json} {f : Json.Fault} (succeeded : r.succeeded = true)
      (envelope : Envelops r.body (some v) none) (wrong : l.ofResult v = .error f) :
      Answers l r (.error (.undecodable f))

/-- Whether the status of a reply is one of success or of an error, not that of an interim reply or
of a redirection. -/
def Reply.Final (r : Reply) : Prop := r.succeeded = true ∨ 400 ≤ r.status ∧ r.status < 600

instance (r : Reply) : Decidable r.Final :=
  inferInstanceAs (Decidable (r.succeeded = true ∨ 400 ≤ r.status ∧ r.status < 600))

theorem answers_answer (l : Lookup) {r : Reply} (h : r.Final) :
    Answers l r (Connection.answer l (some r)) := by
  obtain succeeded | failed := h
  · rw [Connection.answer, if_pos succeeded, Lookup.ofBody]
    split
    · next f unread =>
      refine .shapeless succeeded fun result error envelope ↦ ?_
      rw [ofText_eq_ok_iff.2 envelope] at unread
      cases unread
    · next e read => exact .refused succeeded (ofText_eq_ok_iff.1 read)
    · next read => exact .notFound succeeded (ofText_eq_ok_iff.1 read)
    · next v read =>
      have envelope := ofText_eq_ok_iff.1 read
      split
      · next right => exact .found succeeded envelope right
      · next wrong => exact .wrong succeeded envelope wrong
  · have unsuccessful : ¬r.succeeded = true := by
      rw [Reply.succeeded, Bool.and_eq_true, decide_eq_true_iff, decide_eq_true_iff]
      omega
    rw [Connection.answer, if_neg unsuccessful]
    exact .transport failed

/-! ## Runs -/

namespace Connection

/-- After some lookups as many requests were sent and as many replies are gone. -/
theorem after_start (rs : List Reply) (ls : List Lookup) (few : ls.length < 2 ^ 64) :
    client.after (start true rs) ls =
      { reachable := true
        nextId := (ls.length + 1) % 2 ^ 64
        requests := (ls.zipIdx 1).map fun p ↦ p.1.request p.2
        replies := rs.drop ls.length } := by
  induction ls using List.reverseRecOn with
  | nil => rfl
  | append_singleton ls l ih =>
    rw [List.length_append, List.length_singleton] at few ⊢
    have earlier := ih (by omega)
    have number : (ls.length + 1) % 2 ^ 64 = ls.length + 1 := Nat.mod_eq_of_lt few
    rw [Client.after, List.foldl_concat, ← Client.after, earlier, client, number]
    simp [List.zipIdx_append, Nat.add_comm 1]

/-- A lookup is answered by its own reply. -/
theorem client_after (rs : List Reply) {ls : List Lookup} (few : ls.length + 1 < 2 ^ 64)
    (l : Lookup) :
    client l (client.after (start true rs) ls) =
      (answer l rs[ls.length]?, client.after (start true rs) (ls ++ [l])) := by
  refine Prod.ext ?_ ?_
  · rw [after_start rs ls (by omega), client]
    simp
  · rw [Client.after, Client.after, List.foldl_concat]

end Connection

/-- On a fresh connection to a node that can be reached, fewer than `2 ^ 64` lookups send one
request each, numbered from 1 in their order, whatever the replies are.  A request tells what is
asked for, as the method and the parameters of two lookups are the same only if they ask for the
same; the number of a block is written in hexadecimal digits, from which it is parsed again.  A
lookup adds its own request to those of the lookups before, and it is answered by the reply to this
request, by nothing else, and as this reply says. -/
theorem lookups_answered {ls : List Lookup} {rs : List Reply} (few : ls.length < 2 ^ 64)
    (replies : ls.length ≤ rs.length) (final : ∀ r ∈ rs, r.Final) :
    let c := Connection.client
    let start := Connection.start true rs
    (c.after start ls).requests = (ls.zipIdx 1).map (fun p ↦ p.1.request p.2) ∧
    (∀ l l' : Lookup, l.call = l'.call ↔ l.asked = l'.asked) ∧
    (∀ n : Quantity 64, ∃ raw digits, (Lookup.blockByNumber n).call.2 = [.text raw, .bool true] ∧
      raw.toList = '0' :: 'x' :: digits ∧ Number.Writes 16 digits n.val ∧
      Quantity.parse raw = .ok n.val) ∧
    ∀ (before : List Lookup) (l : Lookup) (rest : List Lookup), ls = before ++ l :: rest →
      ∃ r, rs[before.length]? = some r ∧
        (c l (c.after start before)).2.requests =
          (c.after start before).requests ++ [l.request (before.length + 1)] ∧
        (c l (c.after start before)).1 = Connection.answer l (some r) ∧
        Answers l r (Connection.answer l (some r)) := by
  intro c start
  refine ⟨?_, fun l l' ↦ Lookup.call_eq_iff, fun n ↦ ?_, ?_⟩
  · rw [Connection.after_start rs ls few]
  · exact ⟨n.render, Nat.toDigits 16 n.val, rfl, by simp [Quantity.render, Number.hexDigits],
      Number.writes_toDigits (by decide) (by decide) n.val, n.parse_render (by decide)⟩
  · rintro before l rest rfl
    rw [List.length_append, List.length_cons] at few replies
    have there : before.length < rs.length := by omega
    have reply : rs[before.length]? = some rs[before.length] := List.getElem?_eq_getElem there
    have answered := @Connection.client_after rs before (by omega) l
    refine ⟨rs[before.length], reply, ?_, ?_, answers_answer l (final _ (List.getElem_mem there))⟩
    · refine (congrArg (fun p ↦ p.2.requests) answered).trans ?_
      have next : (before ++ [l]).length < 2 ^ 64 := by
        rw [List.length_append, List.length_singleton]
        omega
      rw [Connection.after_start rs before (by omega), Connection.after_start rs _ next]
      simp [List.zipIdx_append, Nat.add_comm 1]
    · exact (congrArg Prod.fst answered).trans (by rw [reply])

def pendingTransaction : Transaction :=
  { (default : Transaction) with
    hash := "0xa1", nonce := ⟨3, by decide⟩, sender := "0xf0", recipient := some "0xf1"
    value := ⟨2 ^ 64, by decide⟩, gas := ⟨25000, by decide⟩, input := "0x" }

/-- Replies of a node that is busy, that tells of an error beside a result, that has no block, and
that finds a transaction. -/
def mixedReplies : List Reply :=
  [⟨503, "busy"⟩,
    ⟨200, "\x7b\"result\":[],\"error\":\x7b\"code\":-32000,\"message\":\"busy\"\x7d\x7d"⟩,
    ⟨200, "\x7b\"id\":3,\"result\":null\x7d"⟩,
    ⟨201, "\x7b\"id\":4,\"result\":\x7b\"hash\":\"0xa1\",\"nonce\":\"0x3\",\"from\":\"0xf0\"," ++
      "\"to\":\"0xf1\",\"value\":\"0x10000000000000000\",\"gas\":\"0x61a8\"," ++
      "\"input\":\"0x\"\x7d\x7d"⟩]

/-- The lookups after one that failed have the next numbers.  One of them is told that there is no
block, and the last one gets its transaction. -/
theorem lookups_answered_mixedReplies :
    let n : Quantity 64 := ⟨255, by decide⟩
    let ls : List Lookup :=
      [.blockByNumber n, .transactionByHash "0xaa", .transactionsOf n, .transactionByHash "0xa1"]
    let start := Connection.start true mixedReplies
    ls.length < 2 ^ 64 ∧ ls.length ≤ mixedReplies.length ∧ (∀ r ∈ mixedReplies, r.Final) ∧
    (Connection.client.after start ls).requests = [(Lookup.blockByNumber n).request 1,
      (Lookup.transactionByHash "0xaa").request 2, (Lookup.blockByNumber n).request 3,
      (Lookup.transactionByHash "0xa1").request 4] ∧
    (Connection.client (.transactionByHash "0xaa")
      (Connection.client.after start [.blockByNumber n])).1 = .error (.refused (-32000) "busy") ∧
    (Connection.client (.transactionsOf n)
      (Connection.client.after start [.blockByNumber n, .transactionByHash "0xaa"])).1 =
        .error (.notFound "block 255") ∧
    (Connection.client (.transactionByHash "0xa1")
      (Connection.client.after start
        [.blockByNumber n, .transactionByHash "0xaa", .transactionsOf n])).1 =
          .ok pendingTransaction := by
  intro n ls start
  have final : ∀ r ∈ mixedReplies, r.Final := by decide
  obtain ⟨requests, -, -, answered⟩ :=
    @lookups_answered ls mixedReplies (by decide) (by decide) final
  refine ⟨by decide, by decide, final, requests, ?_, ?_, ?_⟩
  · obtain ⟨r, there, -, outcome, -⟩ :=
      answered [.blockByNumber n] (.transactionByHash "0xaa") _ rfl
    cases there
    exact outcome.trans (by decide +kernel)
  · obtain ⟨r, there, -, outcome, -⟩ :=
      answered [.blockByNumber n, .transactionByHash "0xaa"] (.transactionsOf n) _ rfl
    cases there
    exact outcome.trans (by decide +kernel)
  · obtain ⟨r, there, -, outcome, -⟩ :=
      answered [.blockByNumber n, .transactionByHash "0xaa", .transactionsOf n]
        (.transactionByHash "0xa1") _ rfl
    cases there
    exact outcome.trans (by decide +kernel)

end LedgerQuery.Node
