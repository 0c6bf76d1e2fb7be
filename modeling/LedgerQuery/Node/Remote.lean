import LedgerQuery.Node.Endpoint
import LedgerQuery.Node.JsonRpc

/-!
# A node behind a connection

Every lookup takes the next number and sends one request, which is answered by the next reply. A
node that cannot be reached gets no request and gives no reply.
-/

namespace LedgerQuery.Node

/-- The reply that ends a request, after interim replies were passed over and redirections were
followed.  A body is a text: bodies that are not written in UTF-8 are left out. -/
structure Reply where
  status : Nat
  body : String
deriving DecidableEq, Repr

/-- Whether a reply has a status of success.  Any other one is taken for a failure of transport.
This is what a client makes of the statuses of errors, from 400 on; those below 200 and from 300 to
399 are not told apart from them, as they do not stand for the end of a request. -/
def Reply.succeeded (r : Reply) : Bool := 200 ≤ r.status && r.status < 300

/-- A connection: the number of the next request, the requests sent so far, and the replies still
to come. -/
structure Connection where
  reachable : Bool
  nextId : Nat
  requests : List Request
  replies : List Reply

namespace Connection

def start (reachable : Bool) (replies : List Reply) : Connection := ⟨reachable, 1, [], replies⟩

/-- The answer to a lookup by a reply; without a reply there is none. -/
def answer (l : Lookup) : Option Reply → Except Failure l.Answer
  | some r => if r.succeeded then l.ofBody r.body else .error .transport
  | none => .error .transport

def client : Client Connection := fun l c =>
  let nextId := (c.nextId + 1) % 2 ^ 64
  if c.reachable then
    (answer l c.replies.head?,
      { c with
        nextId := nextId
        requests := c.requests ++ [l.request c.nextId]
        replies := c.replies.tail })
  else (.error .transport, { c with nextId := nextId })

end Connection

end LedgerQuery.Node
