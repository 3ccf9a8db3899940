import Playgrounds.Store.KeySpace

/-!
# Talking to a store server

A client's operation is a dialogue: commands and transactions, each chosen after the answers so far.

* `Dialogue α` — a dialogue that ends with an `α`.
* `Dialogue.run` — the dialogue with a server that nobody else talks to and that has no faults.
* `Skipped` — a record that a listing passed over; the dialogue reports it as it goes.
-/

namespace Playgrounds.Store

/-- A record that a listing passed over because it cannot be read. -/
structure Skipped where
  /-- The key of the index that names the record. -/
  index : String
  id : String
deriving DecidableEq, Repr

/-- A dialogue with a store server. -/
inductive Dialogue (α : Type) : Type where
  | done (a : α)
  | send (c : Command) (next : Reply → Dialogue α)
  /-- A transaction; the server may refuse it as a whole. -/
  | transact (cs : List Command) (next : Except ErrorReply (List Reply) → Dialogue α)
  | report (s : Skipped) (next : Dialogue α)

namespace Dialogue

variable {α β : Type}

/-- One dialogue after another. -/
protected def bind : Dialogue α → (α → Dialogue β) → Dialogue β
  | done a, f => f a
  | send c next, f => send c fun r => (next r).bind f
  | transact cs next, f => transact cs fun r => (next r).bind f
  | report s next, f => report s (next.bind f)

instance : Monad Dialogue where
  pure := done
  bind := Dialogue.bind

/-- The dialogue with a server that has this key space and names members in these orders. -/
def run : Dialogue α → (Nat → Listing) → KeySpace → α × KeySpace
  | done a, _, k => (a, k)
  | send c next, orders, k =>
    let (reply, k) := KeySpace.run (orders 0) c k
    (next reply).run (c.later orders) k
  | transact cs next, orders, k =>
    let (replies, k) := KeySpace.runAll orders cs k
    (next (.ok replies)).run (Command.laterAll cs orders) k
  | report _ next, orders, k => next.run orders k

end Dialogue

end Playgrounds.Store
