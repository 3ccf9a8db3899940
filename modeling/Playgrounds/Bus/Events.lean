import Playgrounds.Bus.Basic
import Playgrounds.Record.Event

/-!
# Events on the bus

Each kind of event has its own topic, on which the event travels as its record.

* `Bus.emit` — announces an event; nobody needs to listen.
* `Bus.follow` — subscribes to a kind of events.
* `Bus.receiveEvent` — what such a subscription receives next.
* `Bus.receiveWithin` — the same for a reader that must give way after so many events.
-/

namespace Playgrounds

/-- What a subscription to events receives. -/
inductive EventDelivery where
  | event (e : Event)
  /-- A message that is no event. -/
  | unreadable (fault : Json.Fault)
  | lagged (count : Nat)
  | nothing
  | closed
deriving DecidableEq

namespace Bus

/-- Announces an event. -/
def emit (b : Bus) (e : Event) : Bus :=
  (b.publish e.kind.topic e.payload).2

/-- Subscribes to a kind of events. -/
def follow (b : Bus) (kind : EventKind) : SubscriptionId × Bus :=
  b.subscribe kind.topic

/-- The events in what a subscription receives. -/
def readDelivery : Delivery → EventDelivery
  | .message m =>
    match Event.ofPayload m.payload with
    | .ok e => .event e
    | .error fault => .unreadable fault
  | .lagged count => .lagged count
  | .nothing => .nothing
  | .closed => .closed

/-- What a subscription to events receives next. -/
def receiveEvent (b : Bus) (id : SubscriptionId) : EventDelivery × Bus :=
  let (delivery, b) := b.receive id
  (readDelivery delivery, b)

/-- How many receipts a reader has in one turn before it must give way to others. -/
def receiptsPerTurn : Nat := 128

/-- What a subscription to events receives next, by a reader that has `left` receipts left in its
turn, and how many it has left then. A reader with none left finds nothing. -/
def receiveWithin (b : Bus) (left : Nat) (id : SubscriptionId) : EventDelivery × Nat × Bus :=
  if left = 0 then (.nothing, 0, b)
  else
    match b.receiveEvent id with
    | (.nothing, b) => (.nothing, left, b)
    | (delivery, b) => (delivery, left - 1, b)

end Bus

end Playgrounds
