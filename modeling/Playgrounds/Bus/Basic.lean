import Playgrounds.Bus.Channel
import Std.Data.ExtTreeMap

/-!
# The bus

Messages are published on topics, and whoever subscribes to a topic receives what is published on
it from then on. There is one channel for each topic.

* `Bus.subscribe`, `Bus.unsubscribe` — a subscription begins or ends.
* `Bus.publish` — a message for the subscribers of a topic, and how many they are.
* `Bus.receive` — what a subscription receives next.
* `Bus.close` — nothing more is published; what is pending is still received.
-/

namespace Playgrounds

/-- A message on a topic. -/
structure Message where
  topic : String
  payload : List UInt8
deriving DecidableEq, Repr

/-- A subscription to a topic, with the number of the next message that it waits for. -/
structure Subscription where
  topic : String
  position : Nat
deriving DecidableEq, Repr

/-- The number by which a subscriber knows its subscription. -/
abbrev SubscriptionId := Nat

/-- A bus. -/
structure Bus where
  channels : Std.ExtTreeMap String (Channel (List UInt8))
  subscriptions : Std.ExtTreeMap SubscriptionId Subscription
  nextId : SubscriptionId
  isOpen : Bool

/-- What a subscription receives. -/
inductive Delivery where
  | message (m : Message)
  | lagged (count : Nat)
  /-- There is no message yet. -/
  | nothing
  /-- There is no message and there will be none. -/
  | closed
deriving DecidableEq, Repr

namespace Bus

/-- A bus on which nothing has happened. -/
def empty : Bus := ⟨∅, ∅, 0, true⟩

/-- A bus that was never open. -/
def refusing : Bus := { empty with isOpen := false }

/-- The channel of a topic. -/
def channel (b : Bus) (topic : String) : Channel (List UInt8) :=
  b.channels[topic]?.getD .empty

/-- How many subscriptions a topic has. -/
def audience (b : Bus) (topic : String) : Nat :=
  b.subscriptions.values.countP (·.topic == topic)

/-- A new subscription to a topic. -/
def subscribe (b : Bus) (topic : String) : SubscriptionId × Bus :=
  (b.nextId, { b with
    subscriptions := b.subscriptions.insert b.nextId ⟨topic, (b.channel topic).sent⟩
    nextId := b.nextId + 1 })

/-- Ends a subscription. -/
def unsubscribe (b : Bus) (id : SubscriptionId) : Bus :=
  { b with subscriptions := b.subscriptions.erase id }

/-- Publishes a message, and tells how many subscriptions it reaches. Where there are none the
message is gone. -/
def publish (b : Bus) (topic : String) (payload : List UInt8) : Nat × Bus :=
  let reached := if b.isOpen then b.audience topic else 0
  if reached = 0 then (0, b)
  else (reached, { b with
    channels := b.channels.insert topic ((b.channel topic).send payload) })

/-- Closes the bus. -/
def close (b : Bus) : Bus :=
  { b with isOpen := false }

/-- What a subscription receives next. One that has ended receives that the bus is closed. -/
def receive (b : Bus) (id : SubscriptionId) : Delivery × Bus :=
  match b.subscriptions[id]? with
  | none => (.closed, b)
  | some s =>
    let (received, position) := (b.channel s.topic).receive s.position
    let b := { b with subscriptions := b.subscriptions.insert id { s with position } }
    match received with
    | .message payload => (.message ⟨s.topic, payload⟩, b)
    | .lagged count => (.lagged count, b)
    | .nothing => (if b.isOpen then .nothing else .closed, b)

/-- How many messages a subscription has not received, those that are lost to it included. -/
def pending (b : Bus) (id : SubscriptionId) : Nat :=
  match b.subscriptions[id]? with
  | none => 0
  | some s => (b.channel s.topic).sent - s.position

/-- Whether a subscription would receive something now, if only that the bus is closed. -/
def isReady (b : Bus) (id : SubscriptionId) : Bool :=
  !b.isOpen || !b.subscriptions.contains id || b.pending id != 0

end Bus

end Playgrounds
