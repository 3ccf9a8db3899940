import Playgrounds.Json.Record

/-!
# Events

What happens in the service is announced as events, one topic for each kind.

* `EventKind.topic` — the name of a kind, which is also its topic on the bus.
* `Event.format` — the record of an event.
-/

namespace Playgrounds

/-- The kinds of events. -/
inductive EventKind where
  | playgroundNew
  | sessionTimer
  | instanceNew
  | terminalInput
deriving DecidableEq, Repr

namespace EventKind

open Json

/-- Every kind. -/
def all : List EventKind :=
  [playgroundNew, sessionTimer, instanceNew, terminalInput]

/-- No kind is missing from the list. -/
theorem mem_all (k : EventKind) : k ∈ all := by
  cases k <;> decide

/-- The name of a kind and of its topic. -/
def topic : EventKind → String
  | playgroundNew => "playground new"
  | sessionTimer => "session timer"
  | instanceNew => "instance new"
  | terminalInput => "instance terminal in"

/-- A kind as its name. -/
def format : Format EventKind :=
  .choice all topic

end EventKind

/-- Something that has happened. The id names the playground of a `playgroundNew` event and the
session of any other. -/
structure Event where
  kind : EventKind
  id : String
  args : List String
deriving DecidableEq

namespace Event

open Json

/-- The fields of an event's record. -/
def fields : Fields [EventKind, String, List String] :=
  .cons ⟨"type", EventKind.format, none⟩ <|
  .cons ⟨"id", .text, none⟩ <|
  .cons ⟨"args", .list .text, some []⟩ .nil

/-- The record of an event. -/
def format : Format Event :=
  fields.format.along (fun e => (e.kind, e.id, e.args, ()))
    (fun (kind, id, args, ()) => ⟨kind, id, args⟩)

/-- The bytes that travel on the bus. -/
def payload (e : Event) : List UInt8 :=
  Text.bytes (format.write e)

/-- The event that bytes from the bus spell. -/
def ofPayload (b : List UInt8) : Except Fault Event :=
  format.read b

end Event

end Playgrounds
