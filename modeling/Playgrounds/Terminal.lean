import Playgrounds.Bus.Events
import Playgrounds.Record.Instance

/-!
# Terminals

A terminal shows a client the countdown of its session, and announces what the client types as
input for the session's instance.

* `Frame` — what a client sends.
* `Terminal.onDelivery` — what a terminal does about what it receives from the bus.
* `Terminal.onFrame` — what it does about a frame of its client.
-/

namespace Playgrounds

/-- A frame that a client sends. What comes along with the last three is not looked at. -/
inductive Frame where
  | text (s : String)
  | binary (b : List UInt8)
  | ping
  | pong
  | close
deriving DecidableEq, Repr

/-- What a terminal does. -/
inductive Terminal.Action where
  /-- Sends the client a frame of text. -/
  | send (s : String)
  | announce (e : Event)
  | ignore
  /-- Ends the connection. -/
  | detach
deriving DecidableEq

namespace Terminal

/-- What a terminal does about what it receives from the bus: it passes on the events of its own
session, and it cannot go on past a message that is no event. -/
def onDelivery (t : TerminalTarget) : EventDelivery → Action
  | .event e => if e.id = t.sessionId then .send (Event.format.write e) else .ignore
  | .lagged _ | .nothing => .ignore
  | .unreadable _ | .closed => .detach

/-- Input for the instance of the terminal. -/
def input (t : TerminalTarget) (data : String) : Event :=
  ⟨.terminalInput, t.sessionId, [t.instanceName, data]⟩

/-- What a terminal does about a frame of its client. Bytes are taken for text as far as they are
one. -/
def onFrame (t : TerminalTarget) : Frame → Action
  | .text data => .announce (input t data)
  | .binary b => .announce (input t (Text.lossy b))
  | .ping | .pong => .ignore
  | .close => .detach

end Terminal

end Playgrounds
