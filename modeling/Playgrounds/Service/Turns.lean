import Playgrounds.Service.Calls

/-!
# Turns in the background

In its turn a party does all that it can do without time passing.

* `Service.workerTurn` — a countdown worker: it makes all the moves that it can.
* `Service.listenerTurn` — a listener: it schedules the instances that have been announced.
* `Service.terminalTurn` — a terminal: it passes events on and takes its client's frames.
* `Service.watcherTurn` — a watcher.
-/

namespace Playgrounds.Service

open Store

/-! ## Countdown workers -/

/-- What the worker of a session gets to see for a move. The clock is read after the store. -/
def sight (s : Service) (session : String) : Worker.Move → Sight × Service
  | .ask _ =>
    let (call, s) := s.begin (.sessionGet session)
    (.call call s.clockTime, s)
  | .hear _ =>
    let (read, s) := s.perform (.sessionGet session)
    (.answer read s.clockTime, s)
  | _ => (.nothing, s)

/-- The worker of a session makes its moves, `fuel` at most. -/
def workerSteps (session : String) : (fuel : Nat) → Service → Service
  | 0, s => s
  | fuel + 1, s =>
    match s.timers.workers[session]? with
    | some w =>
      let (sight, s) := s.sight session (s.timers.move s.now w)
      workerSteps session fuel (s.adopt (s.timers.act session s.now sight))
    | none => s

/-- The turn of the worker of a session. At one time it has three moves at most: it begins, asks
and hears, or it hears, asks and hears again. -/
def workerTurn (s : Service) (session : String) : Service :=
  workerSteps session 3 s

/-! ## Listeners -/

/-- A listener ends. -/
def endListener (s : Service) (id : Nat) : Service :=
  { s with listeners := s.listeners.erase id, listenersDone := s.listenersDone + 1 }

/-- A listener waits for the store, or for the next announcement. -/
def setLoading (s : Service) (id : Nat) (l : Listener) (loading : Option Loading) : Service :=
  { s with listeners := s.listeners.insert id { l with loading } }

/-- An announced instance has been loaded, or not. -/
def loaded (s : Service) : Outcome Instance → Service
  | .ok i => s.schedule i
  | .error _ => s

/-- A listener loads an announced instance. -/
def load (s : Service) (id : Nat) (l : Listener) (name : String) : Service :=
  match s.begin (.instanceGet name) with
  | (.answered found, s) => s.loaded found
  | (.delayed ms, s) => s.setLoading id l (some ⟨name, some (s.now + ms)⟩)
  | (.silent, s) => s.setLoading id l (some ⟨name, none⟩)
  | (.brokenDown, s) => s.endListener id

/-- A listener takes what it is waiting for, if it is there. -/
def listenerStep (s : Service) (id : Nat) (l : Listener) : Service :=
  match l.loading with
  | some loading =>
    if loading.answerAt.any (· ≤ s.now) then
      let (found, s) := s.perform (.instanceGet loading.name)
      (s.setLoading id l none).loaded found
    else s
  | none =>
    if s.timers.staff.cancellations.covers .dispatcher then s.endListener id
    else
      let (delivery, bus) := s.bus.receiveEvent l.subscription
      let s := { s with bus }
      match Reaction.of delivery with
      | .load name => s.load id l name
      | .ignore => s
      | .stop => s.endListener id

/-- The turn of a listener: as many steps as it can take. -/
def listenerSteps (id : Nat) : (fuel : Nat) → Service → Service
  | 0, s => s
  | fuel + 1, s =>
    match s.listeners[id]? with
    | some l =>
      if s.listenerIsReady l then listenerSteps id fuel (s.listenerStep id l) else s
    | none => s

/-- The turn of a listener. -/
def listenerTurn (s : Service) (id : Nat) : Service :=
  match s.listeners[id]? with
  | some l => listenerSteps id (s.bus.pending l.subscription + 3) s
  | none => s

/-! ## Terminals -/

/-- A terminal ends. -/
def endTerminal (s : Service) (id : Nat) (c : Connection) : Service :=
  { s with
    connections := s.connections.insert id { c with isOver := true, incoming := [] }
    bus := match c.subscription with
      | some subscription => s.bus.unsubscribe subscription
      | none => s.bus }

/-- A terminal acts. -/
def act (s : Service) (id : Nat) (c : Connection) : Terminal.Action → Service
  | .send frame =>
    { s with connections := s.connections.insert id { c with outgoing := frame :: c.outgoing } }
  | .announce e => { s with connections := s.connections.insert id c }.emit e
  | .ignore => { s with connections := s.connections.insert id c }
  | .detach => s.endTerminal id c

/-- A terminal takes what there is for it: events first, then frames of its client. -/
def terminalStep (s : Service) (id : Nat) (c : Connection) : Service :=
  match c.subscription with
  | none =>
    let (subscription, bus) := s.bus.follow .sessionTimer
    { s with
      bus
      connections := s.connections.insert id { c with subscription := some subscription } }
  | some subscription =>
    if s.hears subscription then
      let (delivery, bus) := s.bus.receiveEvent subscription
      { s with bus }.act id c (Terminal.onDelivery c.target delivery)
    else
      match c.incoming with
      | frame :: rest => s.act id { c with incoming := rest } (Terminal.onFrame c.target frame)
      | [] => s

/-- The turn of a terminal: as many steps as it can take. -/
def terminalSteps (id : Nat) : (fuel : Nat) → Service → Service
  | 0, s => s
  | fuel + 1, s =>
    match s.connections[id]? with
    | some c => if s.terminalIsReady c then terminalSteps id fuel (s.terminalStep id c) else s
    | none => s

/-- The turn of a terminal. -/
def terminalTurn (s : Service) (id : Nat) : Service :=
  match s.connections[id]? with
  | some c =>
    terminalSteps id (c.incoming.length + (c.subscription.map s.bus.pending).getD 0 + 3) s
  | none => s

/-! ## Watchers -/

/-- A watcher takes what there is for it. -/
def watcherSteps (id : Nat) : (fuel : Nat) → Service → Service
  | 0, s => s
  | fuel + 1, s =>
    match s.watchers[id]? with
    | some w =>
      if s.hears w.subscription then
        let (delivery, bus) := s.bus.receiveEvent w.subscription
        watcherSteps id fuel { s with
          bus
          watchers := s.watchers.insert id { w with seen := delivery :: w.seen } }
      else s
    | none => s

/-- The turn of a watcher. -/
def watcherTurn (s : Service) (id : Nat) : Service :=
  match s.watchers[id]? with
  | some w => watcherSteps id (s.bus.pending w.subscription + 1) s
  | none => s

/-- The turn of a party. -/
def turn (s : Service) : Party → Service
  | .worker session => s.workerTurn session
  | .listener id => s.listenerTurn id
  | .terminal id => s.terminalTurn id
  | .watcher id => s.watcherTurn id

end Playgrounds.Service
