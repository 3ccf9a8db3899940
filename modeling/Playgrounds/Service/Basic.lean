import Playgrounds.Http.Api
import Playgrounds.Service.Time

/-!
# What can be asked of the service

* `Service.host` — the service as the directory needs it; time passes while the store is slow.
* `Service.answer` — answers a request.
* `Service.scheduleExisting`, `Service.listen`, `Service.shutDown` — the dispatcher.
* `Service.connect`, `Service.send`, `Service.takeOutgoing` — a client of a terminal.
* `Service.watch`, `Service.takeSeen` — watching a kind of events.
-/

namespace Playgrounds.Service

open Store

/-- Calls the store and waits for its answer. -/
def call {α : Type} (s : Service) (op : Operation α) : Outcome α × Service :=
  match s.begin op with
  | (.answered result, s) => (result, s)
  | (.delayed ms, s) => (s.elapse ms).perform op
  | (_, s) => (.error (.backend "no answer"), s)

/-- The service as the directory needs it. -/
def host : Host (StateM Service) where
  store op := fun s => s.call op
  announce e := fun s => ((), s.emit e)
  countCreated := fun s => ((), { s with created := s.created + 1 })
  report l := fun s => ((), s.report l)

/-- Answers a request. -/
def answer (s : Service) (r : Http.Request) : Http.Answer × Service :=
  Http.Api.answer host (fun s => (s.metrics.exposition, s)) 0 r s

/-! ## The dispatcher -/

/-- Schedules every instance of every stored session. -/
def scheduleExisting (s : Service) : Outcome Nat × Service :=
  Dispatcher.scheduleExisting host (fun i s => ((), s.schedule i)) s

/-- A new listener to announced instances. -/
def listen (s : Service) : Service :=
  let (subscription, bus) := s.bus.follow .instanceNew
  { s with
    bus
    listeners := s.listeners.insert s.nextId ⟨subscription, none⟩
    nextId := s.nextId + 1 }

/-- A new listener that hears nothing but that the bus is closed. -/
def listenClosed (s : Service) : Service :=
  let (subscription, bus) := s.bus.follow .instanceNew
  { s with
    bus := bus.unsubscribe subscription
    listeners := s.listeners.insert s.nextId ⟨subscription, none⟩
    nextId := s.nextId + 1 }

/-- Closes the roster, asks every worker to end, and waits until all have. -/
def shutDownWorkers (s : Service) : Service :=
  (s.adopt s.timers.shutDown).settle

/-- Shuts the dispatcher down: its listeners end, and the work of its tasks. -/
def shutDown (s : Service) : Service :=
  let s := { s with timers := s.timers.cancelToken .dispatcher }
  let s := s.tasks.foldl (fun s task => if task = .countdown then s.shutDownWorkers else s) s
  (s.report (Dispatcher.line .info "scheduler stopped" [])).settle

/-! ## Terminals and their clients -/

/-- A client goes on with a terminal of this target; the number is that of the connection. -/
def connect (s : Service) (t : TerminalTarget) : Nat × Service :=
  (s.nextId, { s with
    connections := s.connections.insert s.nextId ⟨t, none, [], [], false⟩
    nextId := s.nextId + 1 })

/-- Whether a connection takes further frames. -/
def isConnected (s : Service) (id : Nat) : Bool :=
  s.connections[id]?.any (!·.isOver)

/-- A client sends a frame. -/
def send (s : Service) (id : Nat) (f : Frame) : Service :=
  match s.connections[id]? with
  | some c =>
    { s with connections := s.connections.insert id { c with incoming := c.incoming ++ [f] } }
  | none => s

/-- What a client has been sent, and whether the terminal has ended. What was sent is handed
over. -/
def takeOutgoing (s : Service) (id : Nat) : (List String × Bool) × Service :=
  match s.connections[id]? with
  | some c =>
    ((c.outgoing.reverse, c.isOver),
      { s with connections := s.connections.insert id { c with outgoing := [] } })
  | none => (([], true), s)

/-! ## Watching -/

/-- Watches a kind of events; the number is that of the watcher. -/
def watch (s : Service) (kind : EventKind) : Nat × Service :=
  let (subscription, bus) := s.bus.follow kind
  (s.nextId, { s with
    bus
    watchers := s.watchers.insert s.nextId ⟨subscription, []⟩
    nextId := s.nextId + 1 })

/-- What a watcher has received since this was last asked. -/
def takeSeen (s : Service) (id : Nat) : List EventDelivery × Service :=
  match s.watchers[id]? with
  | some w => (w.seen.reverse, { s with watchers := s.watchers.insert id { w with seen := [] } })
  | none => ([], s)

/-- The runs of tasks noted since this was last asked. -/
def takeRuns (s : Service) : List TaskRun × Service :=
  (s.runs.reverse, { s with runs := [] })

end Playgrounds.Service
