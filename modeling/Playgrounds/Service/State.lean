import Playgrounds.Bus.Events
import Playgrounds.Log.Line
import Playgrounds.Metrics
import Playgrounds.Record.Instance
import Playgrounds.Store.Backing
import Playgrounds.Store.FaultPlan
import Playgrounds.Terminal
import Playgrounds.Worker.Timers
import Std.Data.ExtTreeMap

/-!
# The state of the service

`Service` is the whole service between two steps: its clock and store, the bus, the parties at work
in the background, and what they have counted and reported.

* `Task` — what the dispatcher runs for an instance.
* `Listener`, `Connection`, `Watcher` — the parties besides the countdown workers.
* `Party` — names a party; `Service.ready` lists those that have something to do, in the order in
  which they got it.
-/

namespace Playgrounds

/-- What the dispatcher runs for an instance. -/
inductive Task where
  /-- Starts a countdown worker for the session of the instance. -/
  | countdown
  /-- Notes that it was run. -/
  | note (name : String)
  /-- Notes that it was run, and fails. -/
  | noteAndFail (name : String)
deriving DecidableEq, Repr

/-- The name of a task. -/
def Task.name : Task → String
  | countdown => "SessionTimer"
  | note name | noteAndFail name => name

/-- That a task was run. -/
structure TaskRun where
  task : String
  instanceName : String
  isCancelled : Bool
deriving DecidableEq, Repr

/-- An announced instance that is being loaded. -/
structure Loading where
  name : String
  /-- When the store will answer, if it ever does. -/
  answerAt : Option Nat
deriving DecidableEq, Repr

/-- A listener of the dispatcher to announced instances. -/
structure Listener where
  subscription : SubscriptionId
  loading : Option Loading
deriving DecidableEq, Repr

/-- The connection of a client to a terminal. -/
structure Connection where
  target : TerminalTarget
  /-- The terminal's subscription, once it has begun. -/
  subscription : Option SubscriptionId
  /-- The client's frames that the terminal has not taken, the oldest first. -/
  incoming : List Frame
  /-- The frames for the client, the latest first. -/
  outgoing : List String
  /-- Whether the terminal has ended. -/
  isOver : Bool
deriving Repr

/-- Somebody who watches a kind of events. -/
structure Watcher where
  subscription : SubscriptionId
  /-- What was received, the latest first. -/
  seen : List EventDelivery

/-- Names a party at work in the background. -/
inductive Party where
  | worker (session : String)
  | listener (id : Nat)
  | terminal (id : Nat)
  | watcher (id : Nat)
deriving DecidableEq, Repr

/-- The parties of one kind by their numbers. -/
abbrev Parties (α : Type) := Std.ExtTreeMap Nat α

/-- The clock of the countdown workers. -/
inductive Clock where
  /-- It showed this instant at the start, and moves with the service's time. -/
  | running (start : Instant)
  /-- It shows this instant. -/
  | standing (t : Instant)

/-- The whole service. -/
structure Service where
  /-- The milliseconds since the start. -/
  now : Nat
  clock : Clock
  tasks : List Task
  store : Store.Backing
  faults : Store.FaultPlan
  /-- How often a session was asked for. -/
  sessionReads : Nat
  bus : Bus
  timers : Timers
  listeners : Parties Listener
  listenersDone : Nat
  connections : Parties Connection
  watchers : Parties Watcher
  /-- The parties that have something to do. -/
  ready : List Party
  /-- The number of the next party. -/
  nextId : Nat
  /-- How many playgrounds have been created. -/
  created : Nat
  /-- The runs of the tasks that note them, the latest first. -/
  runs : List TaskRun
  /-- What was reported, the latest first. -/
  reports : List Log.Line

namespace Service

/-- A service at its start. -/
def start (clock : Clock) (readLimit : Option Nat) (tasks : List Task) (store : Store.Backing) :
    Service :=
  ⟨0, clock, tasks, store, .empty, 0, .empty, .empty readLimit, ∅, 0, ∅, ∅, [], 0, 0, [], []⟩

/-- What the clock of the workers shows. -/
def clockTime (s : Service) : Instant :=
  match s.clock with
  | .running start => start.plus s.now
  | .standing t => t

/-- What the service has counted. -/
def metrics (s : Service) : Metrics :=
  ⟨s.timers.tally, s.created⟩

/-- Reports a line. -/
def report (s : Service) (l : Log.Line) : Service :=
  { s with reports := l :: s.reports }

/-- Whether a subscription has something to receive. -/
def hears (s : Service) (id : SubscriptionId) : Bool :=
  s.bus.isReady id

/-- Whether a worker has something to do. -/
def workerIsReady (s : Service) (w : Worker) : Bool :=
  s.timers.move s.now w != .rest

/-- Whether a listener has something to do. -/
def listenerIsReady (s : Service) (l : Listener) : Bool :=
  match l.loading with
  | some loading => loading.answerAt.any (· ≤ s.now)
  | none => s.timers.staff.cancellations.covers .dispatcher || s.hears l.subscription

/-- Whether a terminal has something to do. -/
def terminalIsReady (s : Service) (c : Connection) : Bool :=
  !c.isOver && match c.subscription with
    | none => true
    | some id => !c.incoming.isEmpty || s.hears id

/-- The parties that have something to do. -/
def active (s : Service) : List Party :=
  (s.timers.workers.toList.filter fun (_, w) => s.workerIsReady w).map
      (fun (session, _) => .worker session)
    ++ (s.listeners.toList.filter fun (_, l) => s.listenerIsReady l).map
      (fun (id, _) => .listener id)
    ++ (s.connections.toList.filter fun (_, c) => s.terminalIsReady c).map
      (fun (id, _) => .terminal id)
    ++ (s.watchers.toList.filter fun (_, w) => s.hears w.subscription).map
      (fun (id, _) => .watcher id)

/-- Lists the parties that have got something to do after those that had it before. -/
def enlist (s : Service) : Service :=
  { s with ready := s.ready ++ s.active.filter fun p => !s.ready.contains p }

end Service

end Playgrounds
