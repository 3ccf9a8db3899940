import Playgrounds.Dispatcher
import Playgrounds.Service.State

/-!
# Calls of the store and the bus

* `Service.perform` — an operation on the store itself; `Service.begin` — a call as the planned
  faults have it begin.
* `Service.emit` — announces an event.
* `Service.adopt` — takes over what has been done to the timers, and passes on what they say.
* `Service.runTask`, `Service.schedule` — one task, or every task, for an instance.
-/

namespace Playgrounds.Service

open Store

/-- The line that reports a record that a listing passed over. -/
def skippedLine (skipped : Skipped) : Log.Line :=
  ⟨.warn, .storeServer, "skipping unreadable record",
    [("index", Text.quoted skipped.index), ("id", skipped.id)]⟩

/-- Performs an operation on the store itself. -/
def perform {α : Type} (s : Service) (op : Operation α) : Outcome α × Service :=
  let ((result, skipped), store) := s.store.run op
  (result, skipped.foldl (fun s k => s.report (skippedLine k)) { s with store })

/-- Counts a call that asks for a session. -/
def countRead {α : Type} (s : Service) : Operation α → Service
  | .sessionGet _ => { s with sessionReads := s.sessionReads + 1 }
  | _ => s

/-- Begins a call of the store. -/
def begin {α : Type} (s : Service) (op : Operation α) : Call α × Service :=
  let s := s.countRead op
  let (planned, faults) := s.faults.begin op
  let s := { s with faults }
  match planned with
  | some call => (call, s)
  | none =>
    let (result, s) := s.perform op
    (.answered result, s)

/-- Announces an event. -/
def emit (s : Service) (e : Event) : Service :=
  { s with bus := s.bus.emit e }

/-- Passes on what the workers let others know. -/
def tell (s : Service) : Notice → Service
  | .event e => s.emit e
  | .line l => s.report l

/-- What has been done to the timers is passed on. -/
def adopt (s : Service) (change : Timers × List Notice) : Service :=
  change.2.foldl tell { s with timers := change.1 }

/-- Notes that a task was run. -/
def note (s : Service) (name : String) (i : Instance) (token : Token) : Service :=
  { s with runs := ⟨name, i.name, s.timers.staff.cancellations.covers token⟩ :: s.runs }

/-- Runs a task for an instance, with a token that the task obeys. -/
def runTask (s : Service) (task : Task) (i : Instance) (token : Token) :
    Except DetachedInstance Unit × Service :=
  match task with
  | .countdown =>
    let (result, change) := s.timers.run i token
    (result, s.adopt change)
  | .note name => (.ok (), s.note name i token)
  | .noteAndFail name => (.error ⟨i.name⟩, s.note name i token)

/-- Runs a task for the dispatcher. That it fails is only reported. -/
def dispatch (s : Service) (i : Instance) (task : Task) : Service :=
  let (token, timers) := s.timers.newChild .dispatcher
  let s := { s with timers }
  match s.runTask task i token with
  | (.ok (), s) => s
  | (.error e, s) =>
    s.report (Dispatcher.line .warn "task failed"
      [("task", Text.quoted task.name), ("instance", i.name), ("error", e.message)])

/-- Runs every task for an instance. -/
def schedule (s : Service) (i : Instance) : Service :=
  s.tasks.foldl (fun s task => s.dispatch i task) s

end Playgrounds.Service
