import Playgrounds.Bus.Events
import Playgrounds.Directory.Basic

/-!
# The dispatcher

The dispatcher brings every instance to the attention of each task.

* `Dispatcher.scheduleExisting` — every instance of every stored session, as at the start.
* `Reaction` — what the dispatcher does about an announcement, and `Reaction.of` which.
-/

namespace Playgrounds

/-- What the dispatcher does about what it receives. -/
inductive Reaction where
  /-- Load the instance of this name, and schedule it. -/
  | load (name : String)
  | ignore
  | stop
deriving DecidableEq, Repr

namespace Reaction

/-- The reaction to what the dispatcher's subscription receives: an announcement names the instance
in its first argument, and what is none is passed over. -/
def of : EventDelivery → Reaction
  | .event e =>
    match e.args with
    | name :: _ => load name
    | [] => ignore
  | .closed => stop
  | _ => ignore

end Reaction

namespace Dispatcher

variable {m : Type → Type} [Monad m]

/-- A line of the dispatcher. -/
def line (level : Log.Level) (message : String) (values : List (String × String)) : Log.Line :=
  ⟨level, .dispatcher, message, values⟩

/-- Schedules the instances of the sessions in order, and counts them. -/
def scheduleSessions (host : Host m) (schedule : Instance → m Unit) :
    List Session → Nat → m (Store.Outcome Nat)
  | [], count => return .ok count
  | s :: rest, count => do
    match ← host.store (.instancesOf s.id) with
    | .error f => return .error f
    | .ok instances =>
      instances.forM schedule
      scheduleSessions host schedule rest (count + instances.length)

/-- Schedules every instance of every stored session, and tells how many they are. -/
def scheduleExisting (host : Host m) (schedule : Instance → m Unit) : m (Store.Outcome Nat) := do
  match ← host.store .sessions with
  | .error f => return .error f
  | .ok sessions =>
    let result ← scheduleSessions host schedule sessions 0
    if let .ok count := result then
      host.report
        (line .info "scheduled existing instances" [("scheduled", Decimal.text count)])
    return result

end Dispatcher

end Playgrounds
