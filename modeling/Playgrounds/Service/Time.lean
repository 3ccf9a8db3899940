import Playgrounds.Service.Turns

/-!
# Time in the service

* `Service.settle` — the parties take turns until nobody can do anything without time passing.
* `Service.elapse` — time passes; whoever waits for a moment on the way has its turn at that moment.
-/

namespace Playgrounds.Service

/-- An upper bound on the turns that are taken before everybody is at rest. -/
def turnsBound (s : Service) : Nat :=
  let pending := s.listeners.foldl (fun n _ l => n + s.bus.pending l.subscription) 0
  let frames := s.connections.foldl (fun n _ c => n + c.incoming.length) 0
  let parties :=
    s.timers.workers.size + s.listeners.size + s.connections.size + s.watchers.size
  let sources :=
    s.ready.length + s.timers.workers.size + pending * (s.tasks.length + 1) + frames + 1
  (sources + parties) * (parties + sources + 2)

/-- The first party that has something to do takes its turn. -/
def step (s : Service) : Service :=
  match s.ready with
  | [] => s
  | p :: rest => ({ s with ready := rest }.turn p).enlist

/-- Turns are taken, `fuel` at most. -/
def steps : (fuel : Nat) → Service → Service
  | 0, s => s
  | fuel + 1, s => if s.ready.isEmpty then s else steps fuel s.step

/-- Everybody does what can be done without time passing. -/
def settle (s : Service) : Service :=
  let s := s.enlist
  steps s.turnsBound s

/-- The earlier of two moments. -/
def earlier : Option Nat → Option Nat → Option Nat
  | some a, some b => some (min a b)
  | some a, none => some a
  | none, b => b

/-- The first moment after now for which somebody waits. -/
def nextWake (s : Service) : Option Nat :=
  let later (t : Option Nat) : Option Nat := t.bind fun t => if s.now < t then some t else none
  let ofWorkers :=
    s.timers.workers.values.foldl (fun first w => earlier first (later (w.wakeAt? s.now))) none
  s.listeners.values.foldl
    (fun first l => earlier first (later (l.loading.bind (·.answerAt)))) ofWorkers

/-- Time passes from `now` to `target`. -/
def elapseFrom (s : Service) (now target : Nat) : Service :=
  let s := s.settle
  match s.nextWake with
  | some t =>
    if now < t ∧ t ≤ target then elapseFrom { s with now := t } t target
    else { s with now := target }.settle
  | none => { s with now := target }.settle
termination_by target - now

/-- Time passes. -/
def elapse (s : Service) (ms : Nat) : Service :=
  s.elapseFrom s.now (s.now + ms)

end Playgrounds.Service
