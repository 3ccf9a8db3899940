/-!
# Log lines

The service reports what it does in lines: a level, the part of the service that speaks, a message
and named values.

* `Level` — how grave a line is.
* `Line` — a line; `Line.text` is how it is written.
-/

namespace Playgrounds.Log

/-- How grave a line is. -/
inductive Level where
  | error
  | warn
  | info
  | debug
  | trace
deriving DecidableEq, Repr

namespace Level

/-- The name of a level as it is written. -/
def name : Level → String
  | error => "ERROR"
  | warn => "WARN"
  | info => "INFO"
  | debug => "DEBUG"
  | trace => "TRACE"

/-- The place of a level, the gravest first. -/
def rank : Level → Nat
  | error => 1
  | warn => 2
  | info => 3
  | debug => 4
  | trace => 5

end Level

/-- The parts of the service that speak. -/
inductive Speaker where
  | service
  | logging
  | storeChoice
  | directory
  | dispatcher
  | countdown
  | roster
  | storeServer
deriving DecidableEq, Repr

/-- The name of a part of the service, by which lines are selected. -/
def Speaker.target : Speaker → String
  | service => "playground_road"
  | logging => "playground_road::telemetry"
  | storeChoice => "playground_road::storage"
  | directory => "playground_road::platform"
  | dispatcher => "playground_road::scheduler"
  | countdown => "playground_road::task::session_timer"
  | roster => "playground_road::task::registry"
  | storeServer => "playground_store::redis_store"

/-- A log line. -/
structure Line where
  level : Level
  speaker : Speaker
  message : String
  values : List (String × String)
deriving DecidableEq, Repr

/-- How a line is written. -/
def Line.text (l : Line) : String :=
  l.values.foldl (fun text (name, value) => text ++ " " ++ name ++ "=" ++ value)
    (l.level.name ++ " " ++ l.message)

end Playgrounds.Log
