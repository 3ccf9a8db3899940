import Playgrounds.Store.Operation
import Std.Data.ExtTreeMap

/-!
# The store in memory

`Tables` holds the records of each kind under their ids, and `Tables.run` performs an operation on
them. The only failure is that a record is absent.
-/

namespace Playgrounds.Store

/-- Records under their ids. -/
abbrev Table (α : Type) := Std.ExtTreeMap String α

/-- The records of a store. -/
structure Tables where
  sessions : Table Session
  instances : Table Instance
  playgrounds : Table Playground

namespace Tables

/-- No record. -/
def empty : Tables := ⟨∅, ∅, ∅⟩

/-- The record of a table under an id. -/
def find {α : Type} (t : Table α) (kind : RecordKind) (id : String) : Outcome α :=
  match t[id]? with
  | some a => .ok a
  | none => .error (.notFound kind id)

/-- The instances of a session by name. -/
def instancesOf (t : Tables) (sessionId : String) : List Instance :=
  t.instances.values.filter (·.sessionId == sessionId)

/-- Performs an operation. -/
def run {α : Type} : Operation α → Tables → Outcome α × Tables
  | .sessionGet id, t => (find t.sessions .sessionRecord id, t)
  | .sessionPut s, t => (.ok (), { t with sessions := t.sessions.insert s.id s })
  | .sessionDelete id, t =>
    (.ok (), { t with
      sessions := t.sessions.erase id
      instances := t.instances.filter fun _ i => i.sessionId != id })
  | .sessions, t => (.ok t.sessions.values, t)
  | .instanceGet name, t => (find t.instances .instanceRecord name, t)
  | .instancePut i, t => (.ok (), { t with instances := t.instances.insert i.name i })
  | .instanceDelete name, t => (.ok (), { t with instances := t.instances.erase name })
  | .instancesOf sessionId, t => (.ok (t.instancesOf sessionId), t)
  | .playgroundPut p, t => (.ok (), { t with playgrounds := t.playgrounds.insert p.id p })
  | .playgroundGet id, t => (find t.playgrounds .playgroundRecord id, t)
  | .playgrounds, t => (.ok t.playgrounds.values, t)

end Tables

end Playgrounds.Store
