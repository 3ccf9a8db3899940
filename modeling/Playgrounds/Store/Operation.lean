import Playgrounds.Record.Instance
import Playgrounds.Record.Playground
import Playgrounds.Record.Session
import Playgrounds.Store.Failure

/-!
# Operations on a store

* `Operation α` — an operation whose result, if it has one, is of type `α`.
* `Outcome α` — that result, or the failure.
* `Call α` — how a call for it begins.
* `Operation.name`, `Operation.key` — which operation it is, and which record it is about.
-/

namespace Playgrounds.Store

/-- An operation on a store, with the type of its result. -/
inductive Operation : Type → Type where
  | sessionGet (id : String) : Operation Session
  | sessionPut (s : Session) : Operation Unit
  /-- Removes a session and every instance that it owns. -/
  | sessionDelete (id : String) : Operation Unit
  | sessions : Operation (List Session)
  | instanceGet (name : String) : Operation Instance
  | instancePut (i : Instance) : Operation Unit
  | instanceDelete (name : String) : Operation Unit
  /-- The instances of a session by name; none for a session that is not there. -/
  | instancesOf (sessionId : String) : Operation (List Instance)
  | playgroundPut (p : Playground) : Operation Unit
  | playgroundGet (id : String) : Operation Playground
  | playgrounds : Operation (List Playground)

/-- The result of an operation, or its failure. -/
abbrev Outcome (α : Type) := Except Failure α

/-- How a call begins. -/
inductive Call (α : Type) where
  | answered (o : Outcome α)
  /-- The store answers so many milliseconds later, from what it holds then. -/
  | delayed (ms : Nat)
  | silent
  | brokenDown

namespace Operation

variable {α : Type}

/-- The name of an operation. -/
def name : Operation α → String
  | sessionGet _ => "session_get"
  | sessionPut _ => "session_put"
  | sessionDelete _ => "session_delete"
  | sessions => "session_get_all"
  | instanceGet _ => "instance_get"
  | instancePut _ => "instance_put"
  | instanceDelete _ => "instance_delete"
  | instancesOf _ => "instances_by_session"
  | playgroundPut _ => "playground_put"
  | playgroundGet _ => "playground_get"
  | playgrounds => "playground_get_all"

/-- The record that an operation is about; empty for an operation on all of them. -/
def key : Operation α → String
  | sessionGet id | sessionDelete id | instancesOf id | playgroundGet id => id
  | instanceGet name | instanceDelete name => name
  | sessionPut s => s.id
  | instancePut i => i.name
  | playgroundPut p => p.id
  | sessions | playgrounds => ""

end Operation

end Playgrounds.Store
