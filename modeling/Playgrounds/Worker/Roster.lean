import Playgrounds.Worker.Token
import Std.Data.ExtTreeMap

/-!
# The roster of workers

There is at most one worker for each session. A worker is entered before it starts and leaves the
roster when it ends, however it ends.

* `Roster.admit?` — enters a worker, unless the session has one or the roster is closed.
* `Roster.leave` — a worker has ended.
* `Roster.cancel`, `Roster.close` — ask one worker, or all of them, to end. A closed roster admits
  nobody, and it is drained when everyone who was admitted has left.
-/

namespace Playgrounds

/-- The workers that have been admitted and have not ended. -/
structure Roster where
  /-- The token of the worker of each session. -/
  entries : Std.ExtTreeMap String Token
  isClosed : Bool
  /-- How many workers have been launched. -/
  launched : Nat
  /-- How many admitted workers have not yet ended. -/
  outstanding : Nat

namespace Roster

/-- Nobody has been admitted. -/
def empty : Roster := ⟨∅, false, 0, 0⟩

/-- Whether the session has a worker. -/
def contains (r : Roster) (session : String) : Bool :=
  r.entries.contains session

/-- Enters a worker with its token. -/
def admit? (r : Roster) (session : String) (token : Token) : Option Roster :=
  if r.contains session || r.isClosed then none
  else some { r with
    entries := r.entries.insert session token
    outstanding := r.outstanding + 1 }

/-- An admitted worker has been launched. -/
def countLaunch (r : Roster) : Roster :=
  { r with launched := r.launched + 1 }

/-- The worker of a session has ended. -/
def leave (r : Roster) (session : String) : Roster :=
  { r with entries := r.entries.erase session, outstanding := r.outstanding - 1 }

/-- Admits no more workers. -/
def close (r : Roster) : Roster :=
  { r with isClosed := true }

/-- Whether everyone who was admitted has left, and nobody can follow. -/
def isDrained (r : Roster) : Bool :=
  r.isClosed && r.outstanding == 0

end Roster

/-- A roster together with the tokens that its workers obey. -/
structure Staff where
  roster : Roster
  cancellations : Cancellations

namespace Staff

/-- Nobody has been admitted and nothing has been cancelled. -/
def empty : Staff := ⟨.empty, .none⟩

/-- Enters a worker for a session: its token, if it was entered, is a new child of `parent`. -/
def enter (s : Staff) (session : String) (parent : Token) : Option Token × Staff :=
  let (token, cancellations) := s.cancellations.child parent
  match s.roster.admit? session token with
  | some roster => (some token, ⟨roster, cancellations⟩)
  | none => (none, s)

/-- A worker that was entered has been built, and is launched. -/
def countLaunch (s : Staff) : Staff :=
  { s with roster := s.roster.countLaunch }

/-- Launches a worker for a session: enters it, and builds it with its token. -/
def launch (s : Staff) (session : String) (parent : Token) : Option Token × Staff :=
  match s.enter session parent with
  | (some token, s) => (some token, s.countLaunch)
  | (none, s) => (none, s)

/-- Asks the worker of a session to end, if there is one. -/
def cancel (s : Staff) (session : String) : Bool × Staff :=
  match s.roster.entries[session]? with
  | some token => (true, { s with cancellations := s.cancellations.cancel token })
  | none => (false, s)

/-- Cancels a token that is not a worker's own. -/
def cancelToken (s : Staff) (t : Token) : Staff :=
  { s with cancellations := s.cancellations.cancel t }

/-- The worker of a session has ended. -/
def leave (s : Staff) (session : String) : Staff :=
  { s with roster := s.roster.leave session }

/-- Closes the roster and asks everyone to end. -/
def shutDown (s : Staff) : Staff :=
  ⟨s.roster.close, s.roster.entries.values.foldl Cancellations.cancel s.cancellations⟩

end Staff

end Playgrounds
