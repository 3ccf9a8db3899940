import Playgrounds.Worker.Roster

/-!
# A crew at work

`Crew` is a staff whose workers do work of a few simple kinds, so that the roster can be watched:
who is launched, who ends and when.

* `Crew.launch`, `Crew.release`, `Crew.cancel`, `Crew.shutDown` — what can be asked of a crew.
* `Crew.settle` — everybody works until nobody can go on without time passing.
* `Crew.pass` — time passes.
-/

namespace Playgrounds

/-- What a worker does. -/
inductive Work where
  /-- Waits until it is cancelled. -/
  | untilCancelled
  /-- Waits until it is released. -/
  | untilReleased
  /-- Sleeps for a time. -/
  | sleep
  /-- Ends at once, well or not. -/
  | nothing
deriving DecidableEq, Repr

/-- A worker of the crew. -/
structure CrewMember where
  session : String
  token : Token
  work : Work
  /-- When it began, if it has. -/
  since : Option Nat
  isReleased : Bool
deriving Repr

/-- A crew. -/
structure Crew where
  staff : Staff
  members : List CrewMember
  /-- The time in milliseconds. -/
  now : Nat

namespace Crew

/-- How long a sleeper sleeps, in milliseconds. -/
def sleepMs : Nat := 10000

/-- A crew of nobody. -/
def empty : Crew := ⟨.empty, [], 0⟩

/-- Launches a worker, and tells whether it was launched. -/
def launch (c : Crew) (session : String) (parent : Token) (work : Work) : Bool × Crew :=
  match c.staff.launch session parent with
  | (some token, staff) =>
    (true, { c with staff, members := c.members ++ [⟨session, token, work, none, false⟩] })
  | (none, staff) => (false, { c with staff })

/-- Releases the worker of a session if it waits to be released. -/
def release (c : Crew) (session : String) : Crew :=
  { c with members := c.members.map fun m =>
      if m.session == session && m.since.isSome then { m with isReleased := true } else m }

/-- Asks the worker of a session to end, if there is one. -/
def cancel (c : Crew) (session : String) : Bool × Crew :=
  let (found, staff) := c.staff.cancel session
  (found, { c with staff })

/-- Cancels a token that workers may descend from. -/
def cancelParent (c : Crew) (parent : Token) : Crew :=
  { c with staff := c.staff.cancelToken parent }

/-- Closes the roster and asks everyone to end. -/
def shutDown (c : Crew) : Crew :=
  { c with staff := c.staff.shutDown }

/-- Whether a worker is done with its work, having begun by now at the latest. -/
def isDone (c : Crew) (m : CrewMember) : Bool :=
  match m.work with
  | .untilCancelled => c.staff.cancellations.covers m.token
  | .untilReleased => m.isReleased
  | .sleep => m.since.getD c.now + sleepMs ≤ c.now
  | .nothing => true

/-- Everybody works until nobody can go on without time passing. -/
def settle (c : Crew) : Crew :=
  let (done, rest) := c.members.partition c.isDone
  { c with
    staff := done.foldl (fun s m => s.leave m.session) c.staff
    members := rest.map fun m => { m with since := some (m.since.getD c.now) } }

/-- Time passes for a crew at rest. -/
def pass (c : Crew) (ms : Nat) : Crew :=
  let c := c.settle
  { c with now := c.now + ms }

end Crew

end Playgrounds
