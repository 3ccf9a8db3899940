import Playgrounds.Worker.Basic

/-!
# What countdown workers count

`Tally` holds the counts of the workers: how many have begun, are at work, and have ended for each
reason, how many countdowns they announced, and how many of their reads failed.
-/

namespace Playgrounds

/-- The counts of the countdown workers. -/
structure Tally where
  started : Nat
  active : Nat
  expired : Nat
  cancelled : Nat
  sessionDeleted : Nat
  aborted : Nat
  announced : Nat
  storeErrors : Nat
deriving DecidableEq, Repr

namespace Tally

/-- Nothing has been counted. -/
def zero : Tally := ⟨0, 0, 0, 0, 0, 0, 0, 0⟩

/-- A worker has begun. -/
def begin (t : Tally) : Tally :=
  { t with started := t.started + 1, active := t.active + 1 }

/-- How many workers have ended for this reason. -/
def exits (t : Tally) : Exit → Nat
  | .expired => t.expired
  | .cancelled => t.cancelled
  | .sessionDeleted => t.sessionDeleted
  | .aborted => t.aborted

/-- A worker has ended. -/
def finish (t : Tally) (e : Exit) : Tally :=
  let t := { t with active := t.active - 1 }
  match e with
  | .expired => { t with expired := t.expired + 1 }
  | .cancelled => { t with cancelled := t.cancelled + 1 }
  | .sessionDeleted => { t with sessionDeleted := t.sessionDeleted + 1 }
  | .aborted => { t with aborted := t.aborted + 1 }

/-- A countdown has been announced. -/
def announce (t : Tally) : Tally :=
  { t with announced := t.announced + 1 }

/-- A read has failed. -/
def fail (t : Tally) : Tally :=
  { t with storeErrors := t.storeErrors + 1 }

end Tally

end Playgrounds
