import Playgrounds.Countdown
import Playgrounds.Store.Operation
import Playgrounds.Worker.Token

/-!
# Countdown workers

A countdown worker looks its session up once a second and announces how much time is left, until
the session is over or gone, or the worker is cancelled.

* `Exit` — why a worker ended.
* `Verdict` — what one look at the session comes to.
* `Worker` — a worker, and in its phase what it waits for. A look that takes long is not caught up
  with: the next one is due at the next whole second since the worker began.
* `Worker.move` — what a worker has to do next. It obeys its cancellation before all else that it
  could do, once it has begun.
-/

namespace Playgrounds

/-- Why a worker ended. -/
inductive Exit where
  | expired
  | cancelled
  | sessionDeleted
  /-- It broke down. -/
  | aborted
deriving DecidableEq, Repr

/-- The name of a reason to end. -/
def Exit.label : Exit → String
  | expired => "expired"
  | cancelled => "cancelled"
  | sessionDeleted => "session_deleted"
  | aborted => "aborted"

/-- What a look at the session comes to. -/
inductive Verdict where
  /-- So many nanoseconds are left, which is announced. -/
  | announce (left : Int)
  /-- The session could not be read this time. -/
  | failed (why : Store.Failure)
  | stop (e : Exit)
deriving DecidableEq, Repr

namespace Verdict

/-- The verdict on what was read, by the clock after the read. -/
def of (read : Store.Outcome Session) (now : Instant) : Verdict :=
  match read with
  | .ok s => if s.isExpiredAt now then .stop .expired else .announce (s.left now)
  | .error f => if f.isNotFound then .stop .sessionDeleted else .failed f

end Verdict

namespace Worker

/-- The milliseconds between two looks. -/
def periodMs : Nat := 1000

/-- When the next look is due, if one that was due at `due` is taken at `now`. -/
def nextDue (due now : Nat) : Nat :=
  now + periodMs - (now - due) % periodMs

/-- A read of the session that has not been answered. -/
structure Reading where
  /-- When the store will answer, if it ever does. -/
  answerAt : Option Nat
  /-- When the worker stops waiting for the answer, if it does. -/
  limitAt : Option Nat
deriving DecidableEq, Repr

/-- How a read ends. -/
inductive ReadEnd where
  | answered
  | tooLate
deriving DecidableEq, Repr

namespace Reading

/-- What has become of the read by now, if it has ended. An answer that is there is heard, however
late the worker comes for it. -/
def ending? (r : Reading) (now : Nat) : Option ReadEnd :=
  if r.answerAt.any (· ≤ now) then some .answered
  else if r.limitAt.any (· ≤ now) then some .tooLate
  else none

/-- When the read ends if the worker comes in time. -/
def endsAt? (r : Reading) : Option Nat :=
  Option.merge min r.answerAt r.limitAt

end Reading

/-- What a worker waits for. -/
inductive Phase where
  /-- It has not begun. -/
  | fresh
  /-- It waits for the next look to be due. -/
  | waiting (due : Nat)
  /-- It waits for the session; the look after this one is due at `due`. -/
  | reading (due : Nat) (r : Reading)
deriving DecidableEq, Repr

end Worker

/-- A countdown worker. -/
structure Worker where
  token : Token
  phase : Worker.Phase
deriving DecidableEq, Repr

namespace Worker

/-- What a worker has to do. -/
inductive Move where
  | rest
  | begin
  /-- It has been cancelled, and ends. -/
  | stop
  /-- It asks for its session; the look was due at `due`. -/
  | ask (due : Nat)
  /-- Its answer is there; the look after this one is due at `due`. -/
  | hear (due : Nat)
  /-- It has waited for its answer as long as it may. -/
  | giveUp (due : Nat)
deriving DecidableEq, Repr

/-- The end of a read as a move. -/
def ReadEnd.move (due : Nat) : ReadEnd → Move
  | answered => .hear due
  | tooLate => .giveUp due

/-- What a worker has to do at this time. -/
def move (w : Worker) (now : Nat) (isCancelled : Bool) : Move :=
  match w.phase with
  | .fresh => .begin
  | .waiting due =>
    if isCancelled then .stop else if due ≤ now then .ask due else .rest
  | .reading due r =>
    if isCancelled then .stop else (r.ending? now).elim .rest (ReadEnd.move due)

/-- When the worker has something to do if nobody cancels it, if ever. -/
def wakeAt? (w : Worker) (now : Nat) : Option Nat :=
  match w.phase with
  | .fresh => some now
  | .waiting due => some due
  | .reading _ r => r.endsAt?

/-- The failure of a read that took too long. -/
def tooSlow (limitMs : Nat) : Store.Failure :=
  .backend ("session read exceeded " ++ Decimal.text limitMs ++ "ms")

end Worker

end Playgrounds
