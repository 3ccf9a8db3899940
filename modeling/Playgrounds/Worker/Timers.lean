import Playgrounds.Log.Line
import Playgrounds.Record.Event
import Playgrounds.Record.Instance
import Playgrounds.Text.Quoted
import Playgrounds.Worker.Roster
import Playgrounds.Worker.Tally

/-!
# The timers of all sessions

`Timers` is everybody who counts down: the staff, each worker by its session, and the tally. It
calls no store, shows no clock and knows no bus. What a worker gets to see is handed to it, and
what it lets others know is handed out.

* `Timers.run` — a session is to have a worker.
* `Timers.act` — a worker makes its next move. Its work is the moves of one worker; nothing that
  is done to another session changes them.
* `Timers.throwAway` — a worker goes without a move, in the midst of whatever it does.
* `Timers.cancel`, `Timers.cancelToken`, `Timers.shutDown` — workers are asked to end.
-/

namespace Playgrounds

/-- What workers let others know. -/
inductive Notice where
  | event (e : Event)
  | line (l : Log.Line)
deriving DecidableEq

/-- What a worker gets to see for a move. -/
inductive Sight where
  | nothing
  /-- How its call for the session begins, and what the clock shows then. -/
  | call (c : Store.Call Session) (clock : Instant)
  /-- What its call has come to, and what the clock shows after that. -/
  | answer (read : Store.Outcome Session) (clock : Instant)

/-- An instance that belongs to no session. -/
structure DetachedInstance where
  name : String
deriving DecidableEq, Repr

/-- What is reported of an instance that belongs to no session. -/
def DetachedInstance.message (d : DetachedInstance) : String :=
  "instance " ++ d.name ++ " does not belong to a session"

/-- The countdown workers at work. -/
structure Timers where
  /-- The longest that a worker waits for the store, in milliseconds, if there is a limit. -/
  readLimit : Option Nat
  staff : Staff
  /-- The worker of each session that has one. -/
  workers : Std.ExtTreeMap String Worker
  tally : Tally

namespace Timers

/-- Nobody is at work. -/
def empty (readLimit : Option Nat) : Timers :=
  ⟨readLimit, .empty, ∅, .zero⟩

/-- A line of a worker about its session. -/
def line (level : Log.Level) (message session : String) (more : List (String × String)) : Notice :=
  .line ⟨level, .countdown, message, ("session_id", session) :: more⟩

/-! ## Who is at work -/

/-- Launches a worker for the session of an instance, unless the session has one. -/
def launch (t : Timers) (i : Instance) (parent : Token) : Timers × List Notice :=
  match t.staff.launch i.sessionId parent with
  | (some token, staff) =>
    ({ t with staff, workers := t.workers.insert i.sessionId ⟨token, .fresh⟩ },
      [.line ⟨.debug, .countdown, "launched session timer",
        [("instance", i.name), ("session_id", i.sessionId)]⟩])
  | (none, staff) =>
    ({ t with staff }, [line .trace "session timer already running" i.sessionId []])

/-- The session of an instance is to have a worker, whose token is a child of `parent` if it is
launched now. -/
def run (t : Timers) (i : Instance) (parent : Token) :
    Except DetachedInstance Unit × (Timers × List Notice) :=
  if i.sessionId.isEmpty then (.error ⟨i.name⟩, (t, [])) else (.ok (), t.launch i parent)

/-- Asks the worker of a session to end, if there is one. -/
def cancel (t : Timers) (session : String) : Bool × Timers :=
  let (found, staff) := t.staff.cancel session
  (found, { t with staff })

/-- Cancels a token that workers may descend from. -/
def cancelToken (t : Timers) (token : Token) : Timers :=
  { t with staff := t.staff.cancelToken token }

/-- A new child of a token. -/
def newChild (t : Timers) (parent : Token) : Token × Timers :=
  let (token, cancellations) := t.staff.cancellations.child parent
  (token, { t with staff := { t.staff with cancellations } })

/-- Launches nobody any more, and asks everyone to end. -/
def shutDown (t : Timers) : Timers × List Notice :=
  ({ t with staff := t.staff.shutDown },
    [.line ⟨.debug, .roster, "waiting for session workers", []⟩])

/-! ## A worker's moves -/

/-- Whether a worker has been cancelled. -/
def isCancelled (t : Timers) (w : Worker) : Bool :=
  t.staff.cancellations.covers w.token

/-- What the worker of a session has to do at this time. -/
def move (t : Timers) (now : Nat) (w : Worker) : Worker.Move :=
  w.move now (t.isCancelled w)

/-- A worker goes on in another phase. -/
def setPhase (t : Timers) (session : String) (w : Worker) (phase : Worker.Phase) : Timers :=
  { t with workers := t.workers.insert session { w with phase } }

/-- A worker begins. -/
def begin (t : Timers) (session : String) (w : Worker) (now : Nat) : Timers × List Notice :=
  ({ t.setPhase session w (.waiting now) with tally := t.tally.begin },
    [line .debug "session timer started" session []])

/-- What a worker says of its session when it stops by itself. -/
def farewell (session : String) : Exit → List Notice
  | .expired => [line .debug "session expired, stopping timer" session []]
  | .sessionDeleted => [line .debug "session gone, stopping timer" session []]
  | _ => []

/-- A worker ends. -/
def finish (t : Timers) (session : String) (e : Exit) : Timers × List Notice :=
  ({ t with
      staff := t.staff.leave session
      workers := t.workers.erase session
      tally := t.tally.finish e },
    farewell session e
      ++ [line .debug "session timer stopped" session [("reason", Text.quoted e.label)]])

/-- A worker has had its look, and the next one is due at `due` if there is one. -/
def conclude (t : Timers) (session : String) (w : Worker) (due : Nat) :
    Verdict → Timers × List Notice
  | .announce left =>
    ({ t.setPhase session w (.waiting due) with tally := t.tally.announce },
      [line .trace "emitting session timer" session [("countdown", Countdown.text left)],
        .event ⟨.sessionTimer, session, [Countdown.text left]⟩])
  | .failed why =>
    ({ t.setPhase session w (.waiting due) with tally := t.tally.fail },
      [line .warn "failed to read session for timer" session [("error", why.text)]])
  | .stop e => t.finish session e

/-- A worker waits for the store; the look after this one is due at `due`. -/
def wait (t : Timers) (session : String) (w : Worker) (due now : Nat) (answerAt : Option Nat) :
    Timers × List Notice :=
  (t.setPhase session w (.reading due ⟨answerAt, t.readLimit.map (now + ·)⟩), [])

/-- A worker has asked for its session; the look was due at `due`. -/
def ask (t : Timers) (session : String) (w : Worker) (due now : Nat) (c : Store.Call Session)
    (clock : Instant) : Timers × List Notice :=
  let next := Worker.nextDue due now
  match c with
  | .answered read => t.conclude session w next (.of read clock)
  | .delayed ms => t.wait session w next now (some (now + ms))
  | .silent => t.wait session w next now none
  | .brokenDown => t.finish session .aborted

/-- The worker of a session makes its next move, if it is shown what it needs for it. -/
def act (t : Timers) (session : String) (now : Nat) (sight : Sight) : Timers × List Notice :=
  match t.workers[session]? with
  | none => (t, [])
  | some w =>
    match t.move now w, sight with
    | .begin, _ => t.begin session w now
    | .stop, _ => t.finish session .cancelled
    | .ask due, .call c clock => t.ask session w due now c clock
    | .hear due, .answer read clock => t.conclude session w due (.of read clock)
    | .giveUp due, _ => t.conclude session w due (.failed (Worker.tooSlow (t.readLimit.getD 0)))
    | _, _ => (t, [])

/-- The worker of a session is thrown away, whatever it does. Of one that has not begun nothing is
counted and nothing is said. -/
def throwAway (t : Timers) (session : String) : Timers × List Notice :=
  match t.workers[session]? with
  | none => (t, [])
  | some w =>
    if w.phase = .fresh then
      ({ t with staff := t.staff.leave session, workers := t.workers.erase session }, [])
    else t.finish session .aborted

end Timers

end Playgrounds
