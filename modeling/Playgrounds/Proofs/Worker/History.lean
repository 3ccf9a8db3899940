import Playgrounds.Metrics
import Playgrounds.Proofs.Worker.Muster
import Playgrounds.Worker.Timers

/-!
# What may happen to the timers

The timers as a whole, and what of it concerns the worker of one session.

* `Timers.Deed`, `Timers.step` — what may happen, one deed at a time.
* `Timers.events`, `Timers.exits` — what is said of a session.
* `Timers.PassesBy` — what a deed leaves of a session that it does not concern.
* `Timers.passesBy_step` — the deeds that do not.
-/

namespace Playgrounds.Timers

/-- What may happen to the timers. -/
inductive Deed where
  /-- The session of an instance is to have a worker. -/
  | run (i : Instance) (parent : Token)
  | newChild (parent : Token)
  | cancel (session : String)
  | cancelToken (token : Token)
  | shutDown
  /-- The worker of a session makes its next move. -/
  | act (session : String) (now : Nat) (sight : Sight)

/-- What comes of a deed, and what is said. -/
def step (t : Timers) : Deed → Timers × List Notice
  | .run i parent => (t.run i parent).2
  | .newChild parent => ((t.newChild parent).2, [])
  | .cancel session => ((t.cancel session).2, [])
  | .cancelToken token => (t.cancelToken token, [])
  | .shutDown => t.shutDown
  | .act session now sight => t.act session now sight

/-- What a worker says last. -/
def stopped (session : String) (e : Exit) : Notice :=
  line .debug "session timer stopped" session [("reason", Text.quoted e.label)]

/-- The event of a notice, if it is about the session. -/
def event? (session : String) : Notice → Option Event
  | .event e => if e.id = session then some e else none
  | .line _ => none

/-- How the worker of the session ended, if the notice says so. -/
def exit? (session : String) (n : Notice) : Option Exit :=
  Metrics.reasons.find? fun e => n = stopped session e

/-- The events about a session. -/
def events (session : String) (log : List Notice) : List Event :=
  log.filterMap (event? session)

/-- How the workers of a session ended. -/
def exits (session : String) (log : List Notice) : List Exit :=
  log.filterMap (exit? session)

section

variable {session : String} {log more : List Notice}

theorem events_append : events session (log ++ more) = events session log ++ events session more :=
  List.filterMap_append

theorem exits_append : exits session (log ++ more) = exits session log ++ exits session more :=
  List.filterMap_append

/-- The reasons to end begin with different letters, and none of these is escaped. -/
theorem quoted_label_injective {a b : Exit} (same : Text.quoted a.label = Text.quoted b.label) :
    a = b := by
  have initial : ∀ e : Exit, (e.label.toList.flatMap Text.quotedChar ++ ['"']).head?
      = e.label.toList.head? := by
    intro e
    cases e <;> decide +kernel
  have same := congrArg List.head? (List.tail_eq_of_cons_eq (String.ofList_inj.mp same))
  have same := (initial a).symm.trans (same.trans (initial b))
  revert same
  cases a <;> cases b <;> decide

/-- The line that a worker ends with names its session and why it ends. -/
theorem stopped_inj {other : String} {a b : Exit} :
    stopped other a = stopped session b ↔ other = session ∧ a = b := by
  constructor
  · intro same
    injection same with same
    injection same with _ _ _ values
    injection values with id rest
    injection rest with reason
    exact ⟨congrArg Prod.snd id, quoted_label_injective (congrArg Prod.snd reason)⟩
  · rintro ⟨rfl, rfl⟩
    rfl

/-- The line that a worker ends with is read as its exit. -/
theorem exit?_stopped (session : String) (e : Exit) :
    exit? session (stopped session e) = some e := by
  simp only [exit?, stopped_inj, true_and]
  cases e <;> rfl

theorem exit?_stopped_of_ne {other : String} (apart : other ≠ session) (e : Exit) :
    exit? session (stopped other e) = none := by
  refine List.find?_eq_none.mpr fun e' _ same => apart ?_
  exact (stopped_inj.mp (of_decide_eq_true same)).1

theorem exit?_event (e : Event) : exit? session (.event e) = none :=
  List.find?_eq_none.mpr fun _ _ same => nomatch of_decide_eq_true same

/-- Only one line says how a worker ended. -/
theorem exit?_line (message : String) {level : Log.Level} {speaker : Log.Speaker}
    {values : List (String × String)} (other : message ≠ "session timer stopped") :
    exit? session (.line ⟨level, speaker, message, values⟩) = none := by
  refine List.find?_eq_none.mpr fun e _ same => other ?_
  injection of_decide_eq_true same with same
  injection same

/-- What else is said at an end is no exit. -/
theorem exits_farewell (other : String) (e : Exit) : exits session (farewell other e) = [] := by
  cases e with
  | expired =>
      exact List.filterMap_cons_none (exit?_line "session expired, stopping timer" (by decide))
  | sessionDeleted =>
      exact List.filterMap_cons_none (exit?_line "session gone, stopping timer" (by decide))
  | cancelled | aborted => rfl

theorem events_finish (t : Timers) (other : String) (e : Exit) :
    events session (t.finish other e).2 = [] := by
  cases e <;> rfl

/-- A worker ends once. -/
theorem exits_finish (t : Timers) (session : String) (e : Exit) :
    exits session (t.finish session e).2 = [e] := by
  have last : exits session [stopped session e] = [e] :=
    List.filterMap_cons_some (exit?_stopped session e)
  show exits session (farewell session e ++ [stopped session e]) = [e]
  rw [exits_append, last, exits_farewell]
  rfl

end

/-! ## A worker's moves -/

section

variable {t : Timers} {session : String} {w : Worker} {now due : Nat}

theorem act_begin (found : t.workers[session]? = some w) (move : t.move now w = .begin)
    (sight : Sight) : t.act session now sight = t.begin session w now := by
  simp only [act, found, move]

theorem act_stop (found : t.workers[session]? = some w) (move : t.move now w = .stop)
    (sight : Sight) : t.act session now sight = t.finish session .cancelled := by
  simp only [act, found, move]

/-- A worker that is to ask does so with the call that it sees. -/
theorem act_ask (found : t.workers[session]? = some w) (move : t.move now w = .ask due)
    (c : Store.Call Session) (clock : Instant) :
    t.act session now (.call c clock) = t.ask session w due now c clock := by
  simp only [act, found, move]

/-- A worker that is to hear acts on the answer that it sees. -/
theorem act_hear (found : t.workers[session]? = some w) (move : t.move now w = .hear due)
    (read : Store.Outcome Session) (clock : Instant) :
    t.act session now (.answer read clock) = t.conclude session w due (.of read clock) := by
  simp only [act, found, move]

/-- A worker that is to give up goes on as after a failure of the store. -/
theorem act_giveUp (found : t.workers[session]? = some w) (move : t.move now w = .giveUp due)
    (sight : Sight) : t.act session now sight
      = t.conclude session w due (.failed (Worker.tooSlow (t.readLimit.getD 0))) := by
  simp only [act, found, move]

theorem act_rest (found : t.workers[session]? = some w) (move : t.move now w = .rest)
    (sight : Sight) : t.act session now sight = (t, []) := by
  simp only [act, found, move]

/-- A move cancels nothing. -/
theorem cancellations_act (t : Timers) (session : String) (now : Nat) (sight : Sight) :
    (t.act session now sight).1.staff.cancellations = t.staff.cancellations := by
  have conclude : ∀ (w : Worker) (due : Nat) (v : Verdict),
      (t.conclude session w due v).1.staff.cancellations = t.staff.cancellations := by
    intro w due v
    cases v <;> rfl
  rw [act]
  split
  next => rfl
  next w _ =>
      split
      next => rfl
      next => rfl
      next c _ _ => cases c with
        | answered read => exact conclude w _ _
        | delayed | silent | brokenDown => rfl
      next => exact conclude w _ _
      next => exact conclude w _ _
      next => rfl

theorem move_of_fresh (now : Nat) (fresh : w.phase = .fresh) : t.move now w = .begin := by
  simp only [move, Worker.move, fresh]

/-- Once it has begun, a worker obeys its cancellation before all else. -/
theorem move_of_isCancelled (now : Nat) (begun : w.phase ≠ .fresh)
    (cancelled : t.isCancelled w = true) : t.move now w = .stop := by
  cases phase : w.phase with
  | fresh => exact absurd phase begun
  | waiting due => simp [move, Worker.move, phase, cancelled]
  | reading due r => simp [move, Worker.move, phase, cancelled]

/-- A worker that waits asks when it is due. -/
theorem move_of_waiting (now : Nat) (waits : w.phase = .waiting due)
    (free : t.isCancelled w = false) : t.move now w = if due ≤ now then .ask due else .rest := by
  simp [move, Worker.move, waits, free]

/-- A worker that reads hears an answer, gives up, or goes on waiting. -/
theorem move_of_reading {r : Worker.Reading} (now : Nat) (reads : w.phase = .reading due r)
    (free : t.isCancelled w = false) :
    t.move now w = (r.ending? now).elim .rest (Worker.ReadEnd.move due) := by
  simp [move, Worker.move, reads, free]

end

/-! ## Sessions that a deed does not concern -/

/-- What was done passes a session by: its worker is as before unless it was cancelled, and nothing
is said of it. -/
structure PassesBy (session : String) (t : Timers) (r : Timers × List Notice) : Prop where
  worker : r.1.workers[session]? = t.workers[session]?
  entry : r.1.staff.roster.entries[session]? = t.staff.roster.entries[session]?
  readLimit : r.1.readLimit = t.readLimit
  covers : ∀ u, t.staff.cancellations.covers u = true →
    r.1.staff.cancellations.covers u = true
  events : events session r.2 = []
  exits : exits session r.2 = []

/-- The deed is no move of the session's worker, and enters none for it. -/
def Deed.Avoids (session : String) (t : Timers) : Deed → Prop
  | .act other _ _ => other ≠ session
  | .run i _ => i.sessionId ≠ session ∨ session ∈ t.staff.roster.entries
  | _ => True

instance (session : String) (t : Timers) (d : Deed) : Decidable (d.Avoids session t) :=
  match d with
  | .act other _ _ => inferInstanceAs (Decidable (other ≠ session))
  | .run i _ =>
    inferInstanceAs (Decidable (i.sessionId ≠ session ∨ session ∈ t.staff.roster.entries))
  | .newChild _ | .cancel _ | .cancelToken _ | .shutDown => inferInstanceAs (Decidable True)

section

variable {session other : String} {t : Timers}

namespace PassesBy

theorem nothing (t : Timers) : PassesBy session t (t, []) :=
  ⟨rfl, rfl, rfl, fun _ => id, rfl, rfl⟩

/-- A line that does not say how a worker ended may be added. -/
theorem say {r : Timers × List Notice} (p : PassesBy session t r) (message : String)
    {level : Log.Level} {speaker : Log.Speaker} {values : List (String × String)}
    (harmless : message ≠ "session timer stopped") :
    PassesBy session t (r.1, .line ⟨level, speaker, message, values⟩ :: r.2) :=
  { p with exits := (List.filterMap_cons_none (exit?_line message harmless)).trans p.exits }

variable (apart : other ≠ session) (w : Worker)

include apart

/-- A worker that changes its phase passes by the others. -/
theorem setPhase (phase : Worker.Phase) (tally : Tally) :
    PassesBy session t ({ t.setPhase other w phase with tally }, []) where
  worker := by
    rw [Timers.setPhase, Std.ExtTreeMap.getElem?_insert, if_neg (by simpa using apart)]
  entry := rfl
  readLimit := rfl
  covers := fun _ => id
  events := rfl
  exits := rfl

/-- A worker that ends passes by the others. -/
theorem finish (e : Exit) : PassesBy session t (t.finish other e) where
  worker := by
    show (t.workers.erase other)[session]? = _
    rw [Std.ExtTreeMap.getElem?_erase, if_neg (by simpa using apart)]
  entry := by
    show (t.staff.roster.entries.erase other)[session]? = _
    rw [Std.ExtTreeMap.getElem?_erase, if_neg (by simpa using apart)]
  readLimit := rfl
  covers := fun _ => id
  events := events_finish t other e
  exits := by
    have last : Timers.exits session [stopped other e] = [] :=
      List.filterMap_cons_none (exit?_stopped_of_ne apart e)
    show Timers.exits session (farewell other e ++ [stopped other e]) = []
    rw [exits_append, last, List.append_nil]
    exact exits_farewell other e

theorem conclude (due : Nat) (v : Verdict) : PassesBy session t (t.conclude other w due v) := by
  cases v with
  | announce left =>
      have announced : PassesBy session t ((t.conclude other w due (.announce left)).1,
          [.event ⟨.sessionTimer, other, [Countdown.text left]⟩]) :=
        { PassesBy.setPhase (t := t) apart w (.waiting due) t.tally.announce with
          events := List.filterMap_cons_none (if_neg apart)
          exits := List.filterMap_cons_none (exit?_event _) }
      exact announced.say "emitting session timer" (by decide)
  | failed why =>
      exact (PassesBy.setPhase (t := t) apart w (.waiting due) t.tally.fail).say
        "failed to read session for timer" (by decide)
  | stop e => exact PassesBy.finish apart e

theorem ask (due now : Nat) (c : Store.Call Session) (clock : Instant) :
    PassesBy session t (t.ask other w due now c clock) := by
  cases c with
  | answered read => exact PassesBy.conclude apart w _ _
  | delayed ms => exact PassesBy.setPhase apart w _ t.tally
  | silent => exact PassesBy.setPhase apart w _ t.tally
  | brokenDown => exact PassesBy.finish apart .aborted

omit w in
/-- A worker's turn passes by the others. -/
theorem act (now : Nat) (sight : Sight) : PassesBy session t (t.act other now sight) := by
  rw [Timers.act]
  split
  next => exact nothing t
  next w _ =>
      split
      next =>
          exact (PassesBy.setPhase apart w _ t.tally.begin).say
            "session timer started" (by decide)
      next => exact PassesBy.finish apart .cancelled
      next => exact PassesBy.ask apart w _ _ _ _
      next => exact PassesBy.conclude apart w _ _
      next => exact PassesBy.conclude apart w _ _
      next => exact nothing t

omit apart w in
/-- To ask for a worker passes by every session but its own, and by that one if it has a worker. -/
theorem run (i : Instance) (parent : Token)
    (avoids : i.sessionId ≠ session ∨ session ∈ t.staff.roster.entries) :
    PassesBy session t (t.run i parent).2 := by
  rw [Timers.run]
  split
  next => exact nothing t
  next =>
      by_cases taken : i.sessionId ∈ t.staff.roster.entries ∨ t.staff.roster.isClosed = true
      · rw [Timers.launch, Staff.launch_of_taken parent taken]
        exact (nothing t).say "session timer already running" (by decide)
      · rw [not_or, Bool.not_eq_true] at taken
        -- A session that has an entry would be refused, and this one is not.
        have apart : i.sessionId ≠ session := by
          rcases avoids with apart | here
          · exact apart
          · rintro rfl
            exact taken.1 here
        rw [Timers.launch, Staff.launch_of_free parent taken.1 taken.2]
        refine PassesBy.say (r := (_, [])) ?_ "launched session timer" (by decide)
        refine ⟨?_, ?_, rfl, ?_, rfl, rfl⟩
        · rw [Std.ExtTreeMap.getElem?_insert, if_neg (by simpa using apart)]
        · rw [Staff.enter_of_free parent taken.1 taken.2]
          show (t.staff.roster.entries.insert i.sessionId _)[session]? = _
          rw [Std.ExtTreeMap.getElem?_insert, if_neg (by simpa using apart)]
        · rw [Staff.enter_of_free parent taken.1 taken.2]
          exact fun u covered => (Cancellations.covers_child _ parent u).trans covered

end PassesBy

/-- A deed that does not concern a session passes it by. -/
theorem passesBy_step (t : Timers) {d : Deed} (avoids : d.Avoids session t) :
    PassesBy session t (t.step d) := by
  cases d with
  | run i parent => exact PassesBy.run i parent avoids
  | act other now sight => exact PassesBy.act avoids now sight
  | newChild parent =>
      refine ⟨rfl, rfl, rfl, ?_, rfl, rfl⟩
      exact fun u covered => (Cancellations.covers_child _ parent u).trans covered
  | cancel other =>
      refine ⟨rfl, ?_, rfl, ?_, rfl, rfl⟩
      · show (t.staff.cancel other).2.roster.entries[session]? = _
        rw [Staff.roster_cancel]
      · exact fun u covered => Staff.covers_cancel covered other
  | cancelToken token =>
      refine ⟨rfl, rfl, rfl, ?_, rfl, rfl⟩
      exact fun u covered => Cancellations.covers_cancel covered token
  | shutDown =>
      refine PassesBy.say (r := (_, [])) ?_ "waiting for session workers" (by decide)
      refine ⟨rfl, rfl, rfl, ?_, rfl, rfl⟩
      exact fun u covered => Cancellations.covers_foldl_cancel covered _

end

end Playgrounds.Timers
