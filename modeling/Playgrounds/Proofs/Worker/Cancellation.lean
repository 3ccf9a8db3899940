import Playgrounds.Proofs.Worker.Callers
import Playgrounds.Service.Turns

/-!
# Cancelled workers

Why a worker is cancelled, and that nothing is heard of it from then on but its end.

* `Timers.Launched` — the call that launched a registered worker.
* `Timers.Accounted`, `Timers.accounted_after` — what has been cancelled, told by the history.
* `Timers.Doomed` — a worker that has been cancelled and has not ended; `Timers.Doomed.step`,
  `Timers.Doomed.endsInSilence` — what one deed leaves of it, and many.
* `Service.workerTurn_of_doomed` — its next turn.
* `Timers.cancelled_iff_and_silent` — what comes of it for every worker.
-/

namespace Playgrounds

namespace Timers

/-! ## Who launched a worker -/

open Custody

variable {limit : Option Nat} {ds : List Deed} {session : String} {token : Token}

/-- The worker that is registered for a session with this token was launched by this call: the
session was free before it, and the worker has been registered since. -/
structure Launched (limit : Option Nat) (ds : List Deed) (session : String) (token : Token)
    (before : List Deed) (i : Instance) (parent : Token) (later : List Deed) : Prop where
  split : ds = before ++ .run i parent :: later
  session_eq : i.sessionId = session
  free : (after limit before).timers.IsFree session
  token_eq : token = .child parent (after limit before).timers.issued
  stays : ∀ part, part <+: later →
    (after limit (before ++ .run i parent :: part)).timers.registered? session = some token

/-- A worker that is still registered was launched as before, whatever has been done since. -/
theorem Launched.concat {before later : List Deed} {i : Instance} {parent : Token}
    (l : Launched limit ds session token before i parent later) {d : Deed}
    (registered : (after limit (ds ++ [d])).timers.registered? session = some token) :
    Launched limit (ds ++ [d]) session token before i parent (later ++ [d]) := by
  have split : ds ++ [d] = before ++ .run i parent :: (later ++ [d]) := by
    rw [l.split, List.append_assoc, List.cons_append]
  refine ⟨split, l.session_eq, l.free, l.token_eq, ?_⟩
  intro part already
  rcases List.prefix_concat_iff.mp already with rfl | already
  · rw [← split]
    exact registered
  · exact l.stays part already

/-- A worker that is registered after a deed was registered before it with this token, or was
launched by it. -/
theorem registered?_step {c : Custody} {d : Deed}
    (registered : (c.step d).timers.registered? session = some token) :
    c.timers.registered? session = some token ∨
      ∃ i parent, d = .run i parent ∧ i.sessionId = session ∧ c.timers.IsFree session ∧
        token = .child parent c.timers.issued := by
  cases d with
  | run i parent =>
      change (c.timers.run i parent).2.1.registered? session = some token at registered
      obtain ⟨-, free, launched⟩ | ⟨-, same⟩ := run_cases c.timers i parent
      · rw [launched, free.registered?_launchFor] at registered
        -- The registration is new only for the session of this launch.
        split at registered
        next own =>
            subst own
            exact .inr ⟨i, parent, rfl, rfl, free, (Option.some.inj registered).symm⟩
        next => exact .inl registered
      · rw [same] at registered
        exact .inl registered
  | newChild | cancelToken | shutDown => exact .inl registered
  | cancel other => exact .inl ((registered?_cancel _ other session).symm.trans registered)
  | act other now sight =>
      refine .inl ?_
      change (c.timers.act other now sight).1.registered? session = some token at registered
      obtain ⟨w, phase, tally, -, goesOn⟩ | ⟨e, ends⟩ | rests := act_cases c.timers other now sight
      · rw [goesOn] at registered
        exact registered
      · rw [ends, registered?_finish] at registered
        split at registered
        next => exact nomatch registered
        next => exact registered
      · rw [rests] at registered
        exact registered

/-- The history tells what has been cancelled. -/
structure Accounted (limit : Option Nat) (ds : List Deed) : Prop where
  isClosed_iff : (after limit ds).timers.staff.roster.isClosed = true ↔ .shutDown ∈ ds
  holds_named : ∀ u, .cancelToken u ∈ ds → (after limit ds).Holds u
  held : ∀ u, (after limit ds).Holds u →
    ((after limit ds).timers.HasCancelled u ↔ .cancelToken u ∈ ds)
  own : ∀ session token, (after limit ds).timers.registered? session = some token →
    ∃ before i parent later, Launched limit ds session token before i parent later ∧
      ((after limit ds).timers.HasCancelled token ↔ .cancel session ∈ later ∨ .shutDown ∈ later)

/-- Nothing has been cancelled at first. -/
theorem accounted_nil (limit : Option Nat) : Accounted limit [] where
  isClosed_iff := ⟨fun h => absurd h Bool.false_ne_true, fun h => absurd h List.not_mem_nil⟩
  holds_named := fun _ h => absurd h List.not_mem_nil
  held := fun _ _ => ⟨fun h => absurd h List.not_mem_nil, fun h => absurd h List.not_mem_nil⟩
  own := by
    intro session token found
    have none : (start limit).timers.registered? session = none := Std.ExtTreeMap.getElem?_empty
    exact nomatch none.symm.trans found

/-- **One more deed keeps the account of what has been cancelled.** -/
theorem Accounted.concat (a : Accounted limit ds) (s : (after limit ds).Sound) {d : Deed}
    (permitted : (after limit ds).Permits d) : Accounted limit (ds ++ [d]) := by
  refine ⟨?_, ?_, ?_, ?_⟩
  · rw [after_concat, isClosed_step, a.isClosed_iff, List.mem_append, List.mem_singleton, eq_comm]
  · intro u named
    rw [after_concat, holds_step]
    rcases List.mem_append.mp named with named | named
    · exact .inl (a.holds_named u named)
    · rw [← List.mem_singleton.mp named] at permitted
      exact .inl permitted
  · intro u holds
    rw [after_concat, holds_step] at holds
    rw [after_concat]
    rcases holds with holds | ⟨parent, rfl, rfl⟩
    · rw [s.hasCancelled_held holds, a.held u holds, List.mem_append,
        List.mem_singleton, eq_comm]
    -- a token that is handed out now could not be named before
    · constructor
      · intro h
        exact absurd (s.cancelled_lt _ _ h) (Nat.lt_irrefl _)
      · intro named
        rcases List.mem_append.mp named with named | named
        · exact absurd (s.lt_of_holds (a.holds_named _ named)) (Nat.lt_irrefl _)
        · exact nomatch List.mem_singleton.mp named
  · intro session token registered
    have step := registered
    rw [after_concat] at step ⊢
    rcases registered?_step step with found | ⟨i, parent, rfl, rfl, free, rfl⟩
    · obtain ⟨before, i, parent, later, launched, cancelled⟩ := a.own session token found
      refine ⟨before, i, parent, later ++ [d], launched.concat registered, ?_⟩
      rw [s.hasCancelled_own permitted found, cancelled]
      simp only [List.mem_append, List.mem_singleton, eq_comm (a := d)]
      exact or_or_or_comm
    · refine ⟨ds, i, parent, [], ⟨rfl, rfl, free, rfl, ?_⟩, ?_⟩
      · intro part already
        rw [List.prefix_nil.mp already]
        exact registered
      · simp only [List.not_mem_nil, or_self, iff_false]
        intro h
        exact absurd (s.cancelled_lt _ _ ((hasCancelled_run _ i parent _).mp h)) (Nat.lt_irrefl _)

/-- **The history tells what has been cancelled, whatever callers have done.** -/
theorem accounted_after (permitted : (start limit).PermitsAll ds) : Accounted limit ds := by
  induction ds using List.reverseRecOn with
  | nil => exact accounted_nil limit
  | append_singleton ds d ih =>
      rw [permitsAll_concat] at permitted
      exact (ih permitted.1).concat (sound_after permitted.1) permitted.2

/-- A registered worker was launched by a call. It is cancelled exactly if since then its session
was asked to end it or everyone was asked to end, or at some time the token of the call was
cancelled or one from which it descends. -/
theorem exists_launched (permitted : (start limit).PermitsAll ds)
    (registered : (after limit ds).timers.registered? session = some token) :
    ∃ before i parent later, Launched limit ds session token before i parent later ∧
      ((after limit ds).timers.staff.cancellations.covers token = true ↔
        .cancel session ∈ later ∨ .shutDown ∈ later ∨
          ∃ u ∈ parent.line, .cancelToken u ∈ ds) := by
  have s := sound_after permitted
  have a := accounted_after permitted
  obtain ⟨before, i, parent, later, launched, own⟩ := a.own session token registered
  refine ⟨before, i, parent, later, launched, ?_⟩
  obtain ⟨parent', serial, same, -, holds, -⟩ := s.own session token registered
  obtain rfl : parent = parent' := by
    rw [launched.token_eq] at same
    injection same
  -- The tokens above the worker's are held by others, who alone can cancel them.
  have above : (∃ u ∈ parent.line, (after limit ds).timers.HasCancelled u)
      ↔ ∃ u ∈ parent.line, .cancelToken u ∈ ds := by
    constructor
    · rintro ⟨u, line, cancelled⟩
      exact ⟨u, line, (a.held u (s.holds_of_mem_line holds line)).mp cancelled⟩
    · rintro ⟨u, line, named⟩
      exact ⟨u, line, (a.held u (a.holds_named u named)).mpr named⟩
  -- A token is covered for itself, or for one above it.
  have split : (after limit ds).timers.staff.cancellations.covers token = true
      ↔ (after limit ds).timers.HasCancelled token ∨
        ∃ u ∈ parent.line, (after limit ds).timers.HasCancelled u := by
    rw [Cancellations.covers_iff, same, Token.line]
    simp only [List.mem_cons, exists_eq_or_imp]
    rfl
  rw [split, own, above, or_assoc]

/-! ## After the cancellation -/

/-- The session's worker has been cancelled, and has not ended. -/
structure Doomed (t : Timers) (session : String) (w : Worker) : Prop where
  found : t.workers[session]? = some w
  entered : session ∈ t.staff.roster.entries
  cancelled : t.isCancelled w = true

/-- What is said in the course of some deeds. -/
def said (t : Timers) : List Deed → List Notice
  | [] => []
  | d :: ds => (t.step d).2 ++ said (t.step d).1 ds

/-- What comes of some deeds. -/
def steps (t : Timers) (ds : List Deed) : Timers :=
  ds.foldl (fun t d => (t.step d).1) t

/-- In the course of some deeds nothing is announced of the session and its worker stays as
cancelled as it is; or nothing is announced until by a move of its own the worker ends as
cancelled. -/
def EndsInSilence (t : Timers) (session : String) (w : Worker) (ds : List Deed) : Prop :=
  (events session (t.said ds) = [] ∧ exits session (t.said ds) = [] ∧
    ∃ v, (t.steps ds).Doomed session v ∧ v.token = w.token) ∨
  ∃ part now sight rest, ds = part ++ .act session now sight :: rest ∧
    events session (t.said (part ++ [.act session now sight])) = [] ∧
    exits session (t.said (part ++ [.act session now sight])) = [.cancelled] ∧
    (t.steps (part ++ [.act session now sight])).workers[session]? = none

section

variable {t : Timers} {w : Worker}

/-- A worker that is cancelled is doomed. -/
theorem Custody.Sound.doomed {c : Custody} (s : c.Sound)
    (found : c.timers.workers[session]? = some w) (cancelled : c.timers.isCancelled w = true) :
    c.timers.Doomed session w := by
  refine ⟨found, ?_, cancelled⟩
  rw [Std.ExtTreeMap.mem_iff_isSome_getElem?]
  exact Option.isSome_of_eq_some (s.registered_of_found found)

/-- At any time a cancelled worker has nothing to do but to begin, if it has not, and to stop. -/
theorem Doomed.move_eq (h : t.Doomed session w) (now : Nat) :
    t.move now w = if w.phase = .fresh then .begin else .stop := by
  by_cases fresh : w.phase = .fresh
  · rw [if_pos fresh]
    exact move_of_fresh now fresh
  · rw [if_neg fresh]
    exact move_of_isCancelled now fresh h.cancelled

theorem Doomed.act_of_fresh (h : t.Doomed session w) (fresh : w.phase = .fresh) (now : Nat)
    (sight : Sight) : t.act session now sight = t.begin session w now :=
  act_begin h.found (move_of_fresh now fresh) sight

theorem Doomed.act_of_begun (h : t.Doomed session w) (begun : w.phase ≠ .fresh) (now : Nat)
    (sight : Sight) : t.act session now sight = t.finish session .cancelled :=
  act_stop h.found (move_of_isCancelled now begun h.cancelled) sight

/-- A worker that is cancelled before it has begun still begins, and waits then. -/
theorem Doomed.begin (h : t.Doomed session w) (now : Nat) :
    (t.begin session w now).1.Doomed session ⟨w.token, .waiting now⟩ where
  found := Std.ExtTreeMap.getElem?_insert_self
  entered := h.entered
  cancelled := h.cancelled

/-- **One deed.** The worker is as cancelled as before and says nothing, or it makes its last move
and ends as cancelled. -/
theorem Doomed.step (h : t.Doomed session w) (d : Deed) :
    events session (t.step d).2 = [] ∧
      ((exits session (t.step d).2 = [] ∧
          ∃ v, (t.step d).1.Doomed session v ∧ v.token = w.token) ∨
        (exits session (t.step d).2 = [.cancelled] ∧ (t.step d).1.workers[session]? = none ∧
          ∃ now sight, d = .act session now sight)) := by
  -- Whatever does not concern the session leaves its worker doomed.
  by_cases avoids : d.Avoids session t
  · have passes := passesBy_step t avoids
    refine ⟨passes.events, .inl ⟨passes.exits, w, ⟨passes.worker.trans h.found, ?_, ?_⟩, rfl⟩⟩
    · rw [Std.ExtTreeMap.mem_iff_isSome_getElem?, passes.entry,
        ← Std.ExtTreeMap.mem_iff_isSome_getElem?]
      exact h.entered
    · exact passes.covers _ h.cancelled
  · cases d with
    | act other now sight =>
        obtain rfl : other = session := not_not.mp avoids
        show events other (t.act other now sight).2 = [] ∧ _
        by_cases fresh : w.phase = .fresh
        · have begins := h.act_of_fresh fresh now sight
          refine ⟨by rw [begins]; rfl, .inl ⟨?_, ⟨w.token, .waiting now⟩, ?_, rfl⟩⟩
          · show exits other (t.act other now sight).2 = []
            rw [begins]
            exact List.filterMap_cons_none (exit?_line "session timer started" (by decide))
          · show (t.act other now sight).1.Doomed other _
            rw [begins]
            exact h.begin now
        · have ends := h.act_of_begun fresh now sight
          refine ⟨by rw [ends]; exact events_finish t other .cancelled,
            .inr ⟨?_, ?_, now, sight, rfl⟩⟩
          · show exits other (t.act other now sight).2 = [.cancelled]
            rw [ends]
            exact exits_finish t other .cancelled
          · show (t.act other now sight).1.workers[other]? = none
            rw [ends]
            exact Std.ExtTreeMap.getElem?_erase_self
    | run i parent => exact absurd (.inr h.entered) avoids
    | newChild | cancel | cancelToken | shutDown => exact absurd trivial avoids

/-- **Many deeds.** -/
theorem Doomed.endsInSilence (h : t.Doomed session w) (ds : List Deed) :
    t.EndsInSilence session w ds := by
  induction ds generalizing t w with
  | nil => exact .inl ⟨rfl, rfl, w, h, rfl⟩
  | cons d ds ih =>
      -- Either the worker is still there after this deed, or it has ended with it.
      obtain ⟨silent, ⟨noExit, v, doomed, same⟩ | ⟨exit, gone, now, sight, rfl⟩⟩ := h.step d
      · obtain ⟨events, exits, u, doomed', same'⟩ |
          ⟨part, now, sight, rest, split, events, exits, gone⟩ := ih doomed
        · refine .inl ⟨?_, ?_, u, doomed', same'.trans same⟩
          · rw [said, events_append, silent, events]
            rfl
          · rw [said, exits_append, noExit, exits]
            rfl
        · refine .inr ⟨d :: part, now, sight, rest, by rw [split]; rfl, ?_, ?_, gone⟩
          · rw [List.cons_append, said, events_append, silent, events]
            rfl
          · rw [List.cons_append, said, exits_append, noExit, exits]
            rfl
      · refine .inr ⟨[], now, sight, ds, rfl, ?_, ?_, gone⟩
        · rw [List.nil_append, said, said, List.append_nil]
          exact silent
        · rw [List.nil_append, said, said, List.append_nil]
          exact exit

end

end Timers

/-! ## The turn of a cancelled worker -/

namespace Service

variable {s : Service} {session : String} {w : Worker}

theorem workerSteps_of_none (gone : s.timers.workers[session]? = none) (fuel : Nat) :
    workerSteps session fuel s = s := by
  cases fuel with
  | zero => rfl
  | succ fuel => simp only [workerSteps, gone]

/-- A cancelled worker is shown nothing for its move. -/
theorem workerSteps_of_doomed (h : s.timers.Doomed session w) (fuel : Nat) :
    workerSteps session (fuel + 1) s
      = workerSteps session fuel (s.adopt (s.timers.act session s.now .nothing)) := by
  have sight : s.sight session (s.timers.move s.now w) = (.nothing, s) := by
    rw [h.move_eq]
    split <;> rfl
  simp only [workerSteps, h.found, sight]

/-- What is reported of a worker that begins. -/
def startedLine (session : String) : Log.Line :=
  ⟨.debug, .countdown, "session timer started", [("session_id", session)]⟩

/-- What is reported of a worker that ends as cancelled. -/
def cancelledLine (session : String) : Log.Line :=
  ⟨.debug, .countdown, "session timer stopped",
    [("session_id", session), ("reason", Text.quoted Exit.cancelled.label)]⟩

/-- In its turn a cancelled worker ends as cancelled, whatever is due and whatever has become of its
session: the store is not asked, and nothing is announced. One that had not begun begins first. -/
theorem workerTurn_of_doomed (h : s.timers.Doomed session w) :
    s.workerTurn session = { s with
      timers := { s.timers with
        staff := s.timers.staff.leave session
        workers := s.timers.workers.erase session
        tally := (if w.phase = .fresh then s.timers.tally.begin else s.timers.tally).finish
          .cancelled }
      reports := cancelledLine session
        :: ((if w.phase = .fresh then [startedLine session] else []) ++ s.reports) } := by
  rw [workerTurn, workerSteps_of_doomed h]
  by_cases fresh : w.phase = .fresh
  · rw [h.act_of_fresh fresh]
    have begun := h.begin s.now
    have doomed : (s.adopt (s.timers.begin session w s.now)).timers.Doomed session
        ⟨w.token, .waiting s.now⟩ := begun
    rw [workerSteps_of_doomed doomed, doomed.act_of_begun (fun h => nomatch h)]
    -- The worker that has just begun is the one that ends.
    have again : (s.timers.workers.insert session ⟨w.token, .waiting s.now⟩).erase session
        = s.timers.workers.erase session := by
      refine Std.ExtTreeMap.ext_getElem? fun other => ?_
      by_cases same : session = other
      · simp [same]
      · simp [Std.ExtTreeMap.getElem?_erase, Std.ExtTreeMap.getElem?_insert, same]
    rw [workerSteps_of_none Std.ExtTreeMap.getElem?_erase_self, if_pos fresh, if_pos fresh, ← again]
    rfl
  · rw [h.act_of_begun fresh, workerSteps_of_none Std.ExtTreeMap.getElem?_erase_self, if_neg fresh,
      if_neg fresh]
    rfl

end Service

namespace Timers

open Custody

/-- **WHOM A CANCELLATION REACHES, AND WHAT FOLLOWS.** Whatever callers have done: a worker at work
was launched by a call, and is cancelled exactly if since then its session was asked to end it or
everyone was asked to end, or at some time the token of that call was cancelled or one from which it
descends. A later call for the session, its token, and other sessions have no part in that. A
cancelled worker has nothing to do at any time but to begin, if it has not, and to stop: whatever
follows it announces nothing, until by a move of its own it ends as cancelled. It does so in its
next turn, in which the store is not asked, whatever is due and whatever has become of the
session. -/
theorem cancelled_iff_and_silent (limit : Option Nat) (ds : List Deed) (session : String)
    (w : Worker) (permitted : (start limit).PermitsAll ds)
    (atWork : (after limit ds).timers.workers[session]? = some w) :
    let t := (after limit ds).timers
    (∃ before i parent later, Launched limit ds session w.token before i parent later ∧
      (t.isCancelled w = true ↔
        .cancel session ∈ later ∨ .shutDown ∈ later ∨
          ∃ u ∈ parent.line, .cancelToken u ∈ ds)) ∧
    (t.isCancelled w = true →
      (∀ now, t.move now w = if w.phase = .fresh then .begin else .stop) ∧
      (∀ more, t.EndsInSilence session w more) ∧
      ∀ s : Service, s.timers = t → s.workerTurn session = { s with
        timers := { t with
          staff := t.staff.leave session
          workers := t.workers.erase session
          tally := (if w.phase = .fresh then t.tally.begin else t.tally).finish .cancelled }
        reports := Service.cancelledLine session ::
          ((if w.phase = .fresh then [Service.startedLine session] else []) ++ s.reports) }) := by
  intro t
  have sound := sound_after permitted
  refine ⟨exists_launched permitted (sound.registered_of_found atWork), fun cancelled => ?_⟩
  have doomed : t.Doomed session w := sound.doomed atWork cancelled
  refine ⟨doomed.move_eq, doomed.endsInSilence, ?_⟩
  intro s same
  rw [← same] at doomed ⊢
  exact Service.workerTurn_of_doomed doomed

/-- The dispatcher has a worker launched for the session `s`, which begins. Somebody else asks for
the same session and cancels the token of that request; the worker of the session `t` is asked to
end; and then the dispatcher's token is cancelled. -/
def sampleDeeds : List Deed :=
  [.newChild .dispatcher, .run ⟨"n", "s", "", "", "", .epoch⟩ (.child .dispatcher 0),
    .act "s" 0 .nothing, .run ⟨"m", "s", "", "", "", .epoch⟩ (.named "a"),
    .cancelToken (.named "a"), .cancel "t", .cancelToken .dispatcher]

/-- The worker's look is due, but it ends as cancelled, and the store is not asked. -/
theorem cancelled_iff_and_silent_due :
    (start none).PermitsAll sampleDeeds ∧
      (after none sampleDeeds).timers.workers["s"]?
        = some ⟨.child (.child .dispatcher 0) 1, .waiting 0⟩ ∧
      ∀ s : Service, s.timers = (after none sampleDeeds).timers →
        (s.workerTurn "s").sessionReads = s.sessionReads ∧
        (s.workerTurn "s").metrics.workers.cancelled = 1 := by
  have permitted : (start none).PermitsAll sampleDeeds := by decide +kernel
  have atWork : (after none sampleDeeds).timers.workers["s"]?
      = some ⟨.child (.child .dispatcher 0) 1, .waiting 0⟩ := by decide +kernel
  have cancelled : (after none sampleDeeds).timers.isCancelled
      ⟨.child (.child .dispatcher 0) 1, .waiting 0⟩ = true := by decide +kernel
  have counted : ((after none sampleDeeds).timers.tally.finish .cancelled).cancelled = 1 := by
    decide +kernel
  refine ⟨permitted, atWork, ?_⟩
  intro s same
  rw [((cancelled_iff_and_silent none sampleDeeds "s" _ permitted atWork).2 cancelled).2.2 s same]
  exact ⟨rfl, counted⟩

end Timers

end Playgrounds
