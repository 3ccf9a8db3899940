import Mathlib.Data.List.Induction
import Playgrounds.Proofs.Worker.Story

/-!
# The diary of a worker

When a worker began, when it looked at its session, and what was announced of the session at which
times: told of any history of the timers, with whatever the worker got to see in it.

* `Tick`, `Diary` — the times of the looks, and the timers with what was seen of one worker.
* `Diary.step`, `Diary.after` — one deed, and a history of deeds.
* `Timers.Goes`, `Timers.Ends` — what a worker can make of its turn, one constructor for each way.
* `Timers.turns_act` — one turn of a worker.
* `Diary.OnDuty`, `Diary.Writes` — what a deed adds to the diary of a worker that is at work.
* `Diary.holds_after` — what each entry keeps holds of the whole diary.
-/

namespace Playgrounds

/-- A look of a worker at its session: when it was due, and when the worker asked the store. -/
structure Tick where
  due : Nat
  taken : Nat
deriving DecidableEq, Repr

/-- The timers from the launch of a worker on, and what was seen of that worker. -/
structure Diary where
  timers : Timers
  /-- When the worker began. -/
  began : Option Nat
  /-- Its looks, the first one first. -/
  ticks : List Tick
  /-- What was announced of the session, and when. -/
  announced : List (Nat × Event)
  /-- When and why the worker ended. -/
  ended : Option (Nat × Exit)

/-- What a sight shows of the session, and the clock after that. -/
def Sight.look? : Sight → Option Look
  | .call (.answered read) clock | .answer read clock => some ⟨.atOnce, read, clock⟩
  | .nothing | .call (.delayed _) _ | .call .silent _ | .call .brokenDown _ => none

namespace Timers

/-- Whether the session has a worker that has not begun. -/
def hasFresh (t : Timers) (session : String) : Bool :=
  t.workers[session]?.any (·.phase = .fresh)

/-- The look that the worker of a session takes by its next move, if it does. -/
def tick? (t : Timers) (session : String) (now : Nat) (sight : Sight) : Option Tick :=
  match t.workers[session]?.map (t.move now), sight with
  | some (.ask due), .call _ _ => some ⟨due, now⟩
  | _, _ => none

end Timers

namespace Diary

/-- Nothing has been seen of a worker that was just launched. -/
def start (t : Timers) : Diary :=
  ⟨t, none, [], [], none⟩

/-- The worker makes its next move. -/
def turn (session : String) (y : Diary) (now : Nat) (sight : Sight) : Diary :=
  let r := y.timers.act session now sight
  { timers := r.1
    began := if y.timers.hasFresh session then some now else y.began
    ticks := y.ticks ++ (y.timers.tick? session now sight).toList
    announced := y.announced ++ (Timers.events session r.2).map (now, ·)
    ended := (Timers.exits session r.2).head?.map (now, ·) }

/-- What comes of a deed. The diary ends with the worker. -/
def step (session : String) (y : Diary) (d : Timers.Deed) : Diary :=
  if y.ended.isSome then y
  else
    match d with
    | .act other now sight =>
      if other = session then y.turn session now sight
      else { y with timers := (y.timers.step d).1 }
    | _ => { y with timers := (y.timers.step d).1 }

/-- What comes of a history of deeds. -/
def after (session : String) (t : Timers) (ds : List Timers.Deed) : Diary :=
  ds.foldl (step session) (start t)

variable {session : String} {t : Timers} {y : Diary}

theorem after_concat (session : String) (t : Timers) (ds : List Timers.Deed) (d : Timers.Deed) :
    after session t (ds ++ [d]) = (after session t ds).step session d := by
  simp only [after, List.foldl_append, List.foldl_cons, List.foldl_nil]

theorem step_of_ended (ended : y.ended.isSome = true) (d : Timers.Deed) :
    y.step session d = y :=
  if_pos ended

end Diary

/-! ## One turn -/

namespace Timers

variable {session : String} {t : Timers} {w : Worker} {now : Nat} {sight : Sight}

/-- By its turn a worker goes on from one phase to another, takes a look if it does, and some events
are announced. -/
inductive Goes (session : String) (now : Nat) (sight : Sight) :
    Worker.Phase → Option Tick → List Event → Worker.Phase → Prop where
  | stays (p : Worker.Phase) (begun : p ≠ .fresh)
    (idle : ∀ due c clock, p = .waiting due → sight = .call c clock → now < due) :
    Goes session now sight p none [] p
  | begins : Goes session now sight .fresh none [] (.waiting now)
  | asks {due : Nat} {c : Store.Call Session} {clock : Instant} (r : Worker.Reading)
    (isDue : due ≤ now) (asked : sight = .call c clock) (unanswered : sight.look? = none) :
    Goes session now sight (.waiting due) (some ⟨due, now⟩) []
      (.reading (Worker.nextDue due now) r)
  | looks {due : Nat} {k : Look} {event : Option Event} (isDue : due ≤ now)
    (shown : sight.look? = some k) (answer : k.answer session = .goOn event) :
    Goes session now sight (.waiting due) (some ⟨due, now⟩) event.toList
      (.waiting (Worker.nextDue due now))
  | hears {due : Nat} {r : Worker.Reading} {k : Look} {event : Option Event}
    (shown : sight.look? = some k) (answer : k.answer session = .goOn event) :
    Goes session now sight (.reading due r) none event.toList (.waiting due)
  | givesUp {due : Nat} {r : Worker.Reading} :
    Goes session now sight (.reading due r) none [] (.waiting due)

/-- By its turn a worker takes a look if it does, and ends. -/
inductive Ends (session : String) (now : Nat) (sight : Sight) (isCancelled : Bool) :
    Worker.Phase → Option Tick → Exit → Prop where
  | cancelled {p : Worker.Phase} (begun : p ≠ .fresh) (cancelled : isCancelled = true) :
    Ends session now sight isCancelled p none .cancelled
  | looks {due : Nat} {k : Look} {e : Exit} (isDue : due ≤ now)
    (shown : sight.look? = some k) (answer : k.answer session = .stop e) :
    Ends session now sight isCancelled (.waiting due) (some ⟨due, now⟩) e
  | breaksDown {due : Nat} {clock : Instant} (isDue : due ≤ now)
    (shown : sight = .call .brokenDown clock) :
    Ends session now sight isCancelled (.waiting due) (some ⟨due, now⟩) .aborted
  | hears {due : Nat} {r : Worker.Reading} {k : Look} {e : Exit}
    (shown : sight.look? = some k) (answer : k.answer session = .stop e) :
    Ends session now sight isCancelled (.reading due r) none e

/-- Only a worker that has begun ends by its turn. -/
theorem Ends.begun {cancelled : Bool} {p : Worker.Phase} {tick : Option Tick} {e : Exit}
    (ends : Ends session now sight cancelled p tick e) : p ≠ .fresh := by
  cases ends with
  | cancelled begun => exact begun
  | looks | breaksDown | hears => exact Worker.Phase.noConfusion

/-- No answer of the store is a cancellation. -/
theorem answer_ne_cancelled (session : String) (k : Look) :
    k.answer session ≠ .stop .cancelled := by
  intro answer
  rw [Look.answer] at answer
  split at answer
  next =>
      split at answer
      next => cases answer
      next => cases answer
  next => cases answer
  next => cases answer
  next => cases answer

/-- Only one that is cancelled ends as cancelled. -/
theorem Ends.isCancelled {cancelled : Bool} {p : Worker.Phase} {tick : Option Tick}
    (ends : Ends session now sight cancelled p tick .cancelled) : cancelled = true := by
  cases ends with
  | cancelled _ cancelled => exact cancelled
  | looks _ _ answer => exact absurd answer (answer_ne_cancelled session _)
  | hears _ answer => exact absurd answer (answer_ne_cancelled session _)

/-- A worker that has made its turn and goes on is in another phase, and nothing else has changed
about it. -/
structure GoesOn (session : String) (t : Timers) (w : Worker) (r : Timers × List Notice)
    (told : List Event) (phase : Worker.Phase) : Prop where
  found : r.1.workers[session]? = some { w with phase }
  staff : r.1.staff = t.staff
  told : events session r.2 = told
  silent : exits session r.2 = []

/-- A worker that only changes its phase goes on. -/
theorem goesOn_setPhase (t : Timers) (w : Worker) (phase : Worker.Phase) (tally : Tally)
    {ns : List Notice} (events : events session ns = []) (exits : exits session ns = []) :
    GoesOn session t w ({ t.setPhase session w phase with tally }, ns) [] phase :=
  ⟨Std.ExtTreeMap.getElem?_insert_self, rfl, events, exits⟩

theorem goesOn_nothing (found : t.workers[session]? = some w) :
    GoesOn session t w (t, []) [] w.phase :=
  ⟨found, rfl, rfl, rfl⟩

/-- A worker that has been shown its session goes on or ends, as the answer says. -/
theorem Concludes.cases {due : Nat} {r : Timers × List Notice} {u : Upshot}
    (c : Concludes session t w due r u) :
    (∃ event, u = .goOn event ∧ GoesOn session t w r event.toList (.waiting due)) ∨
      ∃ e, u = .stop e ∧ r = t.finish session e := by
  cases u with
  | goOn event =>
      obtain ⟨⟨tally, timers⟩, told, silent⟩ := c
      refine .inl ⟨event, rfl, ?_, ?_, told, silent⟩
      · rw [timers]
        exact Std.ExtTreeMap.getElem?_insert_self
      · rw [timers]
        rfl
  | stop e => exact .inr ⟨e, rfl, c⟩

/-- What a worker makes of its turn: it takes this look if it takes any, and goes on or ends. -/
def Turns (session : String) (t : Timers) (w : Worker) (now : Nat) (sight : Sight)
    (tick : Option Tick) (r : Timers × List Notice) : Prop :=
  (∃ told phase, Goes session now sight w.phase tick told phase ∧
    GoesOn session t w r told phase) ∨
  ∃ e, Ends session now sight (t.isCancelled w) w.phase tick e ∧ r = t.finish session e

/-- A worker that has nothing to do goes on as it is. -/
theorem turns_nothing (found : t.workers[session]? = some w) (begun : w.phase ≠ .fresh)
    (idle : ∀ due c clock, w.phase = .waiting due → sight = .call c clock → now < due) :
    Turns session t w now sight none (t, []) :=
  .inl ⟨[], w.phase, .stays w.phase begun idle, goesOn_nothing found⟩

/-- A worker that is due asks for its session. -/
theorem turns_ask {due : Nat} (waits : w.phase = .waiting due) (isDue : due ≤ now)
    (c : Store.Call Session) (clock : Instant) :
    Turns session t w now (.call c clock) (some ⟨due, now⟩)
      (t.ask session w due now c clock) := by
  rw [Turns, waits]
  cases c with
  | answered read =>
      have concludes : Concludes session t w (Worker.nextDue due now) _ _ :=
        concludes_answer ⟨.atOnce, read, clock⟩
      obtain ⟨event, goes, goesOn⟩ | ⟨e, stops, ends⟩ := concludes.cases
      · exact .inl ⟨_, _, .looks isDue rfl goes, goesOn⟩
      · exact .inr ⟨e, .looks isDue rfl stops, ends⟩
  | delayed ms =>
      exact .inl ⟨_, _, .asks _ isDue rfl rfl, goesOn_setPhase t w _ t.tally rfl rfl⟩
  | silent =>
      exact .inl ⟨_, _, .asks _ isDue rfl rfl, goesOn_setPhase t w _ t.tally rfl rfl⟩
  | brokenDown => exact .inr ⟨_, .breaksDown isDue rfl, rfl⟩

/-- A worker that hears an answer acts on it. -/
theorem turns_hear {due : Nat} {r : Worker.Reading} (reads : w.phase = .reading due r)
    (read : Store.Outcome Session) (clock : Instant) :
    Turns session t w now (.answer read clock) none
      (t.conclude session w due (.of read clock)) := by
  rw [Turns, reads]
  have concludes : Concludes session t w due _ _ := concludes_answer ⟨.atOnce, read, clock⟩
  obtain ⟨event, goes, goesOn⟩ | ⟨e, stops, ends⟩ := concludes.cases
  · exact .inl ⟨_, _, .hears rfl goes, goesOn⟩
  · exact .inr ⟨e, .hears rfl stops, ends⟩

/-- A worker that has waited too long goes on as after a failure. -/
theorem turns_giveUp {due : Nat} {r : Worker.Reading} (reads : w.phase = .reading due r)
    (why : Store.Failure) :
    Turns session t w now sight none (t.conclude session w due (.failed why)) := by
  rw [Turns, reads]
  have concludes : Concludes session t w due _ _ := concludes_failed why
  obtain ⟨event, goes, goesOn⟩ | ⟨e, stops, -⟩ := concludes.cases
  · cases goes
    exact .inl ⟨_, _, .givesUp, goesOn⟩
  · cases stops

theorem tick?_of_found (found : t.workers[session]? = some w) (now : Nat) (sight : Sight) :
    t.tick? session now sight = match t.move now w, sight with
      | .ask due, .call _ _ => some ⟨due, now⟩
      | _, _ => none := by
  simp only [tick?, found, Option.map_some]
  cases t.move now w <;> cases sight <;> rfl

/-- **One turn of a worker**, by what it waits for. -/
theorem turns_act (found : t.workers[session]? = some w) (now : Nat) (sight : Sight) :
    Turns session t w now sight (t.tick? session now sight) (t.act session now sight) := by
  have tick := tick?_of_found found now sight
  by_cases fresh : w.phase = .fresh
  · have move := move_of_fresh (t := t) now fresh
    rw [tick, act_begin found move, move]
    refine .inl ⟨[], .waiting now, ?_, goesOn_setPhase t w _ t.tally.begin rfl ?_⟩
    · rw [fresh]
      exact .begins
    · exact List.filterMap_cons_none (exit?_line "session timer started" (by decide))
  by_cases cancelled : t.isCancelled w = true
  · have move := move_of_isCancelled now fresh cancelled
    rw [tick, act_stop found move, move]
    exact .inr ⟨.cancelled, .cancelled fresh cancelled, rfl⟩
  rw [Bool.not_eq_true] at cancelled
  -- Where the worker rests, it must not have been due.
  have resting (move : t.move now w = .rest)
      (idle : ∀ due c clock, w.phase = .waiting due → sight = .call c clock → now < due) :
      Turns session t w now sight (t.tick? session now sight) (t.act session now sight) := by
    rw [tick, act_rest found move, move]
    exact turns_nothing found fresh idle
  cases phase : w.phase with
  | fresh => exact absurd phase fresh
  | waiting due =>
      have move := move_of_waiting now phase cancelled
      by_cases isDue : due ≤ now
      · rw [if_pos isDue] at move
        cases sight with
        | call c clock =>
            rw [tick, act_ask found move, move]
            exact turns_ask phase isDue c clock
        | nothing | answer =>
            simp only [tick, act, found, move]
            exact turns_nothing found fresh fun _ _ _ _ sees => Sight.noConfusion sees
      · rw [if_neg isDue] at move
        refine resting move ?_
        rintro due' c clock waits -
        cases phase.symm.trans waits
        exact Nat.lt_of_not_le isDue
  | reading due r =>
      have idle : ∀ due c clock, w.phase = .waiting due → sight = .call c clock → now < due := by
        intro due' c clock waits
        cases phase.symm.trans waits
      have move := move_of_reading now phase cancelled
      -- The read goes on, has been answered, or is given up.
      cases ending : r.ending? now with
      | none =>
          rw [ending] at move
          exact resting move idle
      | some e =>
          rw [ending] at move
          cases e with
          | answered =>
              cases sight with
              | answer read clock =>
                  rw [tick, act_hear found move, move]
                  exact turns_hear phase read clock
              | nothing | call =>
                  simp only [tick, act, found, move, Option.elim_some, Worker.ReadEnd.move]
                  exact turns_nothing found fresh idle
          | tooLate =>
              rw [tick, act_giveUp found move, move]
              exact turns_giveUp phase _

end Timers

/-! ## The run -/

namespace Diary

variable {session : String} {token : Token} {t : Timers} {y : Diary} {phase : Worker.Phase}

/-- The worker is at work in this phase. -/
structure OnDuty (session : String) (token : Token) (y : Diary) (phase : Worker.Phase) :
    Prop where
  found : y.timers.workers[session]? = some ⟨token, phase⟩
  entered : session ∈ y.timers.staff.roster.entries
  ended : y.ended = none

/-- The worker has ended, and if by its cancellation then that was asked for. -/
structure OffDuty (session : String) (token : Token) (y : Diary) : Prop where
  gone : y.timers.workers[session]? = none
  ended : y.ended.isSome = true
  asked : ∀ time, y.ended = some (time, .cancelled) →
    y.timers.staff.cancellations.covers token = true

/-- The worker goes on, and this is added to its diary. -/
def goOn (y : Diary) (timers : Timers) (phase : Worker.Phase) (now : Nat) (tick : Option Tick)
    (told : List Event) : Diary :=
  { timers
    began := if phase = .fresh then some now else y.began
    ticks := y.ticks ++ tick.toList
    announced := y.announced ++ told.map (now, ·)
    ended := none }

/-- A worker begins with its first turn. -/
theorem began_goOn_of_fresh (y : Diary) (timers : Timers) (now : Nat) (tick : Option Tick)
    (told : List Event) : (y.goOn timers .fresh now tick told).began = some now :=
  rfl

/-- A worker begins only once. -/
theorem began_goOn (begun : phase ≠ .fresh) (timers : Timers) (now : Nat) (tick : Option Tick)
    (told : List Event) : (y.goOn timers phase now tick told).began = y.began :=
  if_neg begun

/-- The worker ends, and this is added to its diary. -/
def finish (y : Diary) (timers : Timers) (now : Nat) (tick : Option Tick) (e : Exit) : Diary :=
  { timers
    began := y.began
    ticks := y.ticks ++ tick.toList
    announced := y.announced
    ended := some (now, e) }

/-- A worker that ends is off duty. -/
theorem offDuty_finish (y : Diary) {timers : Timers} {now : Nat} {sight : Sight}
    {tick : Option Tick} {e : Exit} (gone : timers.workers[session]? = none)
    (ends : Timers.Ends session now sight (timers.staff.cancellations.covers token) phase tick e) :
    OffDuty session token (y.finish timers now tick e) := by
  refine ⟨gone, rfl, ?_⟩
  intro time stopped
  cases (congrArg (·.map Prod.snd) stopped : some _ = some Exit.cancelled)
  exact ends.isCancelled

/-- What a deed adds to the diary of a worker that is at work. -/
inductive Writes (session : String) (token : Token) (y : Diary) (phase : Worker.Phase) :
    Timers.Deed → Diary → Prop where
  | aside {d : Timers.Deed} (timers : Timers) (avoids : d.Avoids session y.timers)
    (onDuty : OnDuty session token { y with timers } phase) :
    Writes session token y phase d { y with timers }
  | goes {now : Nat} {sight : Sight} {tick : Option Tick} {told : List Event}
    {phase' : Worker.Phase} (timers : Timers)
    (goes : Timers.Goes session now sight phase tick told phase')
    (onDuty : OnDuty session token (y.goOn timers phase now tick told) phase') :
    Writes session token y phase (.act session now sight) (y.goOn timers phase now tick told)
  | ends {now : Nat} {sight : Sight} {tick : Option Tick} {e : Exit} (timers : Timers)
    (gone : timers.workers[session]? = none)
    (ends : Timers.Ends session now sight (timers.staff.cancellations.covers token) phase tick e) :
    Writes session token y phase (.act session now sight) (y.finish timers now tick e)

namespace OnDuty

variable (o : OnDuty session token y phase)

include o

/-- What passes by a worker leaves it on duty. -/
theorem aside {r : Timers × List Notice} (p : Timers.PassesBy session y.timers r) :
    OnDuty session token { y with timers := r.1 } phase := by
  refine ⟨p.worker.trans o.found, ?_, o.ended⟩
  show session ∈ r.1.staff.roster.entries
  rw [Std.ExtTreeMap.mem_iff_isSome_getElem?, p.entry, ← Std.ExtTreeMap.mem_iff_isSome_getElem?]
  exact o.entered

theorem hasFresh_eq : y.timers.hasFresh session = decide (phase = .fresh) := by
  rw [Timers.hasFresh, o.found]
  rfl

/-- **Each turn of a worker is written down as what it was.** -/
theorem turn (now : Nat) (sight : Sight) :
    Writes session token y phase (.act session now sight) (y.turn session now sight) := by
  have fresh := o.hasFresh_eq
  rcases Timers.turns_act o.found now sight with ⟨told, phase', goes, on⟩ | ⟨e, ends, finish⟩
  · have same : y.turn session now sight
        = y.goOn (y.timers.act session now sight).1 phase now
          (y.timers.tick? session now sight) told := by
      rw [Diary.turn, goOn, fresh, on.told, on.silent]
      simp only [decide_eq_true_eq, List.head?_nil, Option.map_none]
    rw [same]
    refine .goes _ goes ⟨on.found, ?_, rfl⟩
    show session ∈ (y.timers.act session now sight).1.staff.roster.entries
    rw [on.staff]
    exact o.entered
  · have begun : phase ≠ .fresh := ends.begun
    have same : y.turn session now sight
        = y.finish (y.timers.act session now sight).1 now
          (y.timers.tick? session now sight) e := by
      rw [Diary.turn, Diary.finish, fresh, decide_eq_false begun, finish, Timers.events_finish,
        Timers.exits_finish]
      simp only [Bool.false_eq_true, if_false, List.map_nil, List.append_nil, List.head?_cons,
        Option.map_some]
    rw [same]
    refine .ends _ ?_ ?_
    · rw [finish]
      exact Std.ExtTreeMap.getElem?_erase_self
    · rw [Timers.cancellations_act]
      exact ends

/-- **One deed adds something to the diary of a worker that is at work.** -/
theorem writes (d : Timers.Deed) : Writes session token y phase d (y.step session d) := by
  have passing (avoids : d.Avoids session y.timers) :
      Writes session token y phase d { y with timers := (y.timers.step d).1 } :=
    .aside _ avoids (o.aside (Timers.passesBy_step y.timers avoids))
  unfold Diary.step
  rw [if_neg (by rw [o.ended]; exact Bool.false_ne_true)]
  cases d with
  | act other now sight =>
      by_cases own : other = session
      · rw [own]
        simp only [if_true]
        exact o.turn now sight
      · simp only [if_neg own]
        exact passing own
  | run i parent => exact passing (.inr o.entered)
  | newChild | cancel | cancelToken | shutDown => exact passing trivial

end OnDuty

/-- A worker that was just launched is at work, and has not begun. -/
theorem onDuty_launch {i : Instance} {parent : Token}
    (launched : (t.staff.launch i.sessionId parent).1 = some token) :
    OnDuty i.sessionId token (start (t.launch i parent).1) .fresh := by
  by_cases taken : i.sessionId ∈ t.staff.roster.entries ∨ t.staff.roster.isClosed = true
  · rw [Staff.launch_of_taken parent taken] at launched
    cases launched
  rw [not_or, Bool.not_eq_true] at taken
  have launch := Staff.launch_of_free parent taken.1 taken.2
  rw [launch] at launched
  refine ⟨?_, ?_, rfl⟩
  · rw [start, Timers.launch, launch, ← Option.some.inj launched]
    exact Std.ExtTreeMap.getElem?_insert_self
  · rw [start, Timers.launch, launch, Staff.enter_of_free parent taken.1 taken.2]
    exact Std.ExtTreeMap.mem_insert_self

/-- **What each entry keeps holds of the whole diary.** `P` is what holds as long as the worker is
at work, by its phase, and `Q` is what holds once it has ended. -/
theorem holds_after {i : Instance} {parent : Token}
    (launched : (t.staff.launch i.sessionId parent).1 = some token)
    {P : List Timers.Deed → Worker.Phase → Diary → Prop} {Q : List Timers.Deed → Diary → Prop}
    (launch : P [] .fresh (start (t.launch i parent).1))
    (aside : ∀ {ds y phase} (d timers), P ds phase y → P (ds ++ [d]) phase { y with timers })
    (goes : ∀ {ds y phase now sight tick told phase'} (timers),
      Timers.Goes i.sessionId now sight phase tick told phase' → P ds phase y →
      P (ds ++ [.act i.sessionId now sight]) phase' (y.goOn timers phase now tick told))
    (ends : ∀ {ds y phase now sight cancelled tick e} (timers),
      Timers.Ends i.sessionId now sight cancelled phase tick e → P ds phase y →
      Q (ds ++ [.act i.sessionId now sight]) (y.finish timers now tick e))
    (rests : ∀ {ds y} (d), Q ds y → Q (ds ++ [d]) y)
    (ds : List Timers.Deed) :
    let y := after i.sessionId (t.launch i parent).1 ds
    (∃ phase, OnDuty i.sessionId token y phase ∧ P ds phase y) ∨
      OffDuty i.sessionId token y ∧ Q ds y := by
  intro y
  induction ds using List.reverseRecOn with
  | nil => exact .inl ⟨.fresh, onDuty_launch launched, launch⟩
  | append_singleton ds d ih =>
      have next : y = (after i.sessionId (t.launch i parent).1 ds).step i.sessionId d :=
        after_concat ..
      generalize after i.sessionId (t.launch i parent).1 ds = before at ih next
      rcases ih with ⟨phase, onDuty, holds⟩ | ⟨offDuty, holds⟩
      -- As long as the worker is on duty, each deed is one of those that are written down.
      · have writes := onDuty.writes d
        rw [← next] at writes
        generalize y = y at writes
        cases writes with
        | aside timers _ onDuty => exact .inl ⟨phase, onDuty, aside d timers holds⟩
        | goes timers goes' onDuty => exact .inl ⟨_, onDuty, goes timers goes' holds⟩
        | ends timers gone ends' =>
            exact .inr ⟨offDuty_finish before gone ends', ends timers ends' holds⟩
      · rw [next, step_of_ended offDuty.ended]
        exact .inr ⟨offDuty, rests d holds⟩

end Diary

end Playgrounds
