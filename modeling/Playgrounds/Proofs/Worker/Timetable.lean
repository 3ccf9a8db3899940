import Playgrounds.Proofs.Worker.Pace

/-!
# The timetable of a countdown

Where the store answers at once, the clock goes with the time and the end of the session stays where
it is, a worker that nobody cancels announces the whole countdown, second by second, and ends as it
has run out.

* `Countdown.length` — how many announcements a countdown has.
* `Diary.timetable` — what is announced and when.
* `Diary.OnTime` — a store that answers at once, and a worker that is never late.
* `Diary.Kept` — the invariant: the worker has announced the timetable so far.
* `Diary.counts_down` — it does so, and ends when it should; and there is such a run for any start.
-/

namespace Playgrounds

namespace Countdown

/-- How many seconds have begun, or will, of what is left. -/
def length (left : Int) : Nat :=
  (-(-left / nanosPerSecond)).toNat

/-- There is a slot for each whole second that is left. -/
theorem lt_length_iff {left : Int} {n : Nat} : n < length left ↔ n * nanosPerSecond < left := by
  unfold length nanosPerSecond
  omega

/-- From one announcement to the next a whole second goes. -/
theorem wholeSeconds_eq_succ {left : Int} {n : Nat} (more : n + 1 < length left) :
    wholeSeconds (left - n * nanosPerSecond)
      = wholeSeconds (left - (n + 1 : Nat) * nanosPerSecond) + 1 := by
  rw [lt_length_iff] at more
  unfold wholeSeconds
  unfold nanosPerSecond at *
  omega

end Countdown

namespace Instant

variable {ending clock : Instant} (plain : ending.inLeapSecond = false)
  (plain' : clock.inLeapSecond = false)

include plain plain'

/-- So many seconds after some time, the instant has come if no second is left of the span until
it. -/
theorem notAfter_plus_iff (began n : Nat) :
    ending.notAfter (clock.plus (began + Worker.periodMs * n)) = true ↔
      Countdown.length (ending.since (clock.plus began)) ≤ n := by
  have within := nanos_le_last plain
  have period : Worker.periodMs = 1000 := rfl
  have second : nanosPerSecond = 1000000000 := rfl
  rw [← Nat.not_lt, Countdown.lt_length_iff,
    notAfter_iff_nanos plain (inLeapSecond_plus plain' _),
    since_eq_sub plain (inLeapSecond_plus plain' _), nanos_plus plain', nanos_plus plain', period,
    second]
  omega

/-- Until then the span until it becomes shorter by one second for each. -/
theorem since_plus_eq {began n : Nat}
    (before : n < Countdown.length (ending.since (clock.plus began))) :
    ending.since (clock.plus (began + Worker.periodMs * n))
      = ending.since (clock.plus began) - n * nanosPerSecond := by
  have within := nanos_le_last plain
  have period : Worker.periodMs = 1000 := rfl
  have second : nanosPerSecond = 1000000000 := rfl
  have start := since_eq_sub plain (inLeapSecond_plus plain' began)
  rw [nanos_plus plain'] at start
  rw [Countdown.lt_length_iff, second] at before
  rw [since_eq_sub plain (inLeapSecond_plus plain' _), nanos_plus plain', period, second]
  omega

end Instant

namespace Diary

/-- What the first announcements of a countdown are, and when they are made. -/
def timetable (session : String) (began : Nat) (left : Int) (n : Nat) : List (Nat × Event) :=
  (List.range n).map fun j =>
    (began + Worker.periodMs * j, Timers.countdown session (left - j * nanosPerSecond))

/-- The timetable goes on with one slot more. -/
theorem timetable_succ (session : String) (began : Nat) (left : Int) (n : Nat) :
    timetable session began left (n + 1) = timetable session began left n ++
      [(began + Worker.periodMs * n, Timers.countdown session (left - n * nanosPerSecond))] := by
  rw [timetable, List.range_succ, List.map_append]
  rfl

/-- The worker is shown nothing, or a session that ends at the instant `ending`: at once, and by a
clock that has gone as long as the time. -/
def Prompt (ending clock : Instant) (now : Nat) (sight : Sight) : Prop :=
  sight = .nothing ∨ ∃ s : Session, s.expiresAt = ending ∧
    sight = .call (.answered (.ok s)) (clock.plus now)

/-- Until then the store answers at once, and the worker is not late for any look. -/
structure Timely (session : String) (ending clock : Instant) (time : Nat)
    (ds : List Timers.Deed) (y : Diary) : Prop where
  past : ∀ now sight, .act session now sight ∈ ds → now ≤ time
  prompt : ∀ now sight, .act session now sight ∈ ds → Prompt ending clock now sight
  punctual : ∀ k ∈ y.ticks, k.taken = k.due

/-- And the worker is not cancelled, and has done all that there was to do. -/
structure OnTime (session : String) (token : Token) (ending clock : Instant) (time : Nat)
    (ds : List Timers.Deed) (y : Diary) : Prop extends
    Timely session ending clock time ds y where
  free : y.timers.staff.cancellations.covers token = false
  settled : ∀ w, y.timers.workers[session]? = some w →
    ∀ wake, w.wakeAt? time = some wake → time < wake

/-! ## The invariant -/

section

variable (session : String) (ending clock : Instant) (time : Nat)

/-- The worker has announced the timetable until its next look. -/
def Kept (y : Diary) : Worker.Phase → Prop
  | .fresh => y.announced = []
  | .waiting due => ∃ began n, y.began = some began ∧ began ≤ time ∧
    due = began + Worker.periodMs * n ∧ due ≤ time + Worker.periodMs ∧
    n ≤ Countdown.length (ending.since (clock.plus began)) ∧
    y.announced = timetable session began (ending.since (clock.plus began)) n
  | .reading _ _ => False

/-- The worker has announced the whole timetable, and ended after that. -/
def Done (y : Diary) : Prop :=
  ∃ began, y.began = some began ∧
    began + Worker.periodMs * Countdown.length (ending.since (clock.plus began)) ≤ time ∧
    y.announced = timetable session began (ending.since (clock.plus began))
      (Countdown.length (ending.since (clock.plus began))) ∧
    y.ended = some (began + Worker.periodMs * Countdown.length (ending.since (clock.plus began)),
      .expired)

end

section

variable {session : String} {ending clock : Instant} {time now : Nat} {ds : List Timers.Deed}
  {d : Timers.Deed} {y y' : Diary} {sight : Sight} {phase phase' : Worker.Phase}
  {tick : Option Tick}

/-- A run that is in time was so before its last deed. -/
theorem Timely.of_concat (timely : Timely session ending clock time (ds ++ [d]) y')
    (ticks : ∀ k ∈ y.ticks, k ∈ y'.ticks) : Timely session ending clock time ds y := by
  refine ⟨?_, ?_, ?_⟩
  · exact fun now sight member => timely.past now sight (List.mem_append_left _ member)
  · exact fun now sight member => timely.prompt now sight (List.mem_append_left _ member)
  · exact fun k member => timely.punctual k (ticks k member)

theorem Timely.last
    (timely : Timely session ending clock time (ds ++ [.act session now sight]) y') :
    now ≤ time ∧ Prompt ending clock now sight :=
  ⟨timely.past now sight (List.mem_append_right _ (List.mem_singleton_self _)),
    timely.prompt now sight (List.mem_append_right _ (List.mem_singleton_self _))⟩

/-- A prompt look is at a session with this ending, at the time of the clock. -/
theorem Prompt.look (prompt : Prompt ending clock now sight) {k : Look}
    (shown : sight.look? = some k) :
    ∃ s : Session, s.expiresAt = ending ∧ k = ⟨.atOnce, .ok s, clock.plus now⟩ := by
  rcases prompt with rfl | ⟨s, ends, rfl⟩
  · exact nomatch shown
  · cases shown
    exact ⟨s, ends, rfl⟩

theorem Prompt.answered (prompt : Prompt ending clock now sight) {c : Store.Call Session}
    {at' : Instant} (asked : sight = .call c at') : sight.look? ≠ none := by
  rcases prompt with rfl | ⟨s, ends, rfl⟩
  · exact nomatch asked
  · exact nofun

section

variable (plain : ending.inLeapSecond = false) (plain' : clock.inLeapSecond = false)

include plain plain'

/-- What comes of a look that is taken on a whole second. -/
theorem answer_prompt (session : String) {s : Session} (ends : s.expiresAt = ending)
    (began n : Nat) :
    Look.answer session ⟨.atOnce, .ok s, clock.plus (began + Worker.periodMs * n)⟩
      = if Countdown.length (ending.since (clock.plus began)) ≤ n then .stop .expired
        else .goOn (some (Timers.countdown session
          (ending.since (clock.plus began) - n * nanosPerSecond))) := by
  have isOver := Instant.notAfter_plus_iff plain plain' began n
  simp only [Look.answer, ends, isOver]
  split
  next => rfl
  next more =>
      rw [Instant.since_plus_eq plain plain' (Nat.lt_of_not_le more)]
      rfl

/-- **A worker that goes on keeps to its timetable.** -/
theorem Kept.goes {told : List Event} {timers : Timers}
    (kept : Kept session ending clock time y phase)
    (timely : Timely session ending clock time (ds ++ [.act session now sight])
      (y.goOn timers phase now tick told))
    (goes : Timers.Goes session now sight phase tick told phase') :
    Kept session ending clock time (y.goOn timers phase now tick told) phase' := by
  obtain ⟨past, prompt⟩ := timely.last
  cases goes with
  | stays _ begun _ =>
      have same : (y.goOn timers phase now none []).announced = y.announced := List.append_nil _
      cases phase with
      | fresh => exact absurd rfl begun
      | reading => exact kept
      | waiting due =>
          obtain ⟨began, n, started, kept⟩ := kept
          refine ⟨began, n, (began_goOn begun ..).trans started, ?_⟩
          rw [same]
          exact kept
  | begins =>
      refine ⟨now, 0, began_goOn_of_fresh .., past, rfl, Nat.le_add_right_of_le past,
        Nat.zero_le _, ?_⟩
      exact (List.append_nil _).trans kept
  | asks r isDue asked unanswered => exact absurd unanswered (prompt.answered asked)
  | hears | givesUp => exact kept.elim
  | @looks due k event isDue shown answer =>
      obtain ⟨began, n, started, early, rfl, -, -, announced⟩ := kept
      obtain ⟨s, ends, rfl⟩ := prompt.look shown
      -- The look is taken when it is due, so it shows what is left at that slot.
      have punctual : now = began + Worker.periodMs * n :=
        timely.punctual ⟨_, now⟩ (List.mem_append_right _ (List.mem_singleton_self _))
      rw [punctual, answer_prompt plain plain' session ends] at answer
      by_cases isOver : Countdown.length (ending.since (clock.plus began)) ≤ n
      · rw [if_pos isOver] at answer
        exact nomatch answer
      · rw [if_neg isOver] at answer
        cases answer
        have due := Worker.nextDue_eq (Nat.le_refl (began + Worker.periodMs * n))
        have next : (began + Worker.periodMs * n - began) / Worker.periodMs + 1 = n + 1 := by
          rw [Nat.add_sub_cancel_left, Nat.mul_div_cancel_left _ (by decide)]
        rw [next] at due
        refine ⟨began, n + 1, started, early, ?_, ?_, Nat.lt_of_not_le isOver, ?_⟩
        · rw [punctual, due]
        · rw [punctual, due, Nat.mul_succ, ← Nat.add_assoc, ← punctual]
          exact Nat.add_le_add_right past _
        · show y.announced ++ [(now, _)] = _
          rw [timetable_succ, announced, punctual]

/-- **A worker that ends has announced its timetable.** -/
theorem Kept.ends {timers : Timers} {cancelled : Bool} {e : Exit}
    (kept : Kept session ending clock time y phase)
    (timely : Timely session ending clock time (ds ++ [.act session now sight])
      (y.finish timers now tick e))
    (ends : Timers.Ends session now sight cancelled phase tick e) :
    e = .cancelled ∨ Done session ending clock time (y.finish timers now tick e) := by
  obtain ⟨past, prompt⟩ := timely.last
  cases ends with
  | cancelled => exact .inl rfl
  | hears => exact kept.elim
  | breaksDown isDue shown =>
      rcases prompt with rfl | ⟨s, ends, rfl⟩
      · exact nomatch shown
      · exact nomatch shown
  | @looks due k e isDue shown answer =>
      obtain ⟨began, n, started, early, rfl, -, fewer, announced⟩ := kept
      obtain ⟨s, ends, rfl⟩ := prompt.look shown
      have punctual : now = began + Worker.periodMs * n :=
        timely.punctual ⟨_, now⟩ (List.mem_append_right _ (List.mem_singleton_self _))
      rw [punctual, answer_prompt plain plain' session ends] at answer
      by_cases isOver : Countdown.length (ending.since (clock.plus began)) ≤ n
      · rw [if_pos isOver] at answer
        cases answer
        -- As many have been announced as there are slots, and this look finds nothing left.
        have all : n = Countdown.length (ending.since (clock.plus began)) :=
          Nat.le_antisymm fewer isOver
        rw [all] at announced punctual
        refine .inr ⟨began, started, ?_, announced, ?_⟩
        · rw [← punctual]
          exact past
        · show some (now, Exit.expired) = _
          rw [punctual]
      · rw [if_neg isOver] at answer
        exact nomatch answer

/-- As long as it is on time a worker keeps to its timetable, unless it is cancelled. -/
theorem kept_or_done {t : Timers} {i : Instance} {parent token : Token}
    (launched : (t.staff.launch i.sessionId parent).1 = some token) :
    let y := after i.sessionId (t.launch i parent).1 ds
    Timely i.sessionId ending clock time ds y →
      (∃ phase, OnDuty i.sessionId token y phase ∧
        Kept i.sessionId ending clock time y phase) ∨
      OffDuty i.sessionId token y ∧
        ((∃ time, y.ended = some (time, .cancelled)) ∨ Done i.sessionId ending clock time y) := by
  intro y timely
  have kept := holds_after launched
    (P := fun ds phase y => Timely i.sessionId ending clock time ds y →
      Kept i.sessionId ending clock time y phase)
    (Q := fun ds y => Timely i.sessionId ending clock time ds y →
      (∃ time, y.ended = some (time, .cancelled)) ∨ Done i.sessionId ending clock time y)
    (fun _ => rfl)
    -- What others do takes nothing off the timetable.
    (fun {_ _ phase} d _ kept timely => by
      have kept := kept (timely.of_concat fun _ => id)
      cases phase <;> exact kept)
    (fun timers goes kept timely => by
      have kept := kept (timely.of_concat fun _ => List.mem_append_left _)
      exact kept.goes plain plain' timely goes)
    (fun {_ _ _ now _ _ _ _} timers ends kept timely => by
      have kept := kept (timely.of_concat fun _ => List.mem_append_left _)
      rcases kept.ends plain plain' timely ends with rfl | done
      · exact .inl ⟨now, rfl⟩
      · exact .inr done)
    (fun d kept timely => kept (timely.of_concat fun _ => id)) ds
  rcases kept with ⟨phase, onDuty, kept⟩ | ⟨offDuty, kept⟩
  · exact .inl ⟨phase, onDuty, kept timely⟩
  · exact .inr ⟨offDuty, kept timely⟩

end

end

/-! ## A prompt run -/

section

variable {t : Timers} {i : Instance} {parent token : Token} {session : String}
  {ending clock : Instant} {began n : Nat} {y : Diary}

/-- The session as the worker is shown it at this time. -/
def promptSight (session : String) (ending clock : Instant) (now : Nat) : Sight :=
  .call (.answered (.ok ⟨session, "", .epoch, ending⟩)) (clock.plus now)

/-- A worker begins, and is polled so many times, once in a second. -/
def promptRun (session : String) (ending clock : Instant) (began n : Nat) : List Timers.Deed :=
  .act session began .nothing :: (List.range n).map fun j =>
    .act session (began + Worker.periodMs * j)
      (promptSight session ending clock (began + Worker.periodMs * j))

/-- A prompt run goes on with one look more. -/
theorem promptRun_succ (session : String) (ending clock : Instant) (began n : Nat) :
    promptRun session ending clock began (n + 1) = promptRun session ending clock began n ++
      [.act session (began + Worker.periodMs * n)
        (promptSight session ending clock (began + Worker.periodMs * n))] := by
  rw [promptRun, List.range_succ, List.map_append]
  rfl

/-- A turn of the worker cancels nothing. -/
theorem cancellations_step (session : String) (y : Diary) (now : Nat) (sight : Sight) :
    (y.step session (.act session now sight)).timers.staff.cancellations
      = y.timers.staff.cancellations := by
  rw [Diary.step]
  split
  next => rfl
  next =>
      rw [if_pos rfl]
      exact Timers.cancellations_act ..

/-- The worker has been polled on time, and is to look again in the second `n` if it has not
ended. -/
structure Ready (session : String) (token : Token) (began n : Nat) (y : Diary) : Prop where
  started : y.began = some began
  free : y.timers.staff.cancellations.covers token = false
  punctual : ∀ k ∈ y.ticks, k.taken = k.due
  waits : OnDuty session token y (.waiting (began + Worker.periodMs * n)) ∨
    OffDuty session token y

/-- A worker that begins is ready for its first look. -/
theorem OnDuty.begins {phase : Worker.Phase} (o : OnDuty session token y phase)
    (fresh : phase = .fresh) (free : y.timers.staff.cancellations.covers token = false)
    (ticks : y.ticks = []) :
    Ready session token began 0 (y.step session (.act session began .nothing)) := by
  have writes := o.writes (.act session began .nothing)
  have same := cancellations_step session y began .nothing
  generalize y.step session (.act session began .nothing) = y' at writes same
  cases writes with
  | aside _ avoids _ => exact absurd rfl avoids
  | ends timers gone ends => exact absurd fresh ends.begun
  | goes timers goes onDuty =>
      cases goes with
      | stays _ begun _ => exact absurd fresh begun
      | begins =>
          refine ⟨began_goOn_of_fresh .., by rw [same, free], ?_, .inl onDuty⟩
          show ∀ k ∈ y.ticks ++ [], k.taken = k.due
          rw [ticks]
          exact nofun
      | asks | looks | hears | givesUp => exact nomatch fresh

/-- **After each look the worker is ready for the next, or done.** -/
theorem Ready.polled (ready : Ready session token began n y) :
    Ready session token began (n + 1) (y.step session (.act session (began + Worker.periodMs * n)
      (promptSight session ending clock (began + Worker.periodMs * n)))) := by
  obtain ⟨started, free, punctual, onDuty | offDuty⟩ := ready
  · have writes := onDuty.writes (.act session (began + Worker.periodMs * n)
      (promptSight session ending clock (began + Worker.periodMs * n)))
    have same := cancellations_step session y (began + Worker.periodMs * n)
      (promptSight session ending clock (began + Worker.periodMs * n))
    generalize y.step session _ = y' at writes same
    have free' : y'.timers.staff.cancellations.covers token = false := by rw [same, free]
    -- The new look is taken at its slot, like all before it.
    have inTime : ∀ k ∈ y.ticks ++ [⟨began + Worker.periodMs * n, began + Worker.periodMs * n⟩],
        k.taken = k.due := by
      intro k member
      rcases List.mem_append.mp member with before | last
      · exact punctual k before
      · rw [List.mem_singleton.mp last]
    generalize phase : Worker.Phase.waiting (began + Worker.periodMs * n) = waiting at writes
    cases writes with
    | aside _ avoids _ => exact absurd rfl avoids
    | goes timers goes onDuty' =>
        cases goes with
        | stays _ _ idle => exact absurd (idle _ _ _ phase.symm rfl) (Nat.lt_irrefl _)
        | begins | hears | givesUp => exact nomatch phase
        | asks _ _ _ unanswered => exact nomatch unanswered
        | looks isDue shown answer =>
            cases phase
            have due := Worker.nextDue_eq (Nat.le_refl (began + Worker.periodMs * n))
            rw [Nat.add_sub_cancel_left, Nat.mul_div_cancel_left _ (by decide)] at due
            rw [due] at onDuty'
            exact ⟨started, free', inTime, .inl onDuty'⟩
    | ends timers gone ends =>
        have offDuty := offDuty_finish y gone ends
        cases ends with
        | cancelled _ cancelled => exact nomatch free'.symm.trans cancelled
        | breaksDown _ shown => exact nomatch shown
        | hears => exact nomatch phase
        | looks isDue shown answer =>
            cases phase
            exact ⟨started, free', inTime, .inr offDuty⟩
  · rw [step_of_ended offDuty.ended]
    exact ⟨started, free, punctual, .inr offDuty⟩

end

/-- A worker that is not cancelled can be polled on time. -/
theorem ready_promptRun {t : Timers} {i : Instance} {parent token : Token}
    (launched : (t.staff.launch i.sessionId parent).1 = some token)
    (free : (t.launch i parent).1.staff.cancellations.covers token = false)
    (ending clock : Instant) (began n : Nat) :
    Ready i.sessionId token began n (after i.sessionId (t.launch i parent).1
      (promptRun i.sessionId ending clock began n)) := by
  induction n with
  | zero => exact (onDuty_launch launched).begins rfl free rfl
  | succ n ih =>
      rw [promptRun_succ, after_concat]
      exact ih.polled

/-- Each turn of a prompt run is its beginning or one of its looks. -/
theorem mem_promptRun {session : String} {ending clock : Instant} {began n now : Nat}
    {sight : Sight} (member : .act session now sight ∈ promptRun session ending clock began n) :
    now = began ∧ sight = .nothing ∨ ∃ j < n, now = began + Worker.periodMs * j ∧
      sight = promptSight session ending clock now := by
  rcases List.mem_cons.mp member with first | later
  · injection first with _ now sight
    exact .inl ⟨now, sight⟩
  · obtain ⟨j, lt, act⟩ := List.mem_map.mp later
    injection act with _ now sight
    subst now
    exact .inr ⟨j, List.mem_range.mp lt, rfl, sight.symm⟩

/-- There is a run on time from any beginning until any time after it. -/
theorem exists_onTime {t : Timers} {i : Instance} {parent token : Token}
    (launched : (t.staff.launch i.sessionId parent).1 = some token)
    (free : (t.launch i parent).1.staff.cancellations.covers token = false)
    (ending clock : Instant) {began time : Nat} (le : began ≤ time) :
    ∃ ds, OnTime i.sessionId token ending clock time ds
        (after i.sessionId (t.launch i parent).1 ds) ∧
      (after i.sessionId (t.launch i parent).1 ds).began = some began := by
  obtain ⟨n, count⟩ : ∃ n, n = (time - began) / 1000 + 1 := ⟨_, rfl⟩
  have period : Worker.periodMs = 1000 := rfl
  have ready := ready_promptRun launched free ending clock began n
  refine ⟨promptRun i.sessionId ending clock began n, ⟨⟨?_, ?_, ready.punctual⟩, ready.free, ?_⟩,
    ready.started⟩
  · intro now sight member
    rcases mem_promptRun member with ⟨rfl, -⟩ | ⟨j, lt, rfl, -⟩
    · exact le
    · rw [period] at *
      omega
  · intro now sight member
    rcases mem_promptRun member with ⟨-, rfl⟩ | ⟨j, -, -, rfl⟩
    · exact .inl rfl
    · exact .inr ⟨_, rfl, rfl⟩
  · intro w found wake wakes
    -- The worker waits for a slot that is past the time in question, or is gone.
    rcases ready.waits with onDuty | offDuty
    · cases found.symm.trans onDuty.found
      cases wakes
      rw [period] at *
      omega
    · exact nomatch found.symm.trans offDuty.gone

/-- A worker that was on time has announced the timetable until now, and has ended if that is all
of it. -/
theorem OnTime.tells {session : String} {token : Token} {ending clock : Instant} {time : Nat}
    {ds : List Timers.Deed} {y : Diary} (onTime : OnTime session token ending clock time ds y)
    (told : (∃ phase, OnDuty session token y phase ∧ Kept session ending clock time y phase) ∨
      OffDuty session token y ∧
        ((∃ time, y.ended = some (time, .cancelled)) ∨ Done session ending clock time y)) :
    ∃ began ≤ time, y.began = some began ∧
      let length := Countdown.length (ending.since (clock.plus began))
      let elapsed := (time - began) / 1000
      y.announced = timetable session began (ending.since (clock.plus began))
        (min length (elapsed + 1)) ∧
      y.ended = if length ≤ elapsed then some (began + 1000 * length, .expired) else none := by
  have period : Worker.periodMs = 1000 := rfl
  rcases told with ⟨phase, onDuty, kept⟩ | ⟨offDuty, ⟨at', stopped⟩ | done⟩
  · have settled := onTime.settled _ onDuty.found
    cases phase with
    | fresh => exact absurd (settled time rfl) (Nat.lt_irrefl _)
    | reading => exact kept.elim
    | waiting due =>
        obtain ⟨began, n, started, early, rfl, last, fewer, announced⟩ := kept
        have next : time < began + Worker.periodMs * n := settled _ rfl
        -- The last look was not after this time, and the next one is.
        have now : n = (time - began) / 1000 + 1 := by
          rw [period] at last next
          omega
        rw [now] at fewer announced
        refine ⟨began, early, started, ?_, ?_⟩
        · rw [Nat.min_eq_right fewer]
          exact announced
        · rw [if_neg (Nat.not_le.mpr fewer)]
          exact onDuty.ended
  · exact nomatch onTime.free.symm.trans (offDuty.asked at' stopped)
  · obtain ⟨began, started, early, announced, ended⟩ := done
    rw [period] at early
    have isOver : Countdown.length (ending.since (clock.plus began)) ≤ (time - began) / 1000 := by
      omega
    refine ⟨began, Nat.le_of_add_right_le early, started, ?_, ?_⟩
    · rw [Nat.min_eq_left (Nat.le_succ_of_le isOver)]
      exact announced
    · rw [if_pos isOver]
      exact ended

/-- **A COUNTDOWN IS TOLD TO ITS END.** Let the end of a session stay where it is, and let there be
no leap seconds. If the store answers at once, by a clock that goes with the time, and the worker is
not late and is not cancelled, then it announces once for each second that has begun of what is left
as it begins, if anything is: at once, and then after each whole second, what is left then. After
the last of these seconds it ends because the session has expired, and announces nothing. Each
announcement shows a second less than the one before, and is made before the session expires. So it
is at any time after the worker has begun, and it may have begun at any time. -/
theorem counts_down (t : Timers) (i : Instance) (parent token : Token)
    (launched : (t.staff.launch i.sessionId parent).1 = some token) (ending clock : Instant)
    (plain : ending.inLeapSecond = false) (plain' : clock.inLeapSecond = false) (time : Nat) :
    let session := i.sessionId
    let after := Diary.after session (t.launch i parent).1
    (∀ ds, OnTime session token ending clock time ds (after ds) →
      ∃ began ≤ time, (after ds).began = some began ∧
        let left := ending.since (clock.plus began)
        let length := (-(-left / nanosPerSecond)).toNat
        let elapsed := (time - began) / 1000
        (after ds).announced = (List.range (min length (elapsed + 1))).map (fun j =>
          (began + 1000 * j,
            ⟨.sessionTimer, session, [Countdown.text (left - j * nanosPerSecond)]⟩)) ∧
        (after ds).ended
          = (if length ≤ elapsed then some (began + 1000 * length, .expired) else none) ∧
        (∀ j, j + 1 < length → Countdown.wholeSeconds (left - j * nanosPerSecond)
          = Countdown.wholeSeconds (left - (j + 1 : Nat) * nanosPerSecond) + 1) ∧
        ∀ a ∈ (after ds).announced, ending.notAfter (clock.plus a.1) = false) ∧
    ((t.launch i parent).1.staff.cancellations.covers token = false → ∀ began ≤ time,
      ∃ ds, OnTime session token ending clock time ds (after ds) ∧
        (after ds).began = some began) := by
  intro session after
  refine ⟨fun ds onTime => ?_, fun free began le => exists_onTime launched free ending clock le⟩
  obtain ⟨began, le, started, announced, ended⟩ :=
    onTime.tells (kept_or_done plain plain' launched onTime.toTimely)
  refine ⟨began, le, started, announced, ended, fun j => Countdown.wholeSeconds_eq_succ, ?_⟩
  intro a member
  have member := announced ▸ member
  obtain ⟨j, within, rfl⟩ := List.mem_map.mp member
  have before := (Nat.lt_min.mp (List.mem_range.mp within)).1
  -- A slot that is announced lies before the ending.
  rw [← Bool.not_eq_true, Instant.notAfter_plus_iff plain plain']
  exact Nat.not_le.mpr before

/-- With two seconds and a half left there are three announcements, and the worker ends after three
seconds. -/
theorem counts_down_threeTimes :
    ((Timers.empty (some 5000)).staff.launch "s" .dispatcher).1 = some (.child .dispatcher 0) ∧
      Instant.epoch.inLeapSecond = false ∧ (Instant.epoch.plus 2500).inLeapSecond = false ∧
      ∃ ds, (after "s" Life.sampleTimers ds).announced
          = [(0, ⟨.sessionTimer, "s", ["00:02"]⟩), (1000, ⟨.sessionTimer, "s", ["00:01"]⟩),
            (2000, ⟨.sessionTimer, "s", ["00:00"]⟩)] ∧
        (after "s" Life.sampleTimers ds).ended = some (3000, .expired) := by
  have launched : ((Timers.empty (some 5000)).staff.launch "s" .dispatcher).1
      = some (.child .dispatcher 0) := rfl
  have plain : Instant.epoch.inLeapSecond = false := by decide
  have plain' := Instant.inLeapSecond_plus plain 2500
  obtain ⟨tells, exists_run⟩ := counts_down (.empty (some 5000)) Life.sampleInstance .dispatcher
    (.child .dispatcher 0) launched (Instant.epoch.plus 2500) Instant.epoch plain' plain 4000
  obtain ⟨ds, onTime, started⟩ := exists_run (by decide +kernel) 0 (Nat.zero_le _)
  obtain ⟨began, -, started', announced, ended, -⟩ := tells ds onTime
  cases started.symm.trans started'
  refine ⟨launched, plain, plain', ds, announced.trans ?_, ended.trans ?_⟩
  · decide +kernel
  · decide +kernel

end Diary

end Playgrounds
