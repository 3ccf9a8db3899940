import Playgrounds.Proofs.Worker.History

/-!
# The careers of workers

What becomes of each worker that was ever launched, told beside the timers and without their counts.

* `Fate` — how a worker ended; `Stage` — how far it has come.
* `Career` — a worker that was launched; the careers are listed from the latest on, and the current
  one of a session is the first that is listed for it.
* `amend`, `countP_amend` — the current career of a session comes further, and so one more or one
  less is counted.
* `Timers.read?`, `Timers.stageAfter` — what a read has come to by a move, and how far the worker
  has come by it.
* `Timers.Makes` — what can become of a worker, one constructor for each way; `Timers.makes_act`
  says that its moves are among them.
-/

namespace Playgrounds

/-- How a worker ended that had begun. -/
inductive Fate where
  /-- Its session was over. -/
  | expired
  /-- Its session was gone. -/
  | sessionDeleted
  /-- It obeyed its cancellation. -/
  | cancelled
  /-- It broke down in the midst of a look. -/
  | brokeDown
  | thrownAway
deriving DecidableEq

/-- How far a worker has come. -/
inductive Stage where
  | launched
  | atWork
  | ended (f : Fate)
  /-- It was thrown away before it had begun. -/
  | discarded
deriving DecidableEq

/-- The reason that is counted for an end. -/
def Fate.exit : Fate → Exit
  | expired => .expired
  | sessionDeleted => .sessionDeleted
  | cancelled => .cancelled
  | brokeDown | thrownAway => .aborted

namespace Stage

/-- Whether the worker is still there. -/
def isOpen : Stage → Bool
  | launched | atWork => true
  | ended _ | discarded => false

def hasBegun : Stage → Bool
  | atWork | ended _ => true
  | launched | discarded => false

/-- The reason that is counted for the end, if the worker had begun and has ended. -/
def exit? : Stage → Option Exit
  | ended f => some f.exit
  | launched | atWork | discarded => none

/-- The stage of a worker that is there. -/
def ofPhase (p : Worker.Phase) : Stage :=
  if p = .fresh then launched else atWork

/-- What becomes of a worker that is thrown away. -/
def thrown : Stage → Stage
  | launched => discarded
  | atWork => ended .thrownAway
  | s => s

theorem ofPhase_of_ne {p : Worker.Phase} (begun : p ≠ .fresh) : ofPhase p = atWork :=
  if_neg begun

end Stage

/-- A worker that was launched for a session, and how far it has come. -/
structure Career where
  session : String
  stage : Stage
deriving DecidableEq

/-! ## The current career of a session -/

/-- How far the latest worker of a session has come. -/
def current? (session : String) (cs : List Career) : Option Stage :=
  (cs.find? fun c => c.session = session).map (·.stage)

/-- The latest worker of a session comes further. -/
def amend (session : String) (further : Stage → Stage) : List Career → List Career
  | [] => []
  | c :: rest =>
    if c.session = session then { c with stage := further c.stage } :: rest
    else c :: amend session further rest

/-- Only the latest worker of a session may still be there. -/
def Succeeding (cs : List Career) : Prop :=
  cs.Pairwise fun newer older => older.session = newer.session → older.stage.isOpen = false

section

variable {session : String} {further : Stage → Stage} {cs : List Career}

/-- The latest career of a session is its current one. -/
theorem current?_cons (session : String) (c : Career) (cs : List Career) :
    current? session (c :: cs)
      = if c.session = session then some c.stage else current? session cs := by
  rw [current?, List.find?_cons]
  by_cases own : c.session = session <;> simp [own, current?]

/-- What is amended is the current career of one session. -/
theorem current?_amend (session other : String) (further : Stage → Stage) (cs : List Career) :
    current? other (amend session further cs)
      = if session = other then (current? session cs).map further else current? other cs := by
  induction cs with
  | nil => simp [amend, current?]
  | cons c rest ih =>
      rw [amend]
      by_cases own : c.session = session
      · rw [if_pos own, current?_cons, current?_cons, current?_cons, if_pos own]
        by_cases same : session = other
        · simp [own, same]
        · simp [own, same]
      · rw [if_neg own, current?_cons, current?_cons, current?_cons, if_neg own, ih]
        by_cases same : session = other
        · subst same
          simp [own]
        · simp [same]

theorem amend_id (session : String) (cs : List Career) : amend session id cs = cs := by
  induction cs with
  | nil => rfl
  | cons c rest ih => rw [amend, ih, id, ite_self]

/-- A career that has just been amended is counted as it is now, and not as it was. -/
theorem countP_amend (p : Stage → Bool) {stage : Stage}
    (current : current? session cs = some stage) :
    (amend session further cs).countP (p ·.stage) + (p stage).toNat
      = cs.countP (p ·.stage) + (p (further stage)).toNat := by
  induction cs with
  | nil => exact nomatch current
  | cons c rest ih =>
      rw [current?_cons] at current
      rw [amend]
      by_cases own : c.session = session
      · rw [if_pos own] at current ⊢
        obtain rfl := Option.some.inj current
        rw [List.countP_cons, List.countP_cons]
        cases p c.stage <;> cases p (further c.stage) <;> simp
      · rw [if_neg own] at current ⊢
        rw [List.countP_cons, List.countP_cons]
        have := ih current
        omega

theorem length_amend (session : String) (further : Stage → Stage) (cs : List Career) :
    (amend session further cs).length = cs.length := by
  induction cs with
  | nil => rfl
  | cons c rest ih =>
      rw [amend]
      split
      · rfl
      · rw [List.length_cons, ih, List.length_cons]

/-- To amend a career leaves those of the other sessions alone. -/
theorem mem_amend {c : Career} (h : c ∈ amend session further cs) :
    c ∈ cs ∨ c.session = session := by
  induction cs with
  | nil => exact nomatch h
  | cons first rest ih =>
      rw [amend] at h
      split at h
      next own =>
          rcases List.mem_cons.mp h with rfl | h
          · exact .inr own
          · exact .inl (List.mem_cons_of_mem _ h)
      next =>
          rcases List.mem_cons.mp h with rfl | h
          · exact .inl List.mem_cons_self
          · exact (ih h).imp (List.mem_cons_of_mem _) id

/-- An amended list still has one career open for each session at most. -/
theorem Succeeding.amend (s : Succeeding cs) (session : String) (further : Stage → Stage) :
    Succeeding (amend session further cs) := by
  induction cs with
  | nil => exact s
  | cons c rest ih =>
      obtain ⟨first, later⟩ := List.pairwise_cons.mp s
      rw [Playgrounds.amend]
      by_cases own : c.session = session
      · rw [if_pos own]
        exact List.pairwise_cons.mpr ⟨first, later⟩
      · rw [if_neg own]
        refine List.pairwise_cons.mpr ⟨?_, ih later⟩
        -- the one that is amended belongs to another session
        intro older h same
        rcases mem_amend h with h | other
        · exact first older h same
        · exact absurd (same.symm.trans other) own

/-- A worker that is still there is the latest of its session. -/
theorem Succeeding.current?_of_mem (s : Succeeding cs) {c : Career} (h : c ∈ cs)
    (there : c.stage.isOpen = true) : current? c.session cs = some c.stage := by
  induction cs with
  | nil => exact nomatch h
  | cons first rest ih =>
      obtain ⟨older, later⟩ := List.pairwise_cons.mp s
      rw [current?_cons]
      rcases List.mem_cons.mp h with rfl | h
      · rw [if_pos rfl]
      · by_cases same : c.session = first.session
        · rw [older c h same] at there
          exact nomatch there
        · rw [if_neg (Ne.symm same), ih later h]

/-- The current career is in the list. -/
theorem mem_of_current? {stage : Stage} (current : current? session cs = some stage) :
    ⟨session, stage⟩ ∈ cs := by
  obtain ⟨c, found, rfl⟩ := Option.map_eq_some_iff.mp current
  have own : c.session = session := by simpa using List.find?_some found
  rw [← own]
  exact List.mem_of_find?_eq_some found

end

/-! ## What a worker makes of its turn -/

/-- How far a worker has come with what it has read, when the clock shows this after that. -/
def Stage.afterRead (clock : Instant) : Store.Outcome Session → Stage
  | .ok s => if s.expiresAt.notAfter clock then ended .expired else atWork
  | .error (.notFound _ _) => ended .sessionDeleted
  | .error (.backend _) | .error (.unreadable _) => atWork

/-- Whether a read failed, otherwise than by the absence of the session. -/
def HasFailed : Store.Outcome Session → Bool
  | .ok _ | .error (.notFound _ _) => false
  | .error (.backend _) | .error (.unreadable _) => true

/-- Whether a notice is the announcement of a countdown. -/
def Notice.isCountdown : Notice → Bool
  | .event e => e.kind = .sessionTimer
  | .line _ => false

namespace Timers

/-- What a read of the session has come to by a move, if one has. A worker that waits no longer
takes it that the store failed. -/
def readBy (limit : Option Nat) : Worker.Move → Sight → Option (Store.Outcome Session)
  | .ask _, .call (.answered read) _ => some read
  | .hear _, .answer read _ => some read
  | .giveUp _, _ => some (.error (Worker.tooSlow (limit.getD 0)))
  | _, _ => none

/-- How far a worker has come after a move. -/
def stageBy : Worker.Move → Sight → Stage → Stage
  | .begin, _ => fun _ => .atWork
  | .stop, _ => fun _ => .ended .cancelled
  | .ask _, .call (.answered read) clock => fun _ => .afterRead clock read
  | .ask _, .call .brokenDown _ => fun _ => .ended .brokeDown
  | .hear _, .answer read clock => fun _ => .afterRead clock read
  | _, _ => id

/-- What a read of the session has come to by the next move of its worker, if one has. -/
def read? (t : Timers) (session : String) (now : Nat) (sight : Sight) :
    Option (Store.Outcome Session) :=
  t.workers[session]?.bind fun w => readBy t.readLimit (t.move now w) sight

/-- How far the worker of a session has come after its next move. -/
def stageAfter (t : Timers) (session : String) (now : Nat) (sight : Sight) : Stage → Stage :=
  t.workers[session]?.elim id fun w => stageBy (t.move now w) sight

variable {t : Timers} {session : String} {w : Worker} {now : Nat}

/-- What the worker of a session can make of its turn: what comes of it and is said, what a read has
come to, and how far the worker has come. -/
inductive Makes (t : Timers) (session : String) :
    Timers × List Notice → Option (Store.Outcome Session) → (Stage → Stage) → Prop where
  | nothing : Makes t session (t, []) none id
  | begins {w : Worker} {further : Stage → Stage} (now : Nat) :
    t.workers[session]? = some w → w.phase = .fresh → further .launched = .atWork →
    Makes t session (t.begin session w now) none further
  | waits {w : Worker} {further : Stage → Stage} (phase : Worker.Phase) :
    t.workers[session]? = some w → w.phase ≠ .fresh → phase ≠ .fresh →
    further .atWork = .atWork →
    Makes t session (t.setPhase session w phase, []) none further
  | announces {w : Worker} {further : Stage → Stage} (due : Nat) (left : Int) (s : Session) :
    t.workers[session]? = some w → w.phase ≠ .fresh → further .atWork = .atWork →
    Makes t session (t.conclude session w due (.announce left)) (some (.ok s)) further
  | fails {w : Worker} {further : Stage → Stage} (due : Nat) {why : Store.Failure} :
    t.workers[session]? = some w → w.phase ≠ .fresh → HasFailed (.error why) = true →
    further .atWork = .atWork →
    Makes t session (t.conclude session w due (.failed why)) (some (.error why)) further
  | ends {w : Worker} {further : Stage → Stage} (f : Fate) {read : Option (Store.Outcome Session)} :
    t.workers[session]? = some w → w.phase ≠ .fresh → (∀ r ∈ read, HasFailed r = false) →
    further .atWork = .ended f →
    Makes t session (t.finish session f.exit) read further
  | vanishes {w : Worker} {further : Stage → Stage} :
    t.workers[session]? = some w → w.phase = .fresh → further .launched = .discarded →
    Makes t session
      ({ t with staff := t.staff.leave session, workers := t.workers.erase session }, [])
      none further

/-- What a worker makes of what it has read. -/
theorem makes_conclude (found : t.workers[session]? = some w) (begun : w.phase ≠ .fresh) (due : Nat)
    (read : Store.Outcome Session) (clock : Instant) {further : Stage → Stage}
    (stage : further .atWork = .afterRead clock read) :
    Makes t session (t.conclude session w due (.of read clock)) (some read) further := by
  cases read with
  | ok s =>
      by_cases expired : s.expiresAt.notAfter clock = true
      · have verdict : Verdict.of (.ok s) clock = .stop .expired := if_pos expired
        rw [verdict]
        refine .ends .expired found begun ?_ (stage.trans (if_pos expired))
        intro r h
        obtain rfl := Option.some.inj h
        rfl
      · have verdict : Verdict.of (.ok s) clock = .announce (s.left clock) := if_neg expired
        rw [verdict]
        exact .announces due _ s found begun (stage.trans (if_neg expired))
  | error why =>
      cases why with
      -- Only the absence of its session ends a worker; any other failure is passed over.
      | notFound kind id =>
          refine .ends .sessionDeleted found begun ?_ stage
          intro r h
          obtain rfl := Option.some.inj h
          rfl
      | backend cause => exact .fails due found begun rfl stage
      | unreadable fault => exact .fails due found begun rfl stage

theorem throwAway_of_none (nobody : t.workers[session]? = none) :
    t.throwAway session = (t, []) := by
  simp only [throwAway, nobody]

/-- A worker that has not begun is thrown away without a trace in the counts. -/
theorem throwAway_of_fresh (found : t.workers[session]? = some w) (fresh : w.phase = .fresh) :
    t.throwAway session
      = ({ t with staff := t.staff.leave session, workers := t.workers.erase session }, []) := by
  simp only [throwAway, found]
  exact if_pos fresh

/-- A worker that has begun is counted as aborted when it is thrown away. -/
theorem throwAway_of_begun (found : t.workers[session]? = some w) (begun : w.phase ≠ .fresh) :
    t.throwAway session = t.finish session .aborted := by
  simp only [throwAway, found]
  exact if_neg begun

/-- To begin is the move of those who have not, and of nobody else. -/
theorem move_eq_begin_iff : t.move now w = .begin ↔ w.phase = .fresh := by
  refine ⟨?_, move_of_fresh now⟩
  intro begins
  by_contra begun
  cases cancelled : t.isCancelled w with
  | true => exact nomatch begins.symm.trans (move_of_isCancelled now begun cancelled)
  | false =>
      cases phase : w.phase with
      | fresh => exact begun phase
      | waiting due =>
          rw [move_of_waiting now phase cancelled] at begins
          split at begins <;> exact nomatch begins
      | reading due r =>
          rw [move_of_reading now phase cancelled] at begins
          cases ending : r.ending? now with
          | none =>
              rw [ending] at begins
              exact nomatch begins
          | some e =>
              rw [ending] at begins
              cases e <;> exact nomatch begins

/-- What a worker makes of a call for its session. -/
theorem makes_ask {due : Nat} (found : t.workers[session]? = some w) (begun : w.phase ≠ .fresh)
    (c : Store.Call Session) (clock : Instant) :
    Makes t session (t.ask session w due now c clock)
      (readBy t.readLimit (.ask due) (.call c clock)) (stageBy (.ask due) (.call c clock)) := by
  cases c with
  | answered read => exact makes_conclude found begun _ read clock rfl
  | delayed ms => exact .waits _ found begun nofun rfl
  | silent => exact .waits _ found begun nofun rfl
  | brokenDown =>
      exact .ends .brokeDown found begun (fun r none => absurd none (Option.not_mem_none r)) rfl

/-- **What a worker makes of its next move.** -/
theorem makes_act (t : Timers) (session : String) (now : Nat) (sight : Sight) :
    Makes t session (t.act session now sight) (t.read? session now sight)
      (t.stageAfter session now sight) := by
  cases found : t.workers[session]? with
  | none =>
      simp only [act, read?, stageAfter, found]
      exact .nothing
  | some w =>
      -- Only a worker that has not begun begins.
      have begun : t.move now w ≠ .begin → w.phase ≠ .fresh := mt move_eq_begin_iff.mpr
      simp only [read?, stageAfter, found, Option.bind_some, Option.elim_some]
      cases move : t.move now w with
      | begin =>
          rw [act_begin found move]
          exact .begins now found (move_eq_begin_iff.mp move) rfl
      | stop =>
          rw [act_stop found move]
          exact .ends .cancelled found (begun (by simp [move]))
            (fun r none => absurd none (Option.not_mem_none r)) rfl
      | rest =>
          rw [act_rest found move]
          exact .nothing
      | giveUp due =>
          rw [act_giveUp found move]
          exact .fails due found (begun (by simp [move])) rfl rfl
      | hear due =>
          cases sight with
          | nothing | call =>
              simp only [act, found, move]
              exact .nothing
          | answer read clock =>
              rw [act_hear found move]
              exact makes_conclude found (begun (by simp [move])) due read clock rfl
      | ask due =>
          cases sight with
          | nothing | answer =>
              simp only [act, found, move]
              exact .nothing
          | call c clock =>
              rw [act_ask found move]
              exact makes_ask found (begun (by simp [move])) c clock

end Timers

end Playgrounds
