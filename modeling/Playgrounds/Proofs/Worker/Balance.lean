import Mathlib.Algebra.GroupWithZero.Nat
import Playgrounds.Proofs.Store.Table
import Playgrounds.Proofs.Worker.Callers
import Playgrounds.Proofs.Worker.Careers

/-!
# The counts of workers balance

The tally is kept by the workers themselves, each counting its own beginning, announcements and
failed reads, and its end on whatever way it goes. `Ledger` keeps the timers company and writes down
what becomes of each worker, without a look at the tally.

* `Incident` — what may happen. A worker may break down in the midst of a look or be thrown away at
  any time, and it is gone for a while before its registration is dropped.
* `Ledger.step`, `Ledger.after` — one incident, and a whole history.
* `Ledger.Staffed`, `Ledger.Counted` — the invariants: who is there, and what has been counted.
* `counts_balance` — what the tally says after every history.
-/

namespace Playgrounds.Timers

/-- What may happen to workers. -/
inductive Incident where
  /-- A deed as a whole: a worker that ends by it leaves at once. -/
  | deed (d : Deed)
  /-- The worker of a session makes its next move. If it ends by that, its registration stands. -/
  | act (session : String) (now : Nat) (sight : Sight)
  /-- The worker of a session breaks down in the midst of its look. -/
  | breakDown (session : String)
  /-- The worker of a session is thrown away. -/
  | throwAway (session : String)
  /-- The registration of a worker that is gone is dropped. -/
  | release (session : String)

/-- The timers, and what can be told of their workers by someone who watched all along. -/
structure Ledger where
  timers : Timers
  /-- The workers that were launched, the latest first. -/
  careers : List Career
  /-- The sessions whose worker is gone while its registration stands. -/
  leaving : List String
  /-- All that was said. -/
  log : List Notice
  /-- What the reads came to. -/
  reads : List (Store.Outcome Session)

namespace Ledger

/-- Nobody is at work. -/
def start (limit : Option Nat) : Ledger :=
  ⟨.empty limit, [], [], [], []⟩

/-- Something becomes of the worker of a session. Its registration stands. -/
def turn (l : Ledger) (session : String) (r : Timers × List Notice)
    (read : Option (Store.Outcome Session)) (further : Stage → Stage) : Ledger where
  timers := { r.1 with staff := l.timers.staff }
  careers := amend session further l.careers
  leaving :=
    if session ∈ l.timers.workers ∧ session ∉ r.1.workers then session :: l.leaving else l.leaving
  log := l.log ++ r.2
  reads := l.reads ++ read.toList

/-- The worker of a session makes its next move. -/
def act (l : Ledger) (session : String) (now : Nat) (sight : Sight) : Ledger :=
  l.turn session (l.timers.act session now sight) (l.timers.read? session now sight)
    (l.timers.stageAfter session now sight)

/-- The registration of a worker that is gone is dropped. -/
def release (l : Ledger) (session : String) : Ledger :=
  if session ∈ l.leaving then
    { l with
      timers := { l.timers with staff := l.timers.staff.leave session }
      leaving := l.leaving.erase session }
  else l

/-- Something is asked of the timers. A worker that is there then and was not before was
launched. -/
def request (l : Ledger) (d : Deed) : Ledger :=
  { l with
    timers := (l.timers.step d).1
    careers :=
      match d with
      | .run i _ =>
        if i.sessionId ∈ (l.timers.step d).1.workers ∧ i.sessionId ∉ l.timers.workers
        then ⟨i.sessionId, .launched⟩ :: l.careers else l.careers
      | _ => l.careers
    log := l.log ++ (l.timers.step d).2 }

/-- What comes of an incident. -/
def step (l : Ledger) : Incident → Ledger
  | .deed (.act session now sight) => (l.act session now sight).release session
  | .deed d => l.request d
  | .act session now sight => l.act session now sight
  | .breakDown session =>
    if l.timers.workers[session]?.any (·.phase != .fresh) then
      l.turn session (l.timers.throwAway session) none fun _ => .ended .brokeDown
    else l
  | .throwAway session =>
    if session ∈ l.timers.workers then
      l.turn session (l.timers.throwAway session) none .thrown
    else l
  | .release session => l.release session

/-- What comes of a history of incidents. -/
def after (limit : Option Nat) (is : List Incident) : Ledger :=
  is.foldl step (start limit)

/-! ## Who is there -/

/-- The careers tell the workers that are there, and each of these, or one that has just gone, has
the entry of its session in the roster. -/
structure Staffed (l : Ledger) : Prop where
  succeeding : Succeeding l.careers
  stage_eq : ∀ session w, l.timers.workers[session]? = some w →
    current? session l.careers = some (.ofPhase w.phase)
  gone : ∀ session stage, l.timers.workers[session]? = none →
    current? session l.careers = some stage → stage.isOpen = false
  entered_iff : ∀ session,
    session ∈ l.timers.staff.roster.entries ↔ session ∈ l.timers.workers ∨ session ∈ l.leaving
  leaving_nodup : l.leaving.Nodup
  leaving_gone : ∀ session ∈ l.leaving, session ∉ l.timers.workers
  launched_eq : l.timers.staff.roster.launched = l.careers.length

/-- The tally counts what the ledger tells. -/
structure Counted (l : Ledger) : Prop where
  started_eq : l.timers.tally.started = l.careers.countP (·.stage.hasBegun)
  active_eq : l.timers.tally.active = l.careers.countP (·.stage = .atWork)
  exits_eq : ∀ e, l.timers.tally.exits e = l.careers.countP (·.stage.exit? = some e)
  announced_eq : l.timers.tally.announced = l.log.countP Notice.isCountdown
  storeErrors_eq : l.timers.tally.storeErrors = l.reads.countP HasFailed

variable {l : Ledger} {session : String} {w : Worker}

/-- Nobody is there at first. -/
theorem staffed_start (limit : Option Nat) : (start limit).Staffed where
  succeeding := List.Pairwise.nil
  stage_eq := fun _ _ found => nomatch Std.ExtTreeMap.getElem?_empty.symm.trans found
  gone := fun _ _ _ current => nomatch current
  entered_iff := by
    intro session
    show session ∈ (∅ : Std.ExtTreeMap String Token)
      ↔ session ∈ (∅ : Std.ExtTreeMap String Worker) ∨ session ∈ []
    simp
  leaving_nodup := List.nodup_nil
  leaving_gone := fun _ h => nomatch h
  launched_eq := rfl

/-- Nothing is counted at first. -/
theorem counted_start (limit : Option Nat) : (start limit).Counted where
  started_eq := rfl
  active_eq := rfl
  exits_eq := by
    intro e
    cases e <;> rfl
  announced_eq := rfl
  storeErrors_eq := rfl

namespace Staffed

variable (s : l.Staffed)

include s

/-- A worker goes on in another phase. -/
theorem goOn (found : l.timers.workers[session]? = some w) {phase : Worker.Phase}
    {further : Stage → Stage} (stage : further (.ofPhase w.phase) = .ofPhase phase) (tally : Tally)
    (said : List Notice) (read : Option (Store.Outcome Session)) :
    Staffed (l.turn session ({ l.timers.setPhase session w phase with tally }, said) read
      further) := by
  have there : session ∈ l.timers.workers := (Store.mem_iff_getElem? _ _).mpr ⟨w, found⟩
  -- The worker was there before and still is, so nobody has come or gone.
  have rest : ∀ other, other ∈ l.timers.workers.insert session { w with phase }
      ↔ other ∈ l.timers.workers := by
    intro other
    rw [Std.ExtTreeMap.mem_insert, Std.compare_eq_iff_eq, or_iff_right_of_imp]
    rintro rfl
    exact there
  have leaving : (l.turn session ({ l.timers.setPhase session w phase with tally }, said) read
      further).leaving = l.leaving := if_neg fun h => h.2 ((rest session).mpr there)
  refine ⟨s.succeeding.amend session further, ?_, ?_, ?_, ?_, ?_, ?_⟩
  · intro other v found'
    change (l.timers.workers.insert session { w with phase })[other]? = some v at found'
    show current? other (amend session further l.careers) = _
    rw [Store.getElem?_insert_eq] at found'
    rw [current?_amend]
    by_cases same : session = other
    · rw [if_pos same] at found' ⊢
      obtain rfl := Option.some.inj found'
      rw [s.stage_eq session w found, Option.map_some, stage]
    · rw [if_neg same] at found' ⊢
      exact s.stage_eq other v found'
  · intro other stage' gone
    change (l.timers.workers.insert session { w with phase })[other]? = none at gone
    show current? other (amend session further l.careers) = _ → _
    rw [Store.getElem?_insert_eq] at gone
    rw [current?_amend]
    by_cases same : session = other
    · rw [if_pos same] at gone
      exact nomatch gone
    · rw [if_neg same] at gone ⊢
      exact s.gone other stage' gone
  · intro other
    rw [leaving]
    exact (s.entered_iff other).trans (or_congr_left (rest other).symm)
  · rw [leaving]
    exact s.leaving_nodup
  · rw [leaving]
    exact fun other h here => s.leaving_gone other h ((rest other).mp here)
  · exact s.launched_eq.trans (length_amend session further l.careers).symm

/-- A worker is gone; its registration stands. -/
theorem go (found : l.timers.workers[session]? = some w) {further : Stage → Stage}
    (closed : (further (.ofPhase w.phase)).isOpen = false) (staff : Staff) (tally : Tally)
    (said : List Notice) (read : Option (Store.Outcome Session)) :
    Staffed (l.turn session
      ({ l.timers with staff, workers := l.timers.workers.erase session, tally }, said) read
      further) := by
  have there : session ∈ l.timers.workers := (Store.mem_iff_getElem? _ _).mpr ⟨w, found⟩
  have rest : ∀ other, other ∈ l.timers.workers.erase session
      ↔ session ≠ other ∧ other ∈ l.timers.workers := by
    intro other
    rw [Std.ExtTreeMap.mem_erase, ne_eq, Std.compare_eq_iff_eq]
  -- The worker is gone, but its entry stays until it is released.
  have leaving : (l.turn session
      ({ l.timers with staff, workers := l.timers.workers.erase session, tally }, said) read
      further).leaving = session :: l.leaving :=
    if_pos ⟨there, fun h => ((rest session).mp h).1 rfl⟩
  refine ⟨s.succeeding.amend session further, ?_, ?_, ?_, ?_, ?_, ?_⟩
  · intro other v found'
    change (l.timers.workers.erase session)[other]? = some v at found'
    show current? other (amend session further l.careers) = _
    rw [Store.getElem?_erase_eq] at found'
    rw [current?_amend]
    by_cases same : session = other
    · rw [if_pos same] at found'
      exact nomatch found'
    · rw [if_neg same] at found' ⊢
      exact s.stage_eq other v found'
  · intro other stage' gone
    change (l.timers.workers.erase session)[other]? = none at gone
    show current? other (amend session further l.careers) = _ → _
    rw [Store.getElem?_erase_eq] at gone
    rw [current?_amend]
    by_cases same : session = other
    · rw [if_pos same, s.stage_eq session w found]
      intro ended
      rw [← Option.some.inj ended]
      exact closed
    · rw [if_neg same] at gone ⊢
      exact s.gone other stage' gone
  · intro other
    rw [leaving]
    show other ∈ l.timers.staff.roster.entries
      ↔ other ∈ l.timers.workers.erase session ∨ other ∈ session :: l.leaving
    rw [rest, s.entered_iff, List.mem_cons]
    by_cases same : session = other
    · subst same
      simp [there]
    · simp [same, Ne.symm same]
  · rw [leaving]
    exact List.nodup_cons.mpr ⟨fun h => s.leaving_gone session h there, s.leaving_nodup⟩
  · rw [leaving]
    intro other h here
    obtain ⟨apart, here⟩ := (rest other).mp here
    rcases List.mem_cons.mp h with rfl | h
    · exact apart rfl
    · exact s.leaving_gone other h here
  · exact s.launched_eq.trans (length_amend session further l.careers).symm

/-- The registration of a worker that is gone is dropped. -/
theorem release (session : String) : (l.release session).Staffed := by
  rw [Ledger.release]
  split
  next leaving =>
      refine ⟨s.succeeding, s.stage_eq, s.gone, ?_, s.leaving_nodup.erase _, ?_, s.launched_eq⟩
      · intro other
        show other ∈ l.timers.staff.roster.entries.erase session ↔ _
        rw [Std.ExtTreeMap.mem_erase, ne_eq, Std.compare_eq_iff_eq, s.entered_iff,
          s.leaving_nodup.mem_erase_iff]
        by_cases same : session = other
        · subst same
          simp [s.leaving_gone session leaving]
        · simp [same, Ne.symm same]
      · intro other h
        exact s.leaving_gone other (List.mem_of_mem_erase h)
  next => exact s

/-- A worker is launched for a free session. -/
theorem launch (parent : Token) (free : l.timers.IsFree session) (said : List Notice) :
    Staffed { l with
      timers := l.timers.launchFor session parent
      careers := ⟨session, .launched⟩ :: l.careers
      log := said } := by
  have absent : session ∉ l.timers.staff.roster.entries :=
    (not_or.mp (isFree_iff.mp free)).1
  rw [s.entered_iff, not_or] at absent
  have nobody : l.timers.workers[session]? = none := Std.ExtTreeMap.getElem?_eq_none absent.1
  have entries : (l.timers.launchFor session parent).staff.roster.entries
      = l.timers.staff.roster.entries.insert session (.child parent l.timers.issued) := by
    rw [launchFor, free.enter_eq]
    rfl
  refine ⟨List.pairwise_cons.mpr ⟨?_, s.succeeding⟩, ?_, ?_, ?_, s.leaving_nodup, ?_, ?_⟩
  -- an older worker of the session is gone
  · intro older h same
    by_contra there
    rw [Bool.not_eq_false] at there
    have current := s.succeeding.current?_of_mem h there
    rw [show older.session = session from same] at current
    exact Bool.noConfusion (there.symm.trans (s.gone session _ nobody current))
  · intro other v found
    change (l.timers.workers.insert session _)[other]? = some v at found
    rw [Store.getElem?_insert_eq] at found
    show current? other (⟨session, .launched⟩ :: l.careers) = _
    rw [current?_cons]
    by_cases own : session = other
    · rw [if_pos own] at found ⊢
      rw [← Option.some.inj found]
      rfl
    · rw [if_neg own] at found ⊢
      exact s.stage_eq other v found
  · intro other stage gone
    change (l.timers.workers.insert session _)[other]? = none at gone
    rw [Store.getElem?_insert_eq] at gone
    show current? other (⟨session, .launched⟩ :: l.careers) = _ → _
    rw [current?_cons]
    by_cases own : session = other
    · rw [if_pos own] at gone
      cases gone
    · rw [if_neg own] at gone ⊢
      exact s.gone other stage gone
  · intro other
    show other ∈ (l.timers.launchFor session parent).staff.roster.entries
      ↔ other ∈ l.timers.workers.insert session _ ∨ other ∈ l.leaving
    rw [entries, Std.ExtTreeMap.mem_insert, Std.ExtTreeMap.mem_insert, s.entered_iff, or_assoc]
  · intro other h here
    rcases Std.ExtTreeMap.mem_insert.mp here with same | here
    · rw [Std.compare_eq_iff_eq.mp same] at absent
      exact absent.2 h
    · exact s.leaving_gone other h here
  · show (l.timers.launchFor session parent).staff.roster.launched = l.careers.length + 1
    rw [← s.launched_eq, launchFor, free.enter_eq]
    rfl

/-- The workers are not concerned by a deed that launches nobody and moves nobody. -/
theorem keep {t : Timers} (workers : t.workers = l.timers.workers)
    (entries : t.staff.roster.entries = l.timers.staff.roster.entries)
    (launched : t.staff.roster.launched = l.timers.staff.roster.launched) (said : List Notice) :
    Staffed { l with timers := t, log := said } where
  succeeding := s.succeeding
  stage_eq := by
    rw [workers]
    exact s.stage_eq
  gone := by
    rw [workers]
    exact s.gone
  entered_iff := by
    rw [workers, entries]
    exact s.entered_iff
  leaving_nodup := s.leaving_nodup
  leaving_gone := by
    rw [workers]
    exact s.leaving_gone
  launched_eq := launched.trans s.launched_eq

end Staffed

/-! ## What has been counted -/

/-- The tally follows one worker from a stage to another. -/
structure Follows (old new : Stage) (before after : Tally) : Prop where
  started : after.started + old.hasBegun.toNat = before.started + new.hasBegun.toNat
  active : after.active + (decide (old = .atWork)).toNat
    = before.active + (decide (new = .atWork)).toNat
  exits : ∀ e, after.exits e + (decide (old.exit? = some e)).toNat
    = before.exits e + (decide (new.exit? = some e)).toNat

/-- A worker that begins is counted as started and as active. -/
theorem follows_begin (t : Tally) : Follows .launched .atWork t t.begin := by
  refine ⟨rfl, rfl, ?_⟩
  intro e
  cases e <;> rfl

/-- An end is counted, provided that the worker was counted as one at work. -/
theorem follows_finish {t : Tally} (active : 0 < t.active) (f : Fate) :
    Follows .atWork (.ended f) t (t.finish f.exit) := by
  refine ⟨?_, ?_, ?_⟩
  · cases f <;> rfl
  · have atWork : (t.finish f.exit).active = t.active - 1 := by
      cases f <;> rfl
    rw [atWork]
    exact Nat.sub_add_cancel active
  · intro e
    cases f <;> cases e <;> rfl

namespace Counted

variable (c : l.Counted)

include c

/-- A worker that is at work has been counted as one. -/
theorem active_pos (current : current? session l.careers = some .atWork) :
    0 < l.timers.tally.active := by
  rw [c.active_eq]
  exact List.countP_pos_iff.mpr ⟨⟨session, .atWork⟩, mem_of_current? current, decide_eq_true rfl⟩

/-- Whatever becomes of a worker is counted if the tally follows it. -/
theorem turn {r : Timers × List Notice} {read : Option (Store.Outcome Session)}
    {further : Stage → Stage} {stage : Stage}
    (current : current? session l.careers = some stage)
    (follows : Follows stage (further stage) l.timers.tally r.1.tally)
    (announced : r.1.tally.announced = l.timers.tally.announced + r.2.countP Notice.isCountdown)
    (storeErrors :
      r.1.tally.storeErrors = l.timers.tally.storeErrors + read.toList.countP HasFailed) :
    Counted (l.turn session r read further) := by
  have balance : ∀ {p : Stage → Bool} {old new : Nat}, old = l.careers.countP (p ·.stage) →
      new + (p stage).toNat = old + (p (further stage)).toNat →
      new = (amend session further l.careers).countP (p ·.stage) := by
    rintro p old new rfl changed
    exact Nat.add_right_cancel (changed.trans (countP_amend p current).symm)
  refine ⟨balance c.started_eq follows.started, ?_, ?_, ?_, ?_⟩
  · exact balance (p := fun s => decide (s = .atWork)) c.active_eq follows.active
  · intro e
    exact balance (p := fun s => decide (s.exit? = some e)) (c.exits_eq e) (follows.exits e)
  · show r.1.tally.announced = (l.log ++ r.2).countP _
    rw [List.countP_append, ← c.announced_eq, announced]
  · show r.1.tally.storeErrors = (l.reads ++ read.toList).countP _
    rw [List.countP_append, ← c.storeErrors_eq, storeErrors]

/-- Nothing is counted where no worker comes further, and nothing is announced. -/
theorem keep {t : Timers} {careers : List Career} {said : List Notice}
    (tally : t.tally = l.timers.tally)
    (same : ∀ p : Stage → Bool, p .launched = false →
      careers.countP (p ·.stage) = l.careers.countP (p ·.stage))
    (quiet : said.countP Notice.isCountdown = 0) :
    Counted { l with timers := t, careers, log := l.log ++ said } where
  started_eq := by
    -- Careers that have only been launched are counted nowhere yet.
    rw [tally, same Stage.hasBegun rfl]
    exact c.started_eq
  active_eq := by
    rw [tally, same (fun s => decide (s = .atWork)) rfl]
    exact c.active_eq
  exits_eq := by
    intro e
    rw [tally, same (fun s => decide (s.exit? = some e)) rfl]
    exact c.exits_eq e
  announced_eq := by
    rw [tally, List.countP_append, quiet]
    exact c.announced_eq
  storeErrors_eq := by
    rw [tally]
    exact c.storeErrors_eq

end Counted

/-! ## One incident -/

/-- What is known of a ledger. -/
structure Balanced (l : Ledger) : Prop where
  staffed : l.Staffed
  counted : l.Counted

theorem balanced_start (limit : Option Nat) : (start limit).Balanced :=
  ⟨staffed_start limit, counted_start limit⟩

/-- What is said about a launch goes to the log alone. -/
theorem exists_line_of_run {t : Timers} {i : Instance} {parent : Token} {n : Notice}
    (said : n ∈ (t.run i parent).2.2) : ∃ l, n = .line l := by
  rw [run] at said
  split at said
  next => exact absurd said List.not_mem_nil
  next =>
      rw [Timers.launch] at said
      split at said <;> exact ⟨_, List.mem_singleton.mp said⟩

/-- No worker announces a countdown when it ends. -/
theorem countP_finish (t : Timers) (session : String) (e : Exit) :
    (t.finish session e).2.countP Notice.isCountdown = 0 := by
  cases e <;> rfl

theorem announced_finish (t : Tally) (e : Exit) : (t.finish e).announced = t.announced := by
  cases e <;> rfl

theorem storeErrors_finish (t : Tally) (e : Exit) : (t.finish e).storeErrors = t.storeErrors := by
  cases e <;> rfl

namespace Balanced

variable (b : l.Balanced)

include b

/-- Whatever a worker makes of its turn is counted. -/
theorem turn {r : Timers × List Notice} {read : Option (Store.Outcome Session)}
    {further : Stage → Stage} (made : Makes l.timers session r read further) :
    Balanced (l.turn session r read further) := by
  -- A worker that has begun is at work as its career has it.
  have current : ∀ {w}, l.timers.workers[session]? = some w → w.phase ≠ .fresh →
      current? session l.careers = some .atWork := by
    intro w found begun
    rw [b.staffed.stage_eq session w found, Stage.ofPhase_of_ne begun]
  cases made with
  | nothing =>
      have leaving : (l.turn session (l.timers, []) none id).leaving = l.leaving :=
        if_neg fun h => h.2 h.1
      have same : l.turn session (l.timers, []) none id = l := by
        show Ledger.mk l.timers (amend session id l.careers)
          (l.turn session (l.timers, []) none id).leaving (l.log ++ []) (l.reads ++ []) = l
        rw [leaving, amend_id, List.append_nil, List.append_nil]
      rw [same]
      exact b
  | begins now found fresh stage =>
      have current := b.staffed.stage_eq session _ found
      rw [fresh] at current
      refine ⟨b.staffed.goOn found (by rw [fresh]; exact stage) _ _ none, ?_⟩
      refine b.counted.turn current ?_ rfl rfl
      rw [show Stage.ofPhase .fresh = .launched from rfl, stage]
      exact follows_begin _
  | waits phase found begun begun' stage =>
      refine ⟨b.staffed.goOn found ?_ l.timers.tally _ none, ?_⟩
      · rw [Stage.ofPhase_of_ne begun, stage, Stage.ofPhase_of_ne begun']
      · refine b.counted.turn (current found begun) ?_ rfl rfl
        rw [stage]
        exact ⟨rfl, rfl, fun _ => rfl⟩
  | announces due left read found begun stage =>
      refine ⟨b.staffed.goOn found ?_ l.timers.tally.announce _ _, ?_⟩
      · rw [Stage.ofPhase_of_ne begun, stage]
        rfl
      · refine b.counted.turn (current found begun) ?_ rfl rfl
        rw [stage]
        exact ⟨rfl, rfl, fun e => by cases e <;> rfl⟩
  | fails due found begun failed stage =>
      refine ⟨b.staffed.goOn found ?_ l.timers.tally.fail _ _, ?_⟩
      · rw [Stage.ofPhase_of_ne begun, stage]
        rfl
      · refine b.counted.turn (current found begun) ?_ rfl ?_
        · rw [stage]
          exact ⟨rfl, rfl, fun e => by cases e <;> rfl⟩
        · rw [Option.toList_some, List.countP_singleton, if_pos failed]
          rfl
  | ends f found begun read stage =>
      refine ⟨b.staffed.go found ?_ _ _ _ _,
        b.counted.turn (current found begun) ?_ ?_ ?_⟩
      · rw [Stage.ofPhase_of_ne begun, stage]
        rfl
      · rw [stage]
        exact follows_finish (b.counted.active_pos (current found begun)) f
      · rw [countP_finish]
        exact announced_finish _ _
      · rw [List.countP_eq_zero.mpr fun r h => by
          rw [read r (Option.mem_toList.mp h)]
          exact Bool.false_ne_true]
        exact storeErrors_finish _ _
  | vanishes found fresh stage =>
      have current := b.staffed.stage_eq session _ found
      rw [fresh] at current
      have closed : (further (.ofPhase .fresh)).isOpen = false := by
        rw [show Stage.ofPhase .fresh = .launched from rfl, stage]
        rfl
      refine ⟨b.staffed.go found (by rw [fresh]; exact closed) _ l.timers.tally _ none, ?_⟩
      refine b.counted.turn current ?_ rfl rfl
      rw [show Stage.ofPhase .fresh = .launched from rfl, stage]
      exact ⟨rfl, rfl, fun _ => rfl⟩

/-- The registration of a worker that is gone is dropped. -/
theorem release (session : String) : (l.release session).Balanced := by
  refine ⟨b.staffed.release session, ?_⟩
  rw [Ledger.release]
  split
  · exact ⟨b.counted.started_eq, b.counted.active_eq, b.counted.exits_eq, b.counted.announced_eq,
      b.counted.storeErrors_eq⟩
  · exact b.counted

/-- A deed that launches nobody and moves nobody changes no count. -/
theorem keep (t : Timers) (said : List Notice) (workers : t.workers = l.timers.workers)
    (entries : t.staff.roster.entries = l.timers.staff.roster.entries)
    (launched : t.staff.roster.launched = l.timers.staff.roster.launched)
    (tally : t.tally = l.timers.tally) (quiet : said.countP Notice.isCountdown = 0) :
    Balanced { l with timers := t, log := l.log ++ said } :=
  ⟨b.staffed.keep workers entries launched _, b.counted.keep tally (fun _ _ => rfl) quiet⟩

/-- Whatever is asked of the timers is counted. -/
theorem request (d : Deed) (asked : ∀ session now sight, d ≠ .act session now sight) :
    (l.request d).Balanced := by
  cases d with
  | act session now sight => exact absurd rfl (asked session now sight)
  | run i parent =>
      have quiet : (l.timers.run i parent).2.2.countP Notice.isCountdown = 0 :=
        List.countP_eq_zero.mpr fun n h => by
          obtain ⟨line, rfl⟩ := exists_line_of_run h
          exact Bool.false_ne_true
      show Balanced { l with
        timers := (l.timers.run i parent).2.1
        careers :=
          if i.sessionId ∈ (l.timers.run i parent).2.1.workers ∧ i.sessionId ∉ l.timers.workers
          then ⟨i.sessionId, .launched⟩ :: l.careers else l.careers
        log := l.log ++ (l.timers.run i parent).2.2 }
      obtain ⟨-, free, launched⟩ | ⟨-, same⟩ := run_cases l.timers i parent
      · have entered : i.sessionId ∈ (l.timers.launchFor i.sessionId parent).workers :=
          Std.ExtTreeMap.mem_insert_self
        -- Where the roster has no entry there is no worker.
        have absent : i.sessionId ∉ l.timers.workers := fun here =>
          (not_or.mp (isFree_iff.mp free)).1 ((b.staffed.entered_iff _).mpr (.inl here))
        rw [launched, if_pos ⟨entered, absent⟩]
        refine ⟨b.staffed.launch parent free _, b.counted.keep rfl ?_ quiet⟩
        intro p uncounted
        rw [List.countP_cons, if_neg (by rw [uncounted]; exact Bool.false_ne_true)]
        rfl
      · rw [same, if_neg fun h => h.2 h.1]
        exact b.keep _ _ rfl rfl rfl rfl quiet
  | newChild parent => exact b.keep (l.timers.newChild parent).2 [] rfl rfl rfl rfl rfl
  | cancelToken token => exact b.keep (l.timers.cancelToken token) [] rfl rfl rfl rfl rfl
  | shutDown => exact b.keep l.timers.shutDown.1 l.timers.shutDown.2 rfl rfl rfl rfl rfl
  | cancel session =>
      have roster : (l.timers.cancel session).2.staff.roster = l.timers.staff.roster :=
        Staff.roster_cancel l.timers.staff session
      exact b.keep (l.timers.cancel session).2 [] rfl (congrArg _ roster) (congrArg _ roster) rfl
        rfl

/-- **Whatever happens is counted.** -/
theorem step (i : Incident) : (l.step i).Balanced := by
  cases i with
  | act session now sight => exact b.turn (makes_act _ _ _ _)
  | release session => exact b.release session
  | throwAway session =>
      rw [Ledger.step]
      split
      next there =>
          obtain ⟨w, found⟩ := (Store.mem_iff_getElem? _ _).mp there
          by_cases fresh : w.phase = .fresh
          · rw [throwAway_of_fresh found fresh]
            exact b.turn (.vanishes found fresh rfl)
          · rw [throwAway_of_begun found fresh]
            exact b.turn (.ends .thrownAway found fresh (fun _ h => nomatch h) rfl)
      next => exact b
  | breakDown session =>
      rw [Ledger.step]
      split
      next begun =>
          obtain ⟨w, found, begun⟩ := (Option.any_eq_true _ _).mp begun
          have begun : w.phase ≠ .fresh := bne_iff_ne.mp begun
          rw [throwAway_of_begun found begun]
          exact b.turn (.ends .brokeDown found begun (fun _ h => nomatch h) rfl)
      next => exact b
  | deed d =>
      cases d with
      | act session now sight => exact (b.turn (makes_act _ _ _ _)).release session
      | run | newChild | cancel | cancelToken | shutDown =>
          exact b.request _ fun _ _ _ same => nomatch same

/-- Every incident keeps the balance. -/
theorem foldl (is : List Incident) : Balanced (is.foldl Ledger.step l) := by
  induction is generalizing l with
  | nil => exact b
  | cons i rest ih => exact ih (b.step i)

end Balanced

/-- **The balance holds after any incidents.** -/
theorem balanced_after (limit : Option Nat) (is : List Incident) : (after limit is).Balanced :=
  (balanced_start limit).foldl is

/-! ## Whole deeds -/

/-- If nobody is about to leave, and a worker that ends leaves at once, then the timers are what the
worker makes of them. -/
theorem timers_whole {r : Timers × List Notice} {read : Option (Store.Outcome Session)}
    {further : Stage → Stage} (made : Makes l.timers session r read further)
    (nobody : l.leaving = []) :
    ((l.turn session r read further).release session).timers = r.1 ∧
      ((l.turn session r read further).release session).leaving = [] := by
  -- A worker that is still there, or never was, leaves no entry behind.
  have stays : session ∉ l.timers.workers ∨ session ∈ r.1.workers →
      r.1.staff = l.timers.staff →
      ((l.turn session r read further).release session).timers = r.1 ∧
        ((l.turn session r read further).release session).leaving = [] := by
    intro there staff
    have leaving : (l.turn session r read further).leaving = [] := by
      refine (if_neg ?_).trans nobody
      rintro ⟨before, after⟩
      exact there.elim (absurd before) after
    rw [Ledger.release, leaving, if_neg List.not_mem_nil]
    refine ⟨?_, leaving⟩
    show { r.1 with staff := l.timers.staff } = r.1
    rw [← staff]
  -- A worker that goes leaves its entry, and the release takes that away.
  have goes : session ∈ l.timers.workers → session ∉ r.1.workers →
      r.1.staff = l.timers.staff.leave session →
      ((l.turn session r read further).release session).timers = r.1 ∧
        ((l.turn session r read further).release session).leaving = [] := by
    intro before after staff
    have leaving : (l.turn session r read further).leaving = [session] := by
      rw [← nobody]
      exact if_pos ⟨before, after⟩
    rw [Ledger.release, leaving, if_pos (List.mem_singleton_self session)]
    refine ⟨?_, List.erase_cons_head _ _⟩
    show { r.1 with staff := l.timers.staff.leave session } = r.1
    rw [← staff]
  cases made with
  | nothing =>
      by_cases there : session ∈ l.timers.workers
      · exact stays (.inr there) rfl
      · exact stays (.inl there) rfl
  | begins | waits | announces | fails =>
      exact stays (.inr Std.ExtTreeMap.mem_insert_self) rfl
  | ends f found | vanishes found =>
      refine goes ((Store.mem_iff_getElem? _ _).mpr ⟨_, found⟩) ?_ rfl
      intro here
      exact (Std.ExtTreeMap.mem_erase.mp here).1 Std.compare_self

/-- What comes of whole deeds is what comes of them to the timers alone. -/
theorem timers_after_deeds (limit : Option Nat) (ds : List Deed) :
    (after limit (ds.map .deed)).timers = ds.foldl (fun t d => (t.step d).1) (.empty limit) := by
  have whole : ∀ (ds : List Deed) (l : Ledger), l.leaving = [] →
      ((ds.map Incident.deed).foldl step l).timers
        = ds.foldl (fun t d => (t.step d).1) l.timers := by
    intro ds
    induction ds with
    | nil => exact fun _ _ => rfl
    | cons d rest ih =>
        intro l nobody
        rw [List.map_cons, List.foldl_cons, List.foldl_cons]
        cases d with
        | act session now sight =>
            obtain ⟨timers, leaving⟩ := timers_whole (makes_act l.timers session now sight) nobody
            exact (ih _ leaving).trans (congrArg (rest.foldl fun t d => (t.step d).1) timers)
        | run | newChild | cancel | cancelToken | shutDown => exact ih _ nobody
  exact whole ds (start limit) rfl

/-! ## All counts -/

/-- Whoever has begun is at work or over, and is over for one reason. -/
theorem countP_hasBegun (cs : List Career) :
    cs.countP (·.stage.hasBegun) = cs.countP (·.stage = .atWork)
      + (Metrics.reasons.map fun e => cs.countP (·.stage.exit? = some e)).sum := by
  have one : ∀ s : Stage, (if s.hasBegun = true then 1 else 0)
      = (if decide (s = .atWork) = true then 1 else 0)
        + (Metrics.reasons.map fun e => if decide (s.exit? = some e) = true then 1 else 0).sum := by
    intro s
    cases s with
    | launched | atWork | discarded => rfl
    | ended f => cases f <;> rfl
  induction cs with
  | nil => rfl
  | cons c rest ih =>
      have one := one c.stage
      simp only [Metrics.reasons, List.map_cons, List.map_nil, List.sum_cons, List.sum_nil,
        List.countP_cons] at one ih ⊢
      omega

/-- Two fates are counted under one reason, that of the aborted. -/
theorem countP_aborted (cs : List Career) :
    cs.countP (·.stage.exit? = some .aborted)
      = cs.countP (·.stage = .ended .brokeDown) + cs.countP (·.stage = .ended .thrownAway) := by
  have one : ∀ s : Stage, (if decide (s.exit? = some .aborted) = true then 1 else 0)
      = (if decide (s = .ended .brokeDown) = true then 1 else 0)
        + (if decide (s = .ended .thrownAway) = true then 1 else 0) := by
    intro s
    cases s with
    | launched | atWork | discarded => rfl
    | ended f => cases f <;> rfl
  induction cs with
  | nil => rfl
  | cons c rest ih =>
      have one := one c.stage
      simp only [List.countP_cons]
      omega

end Ledger

open Ledger in
/-- **The counts of the workers balance.** Whatever has happened, workers breaking down in the midst
of a look and being thrown away included: everyone who has begun is counted as at work or under one
reason to end. As at work those are counted who are there and have begun, and each of them has the
entry of its session in the roster; under a reason those are counted who ended for it, and as
aborted those who broke down or were thrown away. The announcements are the events that were emitted
for countdowns, and the failures the looks that failed otherwise than by the absence of the session.

The counts are natural numbers. That no end was ever cut off at zero is a consequence: the first
equation would not hold after it. -/
theorem counts_balance (limit : Option Nat) (is : List Incident) :
    let l := Ledger.after limit is
    let tally := l.timers.tally
    (tally.started = tally.active + (Metrics.reasons.map tally.exits).sum ∧
      tally.started = l.careers.countP (·.stage.hasBegun) ∧
      tally.active = l.careers.countP (·.stage = .atWork)) ∧
    ((∀ c ∈ l.careers, c.stage = .atWork → 0 < tally.active ∧
        c.session ∈ l.timers.staff.roster.entries ∧
        ∃ w, l.timers.workers[c.session]? = some w ∧ w.phase ≠ .fresh) ∧
      (∀ session w, l.timers.workers[session]? = some w → w.phase ≠ .fresh →
        ⟨session, .atWork⟩ ∈ l.careers) ∧
      l.timers.staff.roster.launched = l.careers.length) ∧
    ((∀ e, tally.exits e = l.careers.countP (·.stage.exit? = some e)) ∧
      tally.exits .aborted
        = l.careers.countP (·.stage = .ended .brokeDown)
          + l.careers.countP (·.stage = .ended .thrownAway)) ∧
    tally.announced = l.log.countP Notice.isCountdown ∧
    tally.storeErrors = l.reads.countP HasFailed := by
  intro l tally
  obtain ⟨staffed, counted⟩ := balanced_after limit is
  refine ⟨⟨?_, counted.started_eq, counted.active_eq⟩, ⟨?_, ?_, staffed.launched_eq⟩,
    ⟨counted.exits_eq, (counted.exits_eq _).trans (countP_aborted _)⟩, counted.announced_eq,
    counted.storeErrors_eq⟩
  · rw [funext counted.exits_eq, counted.started_eq, counted.active_eq]
    exact countP_hasBegun l.careers
  · intro c listed atWork
    have current := staffed.succeeding.current?_of_mem listed (by rw [atWork]; rfl)
    rw [atWork] at current
    -- a session without a worker has no career that is still open
    cases found : l.timers.workers[c.session]? with
    | none => exact nomatch staffed.gone _ _ found current
    | some w =>
        have stage := (staffed.stage_eq _ w found).symm.trans current
        refine ⟨counted.active_pos current, (staffed.entered_iff _).mpr (.inl
          ((Store.mem_iff_getElem? _ _).mpr ⟨w, found⟩)), w, rfl, ?_⟩
        intro fresh
        rw [fresh] at stage
        exact nomatch Option.some.inj stage
  · intro session w found begun
    have current := staffed.stage_eq session w found
    rw [Stage.ofPhase_of_ne begun] at current
    exact mem_of_current? current

end Playgrounds.Timers
