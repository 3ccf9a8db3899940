import Playgrounds.Proofs.Service.InMemory
import Playgrounds.Proofs.Worker.Balance

/-!
# What a dispatch does

A task is run for an instance: it may launch a worker, note its run, or fail. Whatever it does, all
else in the service is left as it is, and that it fails is only reported.

* `Launches` — a task launches a worker for an instance.
* `IsDispatch`, `isDispatch_dispatch` — all that a dispatch does.
* `Dispatched`, `dispatched_schedule` — the tasks that are run for an instance, one by one.
* `Gains`, `Dispatched.register` — the session that is given a worker by that.
-/

namespace Playgrounds

/-- The name under which a task notes its runs, if it does. -/
def Task.noted? : Task → Option String
  | countdown => none
  | note name | noteAndFail name => some name

namespace Service

open Store

/-- A task launches a worker for an instance: it starts countdowns, the instance belongs to a
session, and the session is free. -/
structure Launches (s : Service) (i : Instance) (task : Task) : Prop where
  counts : task = .countdown
  attached : i.sessionId ≠ ""
  free : s.timers.IsFree i.sessionId

/-- A task has been run for an instance. -/
structure IsDispatch (s : Service) (i : Instance) (task : Task) (s' : Service) : Prop where
  /-- Only the timers, the notes and the log have changed. -/
  frame : s' = { s with timers := s'.timers, runs := s'.runs, reports := s'.reports }
  /-- A task that notes its runs has noted this one, and has been told whether it is cancelled. -/
  noted : s'.runs = (task.noted?.map fun name =>
    ⟨name, i.name, s.timers.staff.cancellations.covers (.child .dispatcher s.timers.issued)⟩).toList
      ++ s.runs
  isClosed : s'.timers.staff.roster.isClosed = s.timers.staff.roster.isClosed
  cancelled : s'.timers.staff.cancellations.cancelled = s.timers.staff.cancellations.cancelled
  /-- A worker that is launched is registered, and has not begun. No other is touched. -/
  launched : s.Launches i task → ∃ token, ∀ session,
    s'.timers.registered? session
      = (if i.sessionId = session then some token else s.timers.registered? session) ∧
    s'.timers.workers[session]?
      = if i.sessionId = session then some ⟨token, .fresh⟩ else s.timers.workers[session]?
  /-- Otherwise no worker is touched. -/
  rested : ¬s.Launches i task → ∀ session,
    s'.timers.registered? session = s.timers.registered? session ∧
    s'.timers.workers[session]? = s.timers.workers[session]?

/-- What is said to the log alone is only reported. -/
theorem adopt_lines (change : Timers × List Notice) (lines : ∀ n ∈ change.2, ∃ l, n = .line l)
    (s : Service) : s.adopt change
      = { s with timers := change.1, reports := (s.adopt change).reports } := by
  obtain ⟨timers, notices⟩ := change
  suffices told : ∀ s : Service, notices.foldl tell s
      = { s with reports := (notices.foldl tell s).reports } from
    told { s with timers }
  induction notices with
  | nil => exact fun _ => rfl
  | cons n rest ih =>
      intro s
      obtain ⟨l, rfl⟩ := lines n List.mem_cons_self
      exact ih (fun n here => lines n (List.mem_cons_of_mem _ here)) (s.report l)

section

variable (s : Service) (i : Instance)

/-- A task that has been run, when the dispatcher has heard of it. -/
theorem dispatch_eq (task : Task) : s.dispatch i task =
    match ({ s with timers := (s.timers.newChild .dispatcher).2 }).runTask task i
      (.child .dispatcher s.timers.issued) with
    | (.ok (), s) => s
    | (.error e, s) => s.report (Dispatcher.line .warn "task failed"
        [("task", Text.quoted task.name), ("instance", i.name), ("error", e.message)]) :=
  rfl

/-- To start a countdown takes over what the timers do, and reports. -/
theorem dispatch_countdown : s.dispatch i .countdown
    = { s with
        timers := ((s.timers.newChild .dispatcher).2.run i (.child .dispatcher s.timers.issued)).2.1
        reports := (s.dispatch i .countdown).reports } := by
  rw [dispatch_eq, runTask]
  have adopted := adopt_lines
    ((s.timers.newChild .dispatcher).2.run i (.child .dispatcher s.timers.issued)).2
    (fun _ => Timers.Ledger.exists_line_of_run)
    { s with timers := (s.timers.newChild .dispatcher).2 }
  rcases run : (s.timers.newChild .dispatcher).2.run i (.child .dispatcher s.timers.issued)
    with ⟨_ | _, change⟩
  · rw [run] at adopted
    dsimp only
    rw [adopted]
    rfl
  · rw [run] at adopted
    exact adopted

/-- **What a dispatch does.** -/
theorem isDispatch_dispatch (task : Task) : IsDispatch s i task (s.dispatch i task) := by
  cases task with
  | countdown =>
      have whole := s.dispatch_countdown i
      have timers := congrArg Service.timers whole
      dsimp only at timers
      -- The countdown is the one task that may start a worker: it does where none is registered.
      obtain ⟨attached, free, launched⟩ | ⟨taken, same⟩ := Timers.run_cases
        (s.timers.newChild .dispatcher).2 i (.child .dispatcher s.timers.issued)
      · have launches : s.Launches i .countdown :=
          ⟨rfl, by simpa using attached, ⟨free.absent, free.isOpen⟩⟩
        rw [launched] at timers
        refine ⟨?_, ?_, ?_, ?_, fun _ => ?_, fun rests => absurd launches rests⟩
        · rw [whole]
        · rw [whole]
          rfl
        · rw [timers, free.isClosed_launchFor]
          rfl
        · rw [timers, free.cancelled_launchFor]
          rfl
        · refine ⟨.child (.child .dispatcher s.timers.issued) (s.timers.issued + 1),
            fun session => ⟨?_, ?_⟩⟩
          · rw [timers, free.registered?_launchFor]
            rfl
          · rw [timers]
            exact getElem?_insert_eq ..
      · rw [same] at timers
        refine ⟨?_, ?_, ?_, ?_, fun launches => ?_, fun _ session => ?_⟩
        · rw [whole]
        · rw [whole]
          rfl
        · rw [timers]
          rfl
        · rw [timers]
          rfl
        · obtain ⟨-, attached, free⟩ := launches
          refine absurd taken (not_or.mpr ⟨by simpa using attached, not_not.mpr ?_⟩)
          exact ⟨free.absent, free.isOpen⟩
        · rw [timers]
          exact ⟨rfl, rfl⟩
  -- The other tasks leave the timers alone, whether they fail or not.
  | note name | noteAndFail name =>
      exact ⟨rfl, rfl, rfl, rfl, fun launches => (nomatch launches.counts),
        fun _ _ => ⟨rfl, rfl⟩⟩

end

/-! ## All tasks -/

/-- These tasks have been run for an instance, one after the other, and nothing else was done. -/
inductive Dispatched (i : Instance) : Service → List Task → Service → Prop where
  | nil (s : Service) : Dispatched i s [] s
  | cons {s s' s'' : Service} {task : Task} {rest : List Task} :
    IsDispatch s i task s' → Dispatched i s' rest s'' → Dispatched i s (task :: rest) s''

/-- A session is to be given a worker by these tasks. -/
structure Gains (s : Service) (i : Instance) (tasks : List Task) (session : String) : Prop where
  counts : .countdown ∈ tasks
  own : i.sessionId = session
  attached : session ≠ ""
  absent : s.timers.registered? session = none

/-- A session has been given a worker, which has not begun. -/
def HasGained (s' : Service) (session : String) : Prop :=
  ∃ token, s'.timers.registered? session = some token ∧
    s'.timers.workers[session]? = some ⟨token, .fresh⟩

/-- Of the workers of a session nothing has changed. -/
def HasKept (s s' : Service) (session : String) : Prop :=
  s'.timers.registered? session = s.timers.registered? session ∧
    s'.timers.workers[session]? = s.timers.workers[session]?

section

variable {s s' : Service} {i : Instance} {task : Task} {tasks : List Task}

/-- **An instance is scheduled by running every task once, in order.** -/
theorem dispatched_schedule (s : Service) (i : Instance) :
    Dispatched i s s.tasks (s.schedule i) := by
  rw [schedule]
  generalize s.tasks = tasks
  induction tasks generalizing s with
  | nil => exact .nil s
  | cons task rest ih => exact .cons (s.isDispatch_dispatch i task) (ih (s.dispatch i task))

/-- A dispatch touches the timers, the runs and the reports, and nothing else of the service. -/
theorem Dispatched.frame (d : Dispatched i s tasks s') :
    s' = { s with timers := s'.timers, runs := s'.runs, reports := s'.reports } := by
  induction d with
  | nil => rfl
  | cons first _ ih =>
      rw [first.frame] at ih
      exact ih

theorem Dispatched.isClosed (d : Dispatched i s tasks s') :
    s'.timers.staff.roster.isClosed = s.timers.staff.roster.isClosed := by
  induction d with
  | nil => rfl
  | cons first _ ih => exact ih.trans first.isClosed

theorem Dispatched.cancelled (d : Dispatched i s tasks s') :
    s'.timers.staff.cancellations.cancelled = s.timers.staff.cancellations.cancelled := by
  induction d with
  | nil => rfl
  | cons first _ ih => exact ih.trans first.cancelled

/-- One task gives a session a worker if that is free, and touches no other. -/
theorem IsDispatch.register (d : IsDispatch s i task s')
    (isOpen : s.timers.staff.roster.isClosed = false) (session : String) :
    (s.Gains i [task] session ∧ s'.HasGained session) ∨
      (¬s.Gains i [task] session ∧ HasKept s s' session) := by
  by_cases launches : s.Launches i task
  · obtain ⟨token, register⟩ := d.launched launches
    obtain ⟨registered, worker⟩ := register session
    by_cases own : i.sessionId = session
    · subst own
      exact .inl ⟨⟨List.mem_singleton.mpr launches.counts.symm, rfl, launches.attached,
        launches.free.absent⟩, token, registered.trans (if_pos rfl), worker.trans (if_pos rfl)⟩
    · exact .inr ⟨fun gains => own gains.own, registered.trans (if_neg own),
        worker.trans (if_neg own)⟩
  · refine .inr ⟨?_, d.rested launches session⟩
    rintro ⟨counts, rfl, attached, absent⟩
    exact launches ⟨(List.mem_singleton.mp counts).symm, attached, absent, isOpen⟩

/-- **A session is given a worker exactly if countdowns are among the tasks, the instance is its
own, and it is free**; of the workers of all other sessions nothing changes. -/
theorem Dispatched.register (d : Dispatched i s tasks s')
    (isOpen : s.timers.staff.roster.isClosed = false) (session : String) :
    (s.Gains i tasks session ∧ s'.HasGained session) ∨
      (¬s.Gains i tasks session ∧ HasKept s s' session) := by
  induction d with
  | nil s => exact .inr ⟨fun gains => List.not_mem_nil gains.counts, rfl, rfl⟩
  | @cons s s' s'' task rest first _ ih =>
      have later := ih (first.isClosed.trans isOpen)
      obtain ⟨⟨counts, own, attached, absent⟩, token, registered, worker⟩ | ⟨rests, same, worker⟩ :=
        first.register isOpen session
      -- Once the session has a worker the other tasks do not give it another.
      · have among := List.mem_singleton.mp counts
        refine .inl ⟨⟨List.mem_cons.mpr (.inl among), own, attached, absent⟩, ?_⟩
        obtain ⟨gains, -⟩ | ⟨-, kept, kept'⟩ := later
        · exact nomatch registered.symm.trans gains.absent
        · exact ⟨token, kept.trans registered, kept'.trans worker⟩
      · obtain ⟨⟨counts, own, attached, absent⟩, gained⟩ | ⟨rests', kept, kept'⟩ := later
        · exact .inl ⟨⟨List.mem_cons_of_mem _ counts, own, attached, same.symm.trans absent⟩,
            gained⟩
        · refine .inr ⟨?_, kept.trans same, kept'.trans worker⟩
          rintro ⟨counts, own, attached, absent⟩
          rcases List.mem_cons.mp counts with now | then'
          · exact rests ⟨List.mem_singleton.mpr now, own, attached, absent⟩
          · exact rests' ⟨then', own, attached, same.trans absent⟩

end

end Service

end Playgrounds
