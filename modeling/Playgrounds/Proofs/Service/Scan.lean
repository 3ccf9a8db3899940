import Mathlib.Data.List.Perm.Basic
import Playgrounds.Proofs.Service.Dispatches
import Playgrounds.Proofs.Service.Exactness

/-!
# The scan at the start

At the start every stored instance is scheduled. While that goes on the others do not wait: workers
come and go before each call of the store and before each task. Neither they, nor a task that fails,
nor the order in which the sessions are listed change what is scheduled.

* `Moment`, `Service.through` — what happens while the dispatcher scans, and what comes of it.
* `Scan`, `Scan.run` — the dispatcher's own program, among others.
* `Tables.covered` — the instances of stored sessions.
* `Stands`, `Spares` — what the others leave as it is.
* `Goes` — how far a scan has got; `goes_dispatches`, `goes_sessions` — the loops.
* `startup_scan_covers_every_instance` — what a whole scan does.
-/

namespace Playgrounds

open Store

namespace Store

/-- The instances whose session id is the id of a stored session. -/
def Tables.covered (t : Tables) : List Instance :=
  t.instances.values.filter fun i => (t.sessions.values.map (·.id)).contains i.sessionId

/-- What is picked for each of some keys is what has one of the keys. -/
theorem flatMap_filter_perm {α κ : Type} [DecidableEq κ] (key : α → κ) {ks : List κ}
    (unique : ks.Nodup) (as : List α) :
    (ks.flatMap fun k => as.filter (key · == k)).Perm (as.filter fun a => ks.contains (key a)) := by
  induction ks with
  | nil => simp
  | cons k rest ih =>
      obtain ⟨absent, unique⟩ := List.nodup_cons.mp unique
      -- Those with the first key are found whether others are left out or not.
      have first : (as.filter fun a => (k :: rest).contains (key a)).filter (key · == k)
          = as.filter (key · == k) := by
        rw [List.filter_filter]
        refine List.filter_congr fun a _ => ?_
        by_cases same : key a = k <;> simp [same]
      -- Those with another key are found whether the first is among the keys or not.
      have others : (as.filter fun a => (k :: rest).contains (key a)).filter (!key · == k)
          = as.filter fun a => rest.contains (key a) := by
        rw [List.filter_filter]
        refine List.filter_congr fun a _ => ?_
        by_cases same : key a = k <;> simp [same, absent]
      have parted := List.filter_append_perm (key · == k)
        (as.filter fun a => (k :: rest).contains (key a))
      rw [first, others] at parted
      rw [List.flatMap_cons]
      exact ((ih unique).append_left _).trans parted

/-- The instances of the sessions, one session after the other in any order, are those covered. -/
theorem Tables.flatMap_instancesOf_perm {t : Tables} (own : UnderOwn Session.id t.sessions)
    {xs : List Session} (listed : xs.Perm t.sessions.values) :
    (xs.flatMap fun x => t.instancesOf x.id).Perm t.covered := by
  have unique : (t.sessions.values.map (·.id)).Nodup := by
    rw [map_id_values own]
    exact Std.ExtTreeMap.nodup_keys
  have grouped := flatMap_filter_perm Instance.sessionId unique t.instances.values
  rw [List.flatMap_map] at grouped
  exact (listed.flatMap_right _).trans grouped

theorem Tables.mem_covered {t : Tables} (own : UnderOwn Session.id t.sessions) {i : Instance} :
    i ∈ t.covered ↔ i ∈ t.instances.values ∧ i.sessionId ∈ t.sessions := by
  rw [covered, List.mem_filter, map_id_values own, List.contains_iff_mem, Std.ExtTreeMap.mem_keys]

end Store

namespace Service

/-! ## What happens -/

/-- Something that happens while the dispatcher scans. -/
inductive Moment where
  /-- The others go on. -/
  | others (f : Service → Service)
  /-- The dispatcher makes a call that runs no task: of the store, or of the log. -/
  | called (f : Service → Service)
  /-- It runs a task for an instance. -/
  | dispatched (i : Instance) (task : Task)

namespace Moment

/-- What comes of it. -/
def act (s : Service) : Moment → Service
  | others f | called f => f s
  | dispatched i task => s.dispatch i task

/-- A call that changes neither the store nor the timers nor the tasks. -/
def IsCall (f : Service → Service) : Prop :=
  ∀ s t, s.HasTables t → (f s).HasTables t ∧ (f s).timers = s.timers ∧ (f s).tasks = s.tasks

/-- The dispatcher makes such calls and runs tasks, and of the others only these go on. -/
inductive IsExpected (others : List (Service → Service)) : Moment → Prop where
  | others {f : Service → Service} : f ∈ others → IsExpected others (.others f)
  | called {f : Service → Service} : IsCall f → IsExpected others (.called f)
  | dispatched (i : Instance) (task : Task) : IsExpected others (.dispatched i task)

/-- What may be expected of some may be expected of more. -/
theorem IsExpected.mono {others more : List (Service → Service)} {m : Moment}
    (expected : m.IsExpected others) (sub : others ⊆ more) : m.IsExpected more := by
  cases expected with
  | others here => exact .others (sub here)
  | called call => exact .called call
  | dispatched i task => exact .dispatched i task

/-- The tasks that are run, in order, and for which instances. -/
def ran (ms : List Moment) : List (Instance × Task) :=
  ms.filterMap fun
    | dispatched i task => some (i, task)
    | _ => none

theorem ran_append (ms ms' : List Moment) : ran (ms ++ ms') = ran ms ++ ran ms' :=
  List.filterMap_append

/-- What has been run is what was dispatched. -/
theorem mem_ran {ms : List Moment} {i : Instance} {task : Task} :
    (i, task) ∈ ran ms ↔ .dispatched i task ∈ ms := by
  rw [ran, List.mem_filterMap]
  constructor
  · rintro ⟨m, here, same⟩
    cases m with
    | dispatched =>
        cases same
        exact here
    | others | called => exact nomatch same
  · exact fun here => ⟨_, here, rfl⟩

end Moment

/-- The service after some moments. -/
def through (s : Service) (ms : List Moment) : Service :=
  ms.foldl Moment.act s

theorem through_concat (s : Service) (ms : List Moment) (m : Moment) :
    s.through (ms ++ [m]) = m.act (s.through ms) := by
  simp only [through, List.foldl_append, List.foldl_cons, List.foldl_nil]

/-! ## The scan -/

/-- A scan in progress. -/
structure Scan where
  first : Service
  /-- What has happened, the oldest first. -/
  course : List Moment
  /-- What the others are going to do, at one pause of the scan after the other. -/
  others : List (Service → Service)

namespace Scan

/-- The service as it is now. -/
def service (w : Scan) : Service :=
  w.first.through w.course

/-- Something happens. -/
def go (w : Scan) (m : Moment) : Scan :=
  { w with course := w.course ++ [m] }

/-- The dispatcher pauses. -/
def pause (w : Scan) : Scan :=
  match w.others with
  | [] => w
  | f :: rest => { w with others := rest }.go (.others f)

/-- What comes of a call, if sessions are listed in another order. -/
def listing (order : List Session → List Session) {α : Type} : Operation α → Outcome α → Outcome α
  | .sessions, outcome => outcome.map order
  | _, outcome => outcome

/-- The service as the dispatcher needs it, with others at work and the sessions in some order. -/
def host (order : List Session → List Session) : Host (StateM Scan) where
  store op := fun w => (listing order op (Service.host.store op w.pause.service).1,
    w.pause.go (.called fun s => (Service.host.store op s).2))
  announce e := fun w => ((), w.go (.called fun s => (Service.host.announce e s).2))
  countCreated := fun w => ((), w.go (.called fun s => (Service.host.countCreated s).2))
  report l := fun w => ((), w.go (.called fun s => (Service.host.report l s).2))

/-- A task is run for an instance. -/
def dispatch (i : Instance) (w : Scan) (task : Task) : Scan :=
  w.pause.go (.dispatched i task)

/-- Every task is run for an instance. -/
def schedule (i : Instance) : StateM Scan Unit :=
  fun w => ((), w.service.tasks.foldl (dispatch i) w)

/-- The scan of a service, with others at work. -/
def run (order : List Session → List Session) (s : Service) (others : List (Service → Service)) :
    Outcome Nat × Scan :=
  Dispatcher.scheduleExisting (host order) schedule ⟨s, [], others⟩

theorem service_go (w : Scan) (m : Moment) : (w.go m).service = m.act w.service :=
  through_concat w.first w.course m

/-! ### Nobody else -/

/-- Nobody else is at work, and the service is this. -/
structure IsAlone (w : Scan) (s : Service) : Prop where
  service : w.service = s
  others : w.others = []

variable {w : Scan} {s : Service}

theorem IsAlone.pause (alone : IsAlone w s) : w.pause = w := by
  rw [Scan.pause, alone.others]

theorem IsAlone.go (alone : IsAlone w s) (m : Moment) : IsAlone (w.go m) (m.act s) :=
  ⟨by rw [service_go, alone.service], alone.others⟩

/-- Where nobody else is, to schedule an instance in the scan is to schedule it. -/
theorem IsAlone.schedule (alone : IsAlone w s) (i : Instance) :
    IsAlone (Scan.schedule i w).2 (s.schedule i) := by
  show IsAlone (w.service.tasks.foldl (dispatch i) w) (s.tasks.foldl _ s)
  rw [alone.service]
  generalize s.tasks = tasks
  induction tasks generalizing w s with
  | nil => exact alone
  | cons task rest ih =>
      refine ih (w := dispatch i w task) ?_
      rw [dispatch, alone.pause]
      exact alone.go (.dispatched i task)

/-- Where nobody else is, the same holds of a list of instances. -/
theorem IsAlone.scheduleAll (alone : IsAlone w s) (is : List Instance) :
    IsAlone ((is.forM Scan.schedule : StateM Scan Unit) w).2
      ((is.forM fun i s => ((), s.schedule i) : StateM Service Unit) s).2 := by
  induction is generalizing w s with
  | nil => exact alone
  | cons i rest ih => exact ih (alone.schedule i)

/-- Alone the dispatcher is answered as the service answers it. -/
theorem IsAlone.store (alone : IsAlone w s) {α : Type} (op : Operation α) :
    ((host id).store op w).1 = (Service.host.store op s).1 ∧
      IsAlone ((host id).store op w).2 (Service.host.store op s).2 := by
  have same : ∀ outcome : Outcome α, listing id op outcome = outcome := by
    intro outcome
    cases op <;> first | rfl | (cases outcome <;> rfl)
  show listing id op (Service.host.store op w.pause.service).1 = _ ∧ IsAlone (w.pause.go _) _
  rw [same, alone.pause, alone.service]
  exact ⟨rfl, alone.go (.called _)⟩

/-- Where nobody else is, the same holds of the sessions one after the other, and of their count. -/
theorem IsAlone.scheduleSessions (alone : IsAlone w s) (xs : List Session) (n : Nat) :
    (Dispatcher.scheduleSessions (host id) Scan.schedule xs n w).1
        = (Dispatcher.scheduleSessions Service.host (fun i s => ((), s.schedule i)) xs n s).1 ∧
      IsAlone (Dispatcher.scheduleSessions (host id) Scan.schedule xs n w).2
        (Dispatcher.scheduleSessions Service.host (fun i s => ((), s.schedule i)) xs n s).2 := by
  induction xs generalizing n w s with
  | nil => exact ⟨rfl, alone⟩
  | cons x rest ih =>
      obtain ⟨listed, alone⟩ := alone.store (.instancesOf x.id)
      rw [Dispatcher.scheduleSessions, Dispatcher.scheduleSessions, bind_run, bind_run, listed]
      cases (Service.host.store (.instancesOf x.id) s).1 with
      | error f => exact ⟨rfl, alone⟩
      | ok is => exact ih (alone.scheduleAll is) (n + is.length)

/-- **Alone the dispatcher does what the service does at its start.** -/
theorem run_alone (s : Service) :
    (run id s []).1 = s.scheduleExisting.1 ∧ (run id s []).2.service = s.scheduleExisting.2 := by
  have alone : IsAlone ⟨s, [], []⟩ s := ⟨rfl, rfl⟩
  obtain ⟨listed, alone⟩ := alone.store .sessions
  rw [run, scheduleExisting, Dispatcher.scheduleExisting, Dispatcher.scheduleExisting, bind_run,
    bind_run, listed]
  cases (Service.host.store .sessions s).1 with
  | error f => exact ⟨rfl, alone.service⟩
  | ok xs =>
      obtain ⟨counted, alone⟩ := alone.scheduleSessions xs 0
      dsimp only
      rw [bind_run, bind_run, counted]
      cases (Dispatcher.scheduleSessions Service.host (fun i s => ((), s.schedule i)) xs 0
        (Service.host.store .sessions s).2).1 with
      | error f => exact ⟨rfl, alone.service⟩
      | ok count => exact ⟨rfl, (alone.go (.called _)).service⟩

end Scan

/-! ## What stays as it is -/

/-- The service has these tables in memory and these tasks, and its roster is open. -/
structure Stands (t : Tables) (tasks : List Task) (s : Service) : Prop where
  tables : s.HasTables t
  tasks : s.tasks = tasks
  isOpen : s.timers.staff.roster.isClosed = false

/-- A change that leaves these as they are. -/
def Spares (t : Tables) (tasks : List Task) (f : Service → Service) : Prop :=
  ∀ s, Stands t tasks s → Stands t tasks (f s)

section

variable {t : Tables} {tasks : List Task} {s : Service} {others : List (Service → Service)}

/-- A dispatch leaves the store and the tasks alone. -/
theorem Stands.dispatch (stands : Stands t tasks s) (i : Instance) (task : Task) :
    Stands t tasks (s.dispatch i task) := by
  have dispatched := s.isDispatch_dispatch i task
  have isOpen := dispatched.isClosed.trans stands.isOpen
  rw [dispatched.frame]
  exact ⟨⟨stands.tables.store, stands.tables.faults⟩, stands.tasks, isOpen⟩

/-- Whatever is expected to happen leaves the store and the tasks alone. -/
theorem Stands.act (stands : Stands t tasks s) (spare : ∀ f ∈ others, Spares t tasks f)
    {m : Moment} (expected : m.IsExpected others) : Stands t tasks (m.act s) := by
  cases expected with
  | others here => exact spare _ here s stands
  | called call =>
      obtain ⟨tables, timers, same⟩ := call s t stands.tables
      exact ⟨tables, same.trans stands.tasks, by rw [Moment.act, timers, stands.isOpen]⟩
  | dispatched i task => exact stands.dispatch i task

/-- All that is expected to happen, one thing after another, leaves the store and the tasks as they
are. -/
theorem Stands.through (stands : Stands t tasks s) (spare : ∀ f ∈ others, Spares t tasks f)
    {ms : List Moment} (expected : ∀ m ∈ ms, m.IsExpected others) :
    Stands t tasks (s.through ms) := by
  induction ms generalizing s with
  | nil => exact stands
  | cons m rest ih =>
      exact ih (stands.act spare (expected m List.mem_cons_self))
        fun m here => expected m (List.mem_cons_of_mem _ here)

/-- A call that only reads changes neither store nor timers nor tasks. -/
theorem isCall_store {α : Type} {op : Operation α} (reads : ReadsOnly op) :
    Moment.IsCall fun s => (host.store op s).2 := by
  intro s t h
  have rests := quiet_store reads s t h
  refine ⟨rests.hasTables h, ?_⟩
  show (s.call op).2.timers = s.timers ∧ (s.call op).2.tasks = s.tasks
  rw [h.call]
  cases op <;> exact ⟨rfl, rfl⟩

theorem isCall_report (l : Log.Line) : Moment.IsCall fun s => (host.report l s).2 :=
  fun _ _ h => ⟨⟨h.store, h.faults⟩, rfl, rfl⟩

/-! ### Workers -/

theorem Stands.tell (stands : Stands t tasks s) (n : Notice) : Stands t tasks (s.tell n) := by
  cases n with
  | event | line => exact ⟨⟨stands.tables.store, stands.tables.faults⟩, stands.tasks, stands.isOpen⟩

/-- What is done to the timers may be taken over, as long as it leaves the roster open. -/
theorem Stands.adopt (stands : Stands t tasks s) {change : Timers × List Notice}
    (isOpen : change.1.staff.roster.isClosed = false) : Stands t tasks (s.adopt change) := by
  obtain ⟨timers, notices⟩ := change
  have taken : Stands t tasks { s with timers := timers } :=
    ⟨⟨stands.tables.store, stands.tables.faults⟩, stands.tasks, isOpen⟩
  show Stands t tasks (notices.foldl Service.tell { s with timers := timers })
  generalize { s with timers := timers } = s at taken
  clear isOpen
  induction notices generalizing s with
  | nil => exact taken
  | cons n rest ih => exact ih _ (taken.tell n)

/-- No move of a worker closes the roster. -/
theorem Stands.move (stands : Stands t tasks s) (session : String) (now : Nat) (sight : Sight) :
    Stands t tasks (s.adopt (s.timers.act session now sight)) := by
  refine stands.adopt ?_
  obtain ⟨_, _, _, -, goesOn⟩ | ⟨_, ends⟩ | rests := Timers.act_cases s.timers session now sight
  · rw [goesOn]
    exact stands.isOpen
  · rw [ends]
    exact stands.isOpen
  · rw [rests]
    exact stands.isOpen

/-- A worker that looks at its session leaves the store and the tasks alone. -/
theorem Stands.sight (stands : Stands t tasks s) (session : String) (move : Worker.Move) :
    Stands t tasks (s.sight session move).2 := by
  have tables := stands.tables
  cases move with
  | ask due =>
      rw [Service.sight, tables.begin]
      exact ⟨⟨rfl, tables.faults⟩, stands.tasks, stands.isOpen⟩
  | hear due =>
      rw [Service.sight, tables.perform]
      exact ⟨⟨rfl, tables.faults⟩, stands.tasks, stands.isOpen⟩
  | begin | stop | giveUp | rest => exact stands

/-- **A worker may take its turn**, whatever it does in it. -/
theorem spares_workerTurn (session : String) : Spares t tasks (·.workerTurn session) := by
  suffices steps : ∀ fuel s, Stands t tasks s → Stands t tasks (workerSteps session fuel s) from
    fun s stands => steps 3 s stands
  intro fuel
  induction fuel with
  | zero => exact fun _ stands => stands
  | succ fuel ih =>
      intro s stands
      rw [workerSteps]
      split
      next w _ =>
          exact ih _ ((stands.sight session (s.timers.move s.now w)).move session _ _)
      next => exact stands

end

/-! ## How far a scan has got -/

namespace Scan

/-- The scan has gone on, and these tasks have been run. -/
structure Goes (w w' : Scan) (ran : List (Instance × Task)) : Prop where
  first : w'.first = w.first
  course : ∃ ms, w'.course = w.course ++ ms ∧ (∀ m ∈ ms, m.IsExpected w.others) ∧
    Moment.ran ms = ran
  others : w'.others ⊆ w.others

/-- All is as it was at the start, and the others keep it so. -/
structure IsReady (t : Tables) (tasks : List Task) (w : Scan) : Prop where
  stands : Stands t tasks w.service
  spare : ∀ f ∈ w.others, Spares t tasks f

variable {t : Tables} {tasks : List Task} {w w' w'' : Scan} {ran ran' : List (Instance × Task)}

theorem Goes.refl (w : Scan) : Goes w w [] :=
  ⟨rfl, ⟨[], (List.append_nil _).symm, fun _ here => absurd here List.not_mem_nil, rfl⟩,
    List.Subset.refl _⟩

/-- A scan that goes on from where it has got has run what was run before, and then the rest. -/
theorem Goes.trans (goes : Goes w w' ran) (then' : Goes w' w'' ran') :
    Goes w w'' (ran ++ ran') := by
  obtain ⟨ms, course, expected, rfl⟩ := goes.course
  obtain ⟨ms', course', expected', rfl⟩ := then'.course
  refine ⟨then'.first.trans goes.first, ⟨ms ++ ms', ?_, ?_, Moment.ran_append ms ms'⟩,
    List.Subset.trans then'.others goes.others⟩
  · rw [course', course, List.append_assoc]
  · intro m here
    rcases List.mem_append.mp here with here | here
    · exact expected m here
    · exact (expected' m here).mono goes.others

/-- Where a scan has got to is told by the moments that have passed. -/
theorem Goes.service (goes : Goes w w' ran) : ∃ ms, w'.service = w.service.through ms ∧
    ∀ m ∈ ms, m.IsExpected w.others := by
  obtain ⟨ms, course, expected, -⟩ := goes.course
  refine ⟨ms, ?_, expected⟩
  rw [Scan.service, Scan.service, goes.first, course, through, through, through, List.foldl_append]

/-- A scan stays ready while it goes on. -/
theorem Goes.isReady (goes : Goes w w' ran) (ready : IsReady t tasks w) : IsReady t tasks w' := by
  obtain ⟨ms, reached, expected⟩ := goes.service
  refine ⟨?_, fun f here => ready.spare f (goes.others here)⟩
  rw [reached]
  exact ready.stands.through ready.spare expected

/-- Others may do something in a pause, but nothing is run in it. -/
theorem goes_pause (w : Scan) : Goes w w.pause [] := by
  rw [pause]
  split
  next => exact .refl w
  next f rest more =>
      refine ⟨rfl, ⟨[.others f], rfl, ?_, rfl⟩, ?_⟩
      · intro m here
        rw [List.mem_singleton.mp here, more]
        exact .others List.mem_cons_self
      · rw [more]
        exact List.subset_cons_self f rest

theorem goes_go (w : Scan) {m : Moment} (expected : m.IsExpected w.others) :
    Goes w (w.go m) (Moment.ran [m]) :=
  ⟨rfl, ⟨[m], rfl, fun _ here => List.mem_singleton.mp here ▸ expected, rfl⟩, List.Subset.refl _⟩

/-- A call runs no task. -/
theorem Goes.call (goes : Goes w w' ran) {f : Service → Service} (call : Moment.IsCall f) :
    Goes w (w'.go (.called f)) ran := by
  have called := goes.trans (goes_go w' (.called call))
  rwa [show Moment.ran [.called f] = [] from rfl, List.append_nil] at called

theorem goes_dispatch (w : Scan) (i : Instance) (task : Task) :
    Goes w (dispatch i w task) [(i, task)] :=
  (goes_pause w).trans (goes_go w.pause (.dispatched i task))

/-- The tasks are run one after the other. -/
theorem goes_dispatches (w : Scan) (i : Instance) (tasks : List Task) :
    Goes w (tasks.foldl (dispatch i) w) (tasks.map (i, ·)) := by
  induction tasks generalizing w with
  | nil => exact .refl w
  | cons task rest ih => exact (goes_dispatch w i task).trans (ih (dispatch i w task))

/-- To schedule an instance runs all the tasks for it, in their order. -/
theorem goes_schedule (ready : IsReady t tasks w) (i : Instance) :
    Goes w (schedule i w).2 (tasks.map (i, ·)) := by
  rw [← ready.stands.tasks]
  exact goes_dispatches w i w.service.tasks

/-- The instances are scheduled one after the other. -/
theorem goes_instances (ready : IsReady t tasks w) (is : List Instance) :
    Goes w ((is.forM schedule : StateM Scan Unit) w).2 (is.flatMap fun i => tasks.map (i, ·)) := by
  induction is generalizing w with
  | nil => exact .refl w
  | cons i rest ih =>
      have goes := goes_schedule ready i
      rw [List.flatMap_cons]
      exact goes.trans (ih (goes.isReady ready))

section

variable {order : List Session → List Session}

/-- A read is answered from the tables, whatever the others do first. -/
theorem goes_store {α : Type} {op : Operation α} (reads : ReadsOnly op)
    (ready : IsReady t tasks w) :
    ((host order).store op w).1 = listing order op (t.run op).1 ∧
      Goes w ((host order).store op w).2 [] := by
  have paused := goes_pause w
  constructor
  · show listing order op (w.pause.service.call op).1 = _
    rw [(paused.isReady ready).stands.tables.call]
  · exact paused.call (isCall_store reads)

variable (order)

/-- The sessions are scanned one after the other. -/
theorem goes_sessions (ready : IsReady t tasks w) (xs : List Session) (n : Nat) :
    let is := xs.flatMap fun x => t.instancesOf x.id
    (Dispatcher.scheduleSessions (host order) schedule xs n w).1 = .ok (n + is.length) ∧
      Goes w (Dispatcher.scheduleSessions (host order) schedule xs n w).2
        (is.flatMap fun i => tasks.map (i, ·)) := by
  induction xs generalizing n w with
  | nil => exact ⟨rfl, .refl w⟩
  | cons x rest ih =>
      obtain ⟨listed, asked⟩ :
          ((host order).store (.instancesOf x.id) w).1 = .ok (t.instancesOf x.id) ∧ _ :=
        goes_store (fun _ => rfl) ready
      rw [Dispatcher.scheduleSessions, bind_run, listed]
      have scheduled := goes_instances (asked.isReady ready) (t.instancesOf x.id)
      -- The count goes on from the instances of this session.
      obtain ⟨counted, scanned⟩ :=
        ih (scheduled.isReady (asked.isReady ready)) (n + (t.instancesOf x.id).length)
      refine ⟨?_, ?_⟩
      · rw [List.flatMap_cons, List.length_append, ← Nat.add_assoc]
        exact counted
      · rw [List.flatMap_cons, List.flatMap_append]
        exact asked.trans (scheduled.trans scanned)

/-- **The whole scan.** -/
theorem goes_run {s : Service} {others : List (Service → Service)} (stands : Stands t tasks s)
    (spare : ∀ f ∈ others, Spares t tasks f) :
    let is := (order t.sessions.values).flatMap fun x => t.instancesOf x.id
    (run order s others).1 = .ok is.length ∧
      Goes ⟨s, [], others⟩ (run order s others).2 (is.flatMap fun i => tasks.map (i, ·)) := by
  have ready : IsReady t tasks ⟨s, [], others⟩ := ⟨stands, spare⟩
  obtain ⟨listed, asked⟩ :
      ((host order).store .sessions ⟨s, [], others⟩).1 = .ok (order t.sessions.values) ∧ _ :=
    goes_store (fun _ => rfl) ready
  obtain ⟨counted, scanned⟩ :=
    goes_sessions order (asked.isReady ready) (order t.sessions.values) 0
  rw [Nat.zero_add] at counted
  rw [run, Dispatcher.scheduleExisting, bind_run, listed]
  dsimp only
  rw [bind_run, counted]
  exact ⟨rfl, (asked.trans scanned).call (isCall_report _)⟩

end

/-! ## What a whole scan does -/

/-- A scan has covered the instances of the stored sessions. -/
structure Covers (t : Tables) (tasks : List Task) (w : Scan) : Prop where
  /-- Instance by instance every task is run, once for each one that is covered and for no other. -/
  exactly : ∃ is : List Instance, is.Perm t.covered ∧
    Moment.ran w.course = is.flatMap fun i => tasks.map (i, ·)
  /-- So a session is reached by each task exactly if it is stored and has an instance. -/
  sessions : ∀ session task, (∃ i, (i, task) ∈ Moment.ran w.course ∧ i.sessionId = session)
    ↔ task ∈ tasks ∧ session ∈ t.sessions ∧ ∃ i ∈ t.instances.values, i.sessionId = session
  /-- What else a task does, and whether it fails, makes no difference to this. -/
  dispatched : ∀ before i task after, w.course = before ++ .dispatched i task :: after →
    IsDispatch (w.first.through before) i task
      (w.first.through (before ++ [.dispatched i task]))
  /-- A session that has an id has a worker when the scan reaches it, or is given one. -/
  reached : ∀ before i after, w.course = before ++ .dispatched i .countdown :: after →
    i.sessionId ≠ "" →
      let s := (w.first.through before).timers
      let s' := (w.first.through (before ++ [.dispatched i .countdown])).timers
      (∃ token, s.registered? i.sessionId = some token ∧ s'.registered? i.sessionId = some token) ∨
      s.registered? i.sessionId = none ∧ ∃ token, s'.registered? i.sessionId = some token ∧
        s'.workers[i.sessionId]? = some ⟨token, .fresh⟩
  /-- No worker is launched for any other session. -/
  launched : ∀ before m after, w.course = before ++ m :: after → (∀ f, m ≠ .others f) →
    ∀ session token, (w.first.through before).timers.registered? session = none →
      (w.first.through (before ++ [m])).timers.registered? session = some token →
      ∃ i ∈ t.covered, m = .dispatched i .countdown ∧ i.sessionId = session ∧ session ≠ ""
  /-- No worker is lost. -/
  kept : ∀ before m after, w.course = before ++ m :: after → (∀ f, m ≠ .others f) →
    ∀ session token, (w.first.through before).timers.registered? session = some token →
      (w.first.through (before ++ [m])).timers.registered? session = some token

section

variable {s : Service} {others : List (Service → Service)} {m : Moment}

/-- What the dispatcher itself does to the register: it launches what is free, and no more. -/
theorem registered?_act (stands : Stands t tasks s) (expected : m.IsExpected others)
    (own : ∀ f, m ≠ .others f) (session : String) :
    (m.act s).timers.registered? session = s.timers.registered? session ∨
      ∃ i, m = .dispatched i .countdown ∧ i.sessionId = session ∧ session ≠ "" ∧
        s.timers.registered? session = none := by
  cases expected with
  | others => exact absurd rfl (own _)
  | called call => exact .inl (by rw [Moment.act, (call s t stands.tables).2.1])
  | dispatched i task =>
      obtain ⟨gains, -⟩ | ⟨-, same, -⟩ :=
        (s.isDispatch_dispatch i task).register stands.isOpen session
      · obtain rfl := List.mem_singleton.mp gains.counts
        exact .inr ⟨i, rfl, gains.own, gains.attached, gains.absent⟩
      · exact .inl same

/-- A countdown that is started for an instance finds a worker of its session, or launches one. -/
theorem registered?_countdown (stands : Stands t tasks s) {i : Instance}
    (attached : i.sessionId ≠ "") :
    let s' := (s.dispatch i .countdown).timers
    (∃ token, s.timers.registered? i.sessionId = some token ∧
      s'.registered? i.sessionId = some token) ∨
    s.timers.registered? i.sessionId = none ∧ ∃ token, s'.registered? i.sessionId = some token ∧
      s'.workers[i.sessionId]? = some ⟨token, .fresh⟩ := by
  obtain ⟨gains, gained⟩ | ⟨rests, same, -⟩ :=
    (s.isDispatch_dispatch i .countdown).register stands.isOpen i.sessionId
  · exact .inr ⟨gains.absent, gained⟩
  · cases found : s.timers.registered? i.sessionId with
    | some token => exact .inl ⟨token, rfl, same.trans found⟩
    | none => exact absurd ⟨List.mem_singleton_self _, rfl, attached, found⟩ rests

end

/-- **What the course of a scan comes to.** -/
theorem covers_of_goes {s : Service} {others : List (Service → Service)} {is : List Instance}
    (own : UnderOwn Session.id t.sessions) (stands : Stands t tasks s)
    (spare : ∀ f ∈ others, Spares t tasks f) (all : is.Perm t.covered)
    (goes : Goes ⟨s, [], others⟩ w (is.flatMap fun i => tasks.map (i, ·))) :
    Covers t tasks w := by
  obtain ⟨ms, course, expected, ran⟩ := goes.course
  obtain rfl : ms = w.course := course.symm
  -- At every moment of the course the store, the tasks and the open roster are still there.
  have throughout : ∀ before m after, w.course = before ++ m :: after →
      Stands t tasks (w.first.through before) ∧ m.IsExpected others := by
    intro before m after split
    rw [split] at expected
    rw [goes.first]
    refine ⟨stands.through spare fun m here => expected m (List.mem_append_left _ here), ?_⟩
    exact expected m (List.mem_append_right _ List.mem_cons_self)
  have scheduled : ∀ i task, (i, task) ∈ Moment.ran w.course ↔ i ∈ t.covered ∧ task ∈ tasks := by
    intro i task
    rw [ran, List.mem_flatMap, ← all.mem_iff]
    simp
  refine ⟨⟨is, all, ran⟩, ?_, ?_, ?_, ?_, ?_⟩
  · intro session task
    constructor
    · rintro ⟨i, here, rfl⟩
      obtain ⟨covered, task⟩ := (scheduled i task).mp here
      obtain ⟨stored, session⟩ := (Tables.mem_covered own).mp covered
      exact ⟨task, session, i, stored, rfl⟩
    · rintro ⟨task, session, i, stored, rfl⟩
      exact ⟨i, (scheduled i _).mpr ⟨(Tables.mem_covered own).mpr ⟨stored, session⟩, task⟩, rfl⟩
  · intro before i task after _
    rw [through_concat]
    exact isDispatch_dispatch _ i task
  · intro before i after split attached
    rw [through_concat]
    exact registered?_countdown (throughout before _ after split).1 attached
  · intro before m after split own session token absent found
    obtain ⟨stands, expected⟩ := throughout before m after split
    rw [through_concat] at found
    obtain same | ⟨i, rfl, rfl, attached, -⟩ := registered?_act stands expected own session
    · exact nomatch (same.symm.trans found).symm.trans absent
    · have here : (i, .countdown) ∈ Moment.ran w.course := by
        rw [Moment.mem_ran, split]
        exact List.mem_append_right _ List.mem_cons_self
      exact ⟨i, ((scheduled i _).mp here).1, rfl, rfl, attached⟩
  · intro before m after split own session token found
    obtain ⟨stands, expected⟩ := throughout before m after split
    rw [through_concat]
    obtain same | ⟨i, rfl, rfl, -, absent⟩ := registered?_act stands expected own session
    · exact same.trans found
    · exact nomatch found.symm.trans absent

end Scan

/-- **The scan at the start covers every instance.** Take any records in memory, any workers, any
tasks that fail or not, any order of the sessions, and any others that leave the store, the tasks
and the open roster as they are while the scan goes on. The scan counts the instances of the stored
sessions, and runs every task once for each of them and for no other. A session with an id that it
reaches has a worker then or is given one, and no other session is given a worker. With nobody else
about this is what the service does at its start. -/
theorem startup_scan_covers_every_instance (s : Service) (ops : List AnyOperation)
    (order : List Session → List Session) (others : List (Service → Service))
    (tables : s.HasTables (Tables.after ops)) (isOpen : s.timers.staff.roster.isClosed = false)
    (same : ∀ xs, (order xs).Perm xs)
    (spare : ∀ f ∈ others, Spares (Tables.after ops) s.tasks f) :
    (Scan.run order s others).1 = .ok (Tables.after ops).covered.length ∧
      (Scan.run order s others).2.Covers (Tables.after ops) s.tasks ∧
      (Scan.run order s others).2.first = s ∧
      (Scan.run id s []).1 = s.scheduleExisting.1 ∧
      (Scan.run id s []).2.service = s.scheduleExisting.2 := by
  have own := Tables.underOwn_after ops
  have stands : Stands (Tables.after ops) s.tasks s := ⟨tables, rfl, isOpen⟩
  have all := Tables.flatMap_instancesOf_perm own (same (Tables.after ops).sessions.values)
  obtain ⟨counted, goes⟩ := Scan.goes_run order stands spare
  obtain ⟨result, service⟩ := Scan.run_alone s
  refine ⟨?_, Scan.covers_of_goes own stands spare all goes, goes.first, result, service⟩
  rw [counted, all.length_eq]

/-- Two sessions with three instances, the sessions in reverse, and two tasks, the first of which
fails, while the worker of one session takes its turns. -/
theorem startup_scan_covers_every_instance_sample :
    let s := start (.standing .epoch) none [.noteAndFail "f", .countdown]
      (.memory (Tables.after sampleRun))
    let others : List (Service → Service) := [id, (·.workerTurn "t"), (·.workerTurn "t")]
    (Tables.after sampleRun).sessions.values.length = 2 ∧
      (Tables.after sampleRun).covered.length = 3 ∧
      (Scan.run List.reverse s others).1 = .ok 3 ∧
      (Scan.run List.reverse s others).2.Covers (Tables.after sampleRun) s.tasks := by
  intro s others
  have three : (Tables.after sampleRun).covered.length = 3 := by
    decide +kernel
  -- The others do nothing at first, and then a worker has two turns while the scan goes on.
  have spare : ∀ f ∈ others, Spares (Tables.after sampleRun) s.tasks f := by
    intro f here
    rcases List.mem_cons.mp here with rfl | here
    · exact fun _ stands => stands
    · rcases List.mem_cons.mp here with rfl | here
      · exact spares_workerTurn "t"
      · rw [List.mem_singleton.mp here]
        exact spares_workerTurn "t"
  obtain ⟨counted, covers, -⟩ := startup_scan_covers_every_instance s sampleRun List.reverse
    others ⟨rfl, rfl⟩ rfl List.reverse_perm spare
  rw [three] at counted
  exact ⟨by decide +kernel, three, counted, covers⟩

end Service

end Playgrounds
