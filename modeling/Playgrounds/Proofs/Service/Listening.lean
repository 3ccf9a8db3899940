import Playgrounds.Proofs.Bus.Closing
import Playgrounds.Proofs.Service.Dispatches

/-!
# A listener at work

A listener takes one announcement after the other, loads the instance that it names, and schedules
it. Between any two steps of its own anything else may happen in the service, as long as nobody
shuts it down.

* `Load`, `Turn` — what a bystander has seen of one step of a listener.
* `turnOf`, `TakesTurn` — the step that the service takes, and the four ways in which it goes.
* `IsRunning` — no shutdown, and no breakdown of the store is planned.
* `Occasion`, `Hearing`, `Hearing.run` — the service, a listener of it, and how both go on.
* `Hearing.PermitsAll` — what the others may do meanwhile.
* `Hearing.listenerSteps_eq_run` — the steps that the service takes are these.
-/

namespace Playgrounds

open Store

/-- The instance that an announcement names: its first argument. -/
def EventDelivery.name? : EventDelivery → Option String
  | .event e => e.args.head?
  | .unreadable _ | .lagged _ | .nothing | .closed => none

/-- The dispatcher loads what an announcement names, passes over what names nothing, and stops when
the bus is closed. -/
theorem Reaction.of_eq (d : EventDelivery) : Reaction.of d = match d.name? with
    | some name => .load name
    | none => if d = .closed then .stop else .ignore := by
  cases d with
  | event e => cases args : e.args <;> simp [of, EventDelivery.name?, args]
  | unreadable | lagged | nothing | closed => rfl

namespace Service

/-! ## One step -/

/-- A load that the store has answered. -/
structure Load where
  name : String
  found : Outcome Instance
  /-- The service when the answer is there. -/
  service : Service

/-- A step of a listener: the service before and after, what it has taken from the bus, and the load
that has come to an end. -/
structure Turn where
  before : Service
  heard? : Option EventDelivery
  load? : Option Load
  after : Service

/-- The load of an instance that the store answers at once. -/
def answered? (s : Service) (name : String) : Option Load :=
  match s.begin (.instanceGet name) with
  | (.answered found, s) => some ⟨name, found, s⟩
  | _ => none

/-- The next step of a listener. -/
def turnOf (s : Service) (id : Nat) (l : Listener) : Turn :=
  match l.loading with
  | some loading =>
    let (found, ready) := s.perform (.instanceGet loading.name)
    ⟨s, none, some ⟨loading.name, found, ready.setLoading id l none⟩, s.listenerStep id l⟩
  | none =>
    let (delivery, bus) := s.bus.receiveEvent l.subscription
    ⟨s, some delivery, delivery.name?.bind { s with bus }.answered?, s.listenerStep id l⟩

/-- No breakdown of the store is planned for the load of an instance. -/
def IsUnbroken (p : FaultPlan) : Prop :=
  ∀ key fault, (("instance_get", key), fault) ∈ p.waiting → fault ≠ .breakDown

/-- Nobody has shut down the dispatcher or the workers, and the store does not break down. -/
structure IsRunning (s : Service) : Prop where
  isOpen : s.timers.staff.roster.isClosed = false
  goesOn : s.timers.staff.cancellations.covers .dispatcher = false
  unbroken : IsUnbroken s.faults

/-! ### What the store does to the rest -/

section

variable {α : Type} (s : Service) (op : Operation α)

/-- A call takes a fault, too, and may be counted. -/
theorem begin_frame : ∃ store reports sessionReads, (s.begin op).2
    = { s with store, faults := (s.faults.begin op).2, reports, sessionReads } := by
  have counted : s.countRead op = { s with sessionReads := (s.countRead op).sessionReads } := by
    cases op <;> rfl
  rw [begin, counted]
  rcases s.faults.begin op with ⟨_ | call, faults⟩
  · obtain ⟨reports, same⟩ := perform_frame
      { s with faults, sessionReads := (s.countRead op).sessionReads } op
    exact ⟨_, reports, _, same⟩
  · exact ⟨s.store, s.reports, _, rfl⟩

end

section

variable {p : FaultPlan} (unbroken : IsUnbroken p)

include unbroken

/-- A plan that breaks nothing down goes on to break nothing down. -/
theorem isUnbroken_take (name key : String) : IsUnbroken (p.take name key).2 ∧
    (name = "instance_get" → (p.take name key).1 ≠ .breakDown) := by
  rw [FaultPlan.take]
  split
  next waits fault found =>
      refine ⟨fun key' fault' here => unbroken key' fault' (List.mem_of_mem_eraseP here), ?_⟩
      rintro rfl
      have for' := List.find?_some found
      obtain rfl : waits = ("instance_get", key) := by simpa using for'
      exact unbroken key fault (List.mem_of_find?_eq_some found)
  next => exact ⟨unbroken, fun _ => nofun⟩

/-- Under such a plan a load may be slow, or never end, but it does not break down. -/
theorem isUnbroken_begin (name : String) : IsUnbroken (p.begin (.instanceGet name)).2 ∧
    (p.begin (.instanceGet name)).1 ≠ some .brokenDown := by
  obtain ⟨later, kind⟩ := isUnbroken_take unbroken "instance_get" name
  have kind := kind rfl
  rw [FaultPlan.begin]
  split
  next => exact ⟨unbroken, nofun⟩
  next =>
      simp only [Operation.name, Operation.key]
      generalize p.take "instance_get" name = taken at later kind
      obtain ⟨fault, p'⟩ := taken
      refine ⟨later, ?_⟩
      cases fault with
      | breakDown => exact absurd rfl kind
      | none | fail | unreadable | missing | silence | delay => exact nofun

/-- While no breakdown is planned, the load of an instance does not break down. -/
theorem begin_ne_brokenDown {s : Service} (plan : s.faults = p) (name : String) :
    (s.begin (.instanceGet name)).1 ≠ .brokenDown := by
  subst plan
  obtain ⟨-, kind⟩ := isUnbroken_begin unbroken name
  rw [begin, show s.countRead (.instanceGet name) = s from rfl]
  rcases plan : s.faults.begin (.instanceGet name) with ⟨_ | call, faults⟩
  · intro same
    cases same
  · rw [plan] at kind
    exact fun same => kind (congrArg some same)

end

/-- The store has been asked for an instance, and nothing else was done. -/
structure HasAsked (s s' : Service) : Prop where
  timers : s'.timers = s.timers
  runs : s'.runs = s.runs
  tasks : s'.tasks = s.tasks
  bus : s'.bus = s.bus
  listeners : s'.listeners = s.listeners
  running : s.IsRunning → s'.IsRunning

/-- To ask the store at once changes the store and the faults, and nothing else. -/
theorem hasAsked_perform (s : Service) (name : String) :
    HasAsked s (s.perform (.instanceGet name)).2 := by
  obtain ⟨reports, frame⟩ := s.perform_frame (.instanceGet name)
  rw [frame]
  exact ⟨rfl, rfl, rfl, rfl, rfl, fun running => ⟨running.isOpen, running.goesOn, running.unbroken⟩⟩

/-- To begin a load changes the store and the faults, and nothing else. -/
theorem hasAsked_begin (s : Service) (name : String) :
    HasAsked s (s.begin (.instanceGet name)).2 := by
  obtain ⟨store, reports, reads, frame⟩ := s.begin_frame (.instanceGet name)
  rw [frame]
  refine ⟨rfl, rfl, rfl, rfl, rfl, fun running => ⟨running.isOpen, running.goesOn, ?_⟩⟩
  exact (isUnbroken_begin running.unbroken name).1

/-- What the store answers does not hang on the bus. -/
theorem begin_withBus (s : Service) (bus : Bus) (name : String) :
    (({ s with bus } : Service).begin (.instanceGet name)).1
      = (s.begin (.instanceGet name)).1 := by
  rw [begin, begin, show ({ s with bus } : Service).countRead (.instanceGet name)
    = { s with bus } from rfl, show s.countRead (.instanceGet name) = s from rfl]
  dsimp only
  rcases s.faults.begin (.instanceGet name) with ⟨_ | call, faults⟩ <;> rfl

/-! ### The four ways -/

/-- How a listener takes its next step. -/
inductive TakesTurn (s : Service) (id : Nat) (l : Listener) : Turn → Prop where
  /-- The load that it waits for has come to an end. -/
  | ends {loading : Loading} {ready : Service} (waiting : l.loading = some loading)
    (asked : HasAsked s ready) :
    TakesTurn s id l ⟨s, none,
      some ⟨loading.name, (s.perform (.instanceGet loading.name)).1, ready.setLoading id l none⟩,
      (ready.setLoading id l none).loaded (s.perform (.instanceGet loading.name)).1⟩
  /-- What it takes from the bus names nothing. -/
  | ignores {d : EventDelivery} {bus : Bus} (waiting : l.loading = none)
    (received : s.bus.receiveEvent l.subscription = (d, bus)) (named : d.name? = none) :
    TakesTurn s id l ⟨s, some d, none, { s with bus }⟩
  /-- The instance that is announced is loaded at once. -/
  | loads {d : EventDelivery} {bus : Bus} {name : String} {found : Outcome Instance}
    {ready : Service} (waiting : l.loading = none)
    (received : s.bus.receiveEvent l.subscription = (d, bus)) (named : d.name? = some name)
    (answered : (s.begin (.instanceGet name)).1 = .answered found)
    (asked : HasAsked { s with bus } ready) :
    TakesTurn s id l ⟨s, some d, some ⟨name, found, ready⟩, ready.loaded found⟩
  /-- The store does not answer at once. -/
  | waits {d : EventDelivery} {bus : Bus} {loading : Loading} {ready : Service}
    (waiting : l.loading = none) (received : s.bus.receiveEvent l.subscription = (d, bus))
    (named : d.name? = some loading.name) (asked : HasAsked { s with bus } ready) :
    TakesTurn s id l ⟨s, some d, none, ready.setLoading id l (some loading)⟩

/-- **Every step of a listener is one of these**, as long as the bus is open and nobody shuts
down. -/
theorem takesTurn_turnOf {s : Service} {id : Nat} {l : Listener} (running : s.IsRunning)
    (ready : s.listenerIsReady l = true)
    (isOpen : (s.bus.receiveEvent l.subscription).1 ≠ .closed) :
    TakesTurn s id l (turnOf s id l) := by
  rw [turnOf, listenerStep]
  rw [listenerIsReady] at ready
  cases waiting : l.loading with
  | some loading =>
      rw [waiting] at ready
      dsimp only at ready ⊢
      rw [if_pos ready]
      exact .ends waiting (hasAsked_perform s loading.name)
  | none =>
      dsimp only
      rw [running.goesOn, if_neg Bool.false_ne_true]
      rcases received : s.bus.receiveEvent l.subscription with ⟨d, bus⟩
      rw [received] at isOpen
      dsimp only at isOpen ⊢
      rw [Reaction.of_eq]
      cases named : d.name? with
      | none =>
          rw [if_neg isOpen]
          exact .ignores waiting received named
      | some name =>
          have unbroken := begin_ne_brokenDown running.unbroken (s := { s with bus }) rfl name
          have answered := begin_withBus s bus name
          have asked := hasAsked_begin { s with bus } name
          rw [Option.bind_some, answered?]
          dsimp only
          rw [load]
          -- The load is answered at once, or it takes a while, or it never ends.
          rcases begun : ({ s with bus } : Service).begin (.instanceGet name) with
            ⟨found | ms | _ | _, ready⟩
          all_goals rw [begun] at answered asked unbroken
          · exact .loads waiting received named answered.symm asked
          · exact .waits waiting received named asked
          · exact .waits waiting received named asked
          · exact absurd rfl unbroken

/-! ## The listener and the others -/

/-- What may happen while a listener is at work. -/
inductive Occasion where
  /-- The others go on, and do this to the bus. -/
  | others (f : Service → Service) (deeds : List Bus.Deed)
  /-- The listener may take a step. -/
  | turn

/-- The service, and what a bystander has seen of one of its listeners. -/
structure Hearing where
  service : Service
  /-- The number of the listener, and its subscription. -/
  id : Nat
  subscription : SubscriptionId
  /-- The bus when the subscription had just begun, and what has been done to it since. -/
  first : Bus
  deeds : List Bus.Deed
  /-- The steps that the listener has taken, the oldest first. -/
  turns : List Turn

/-- What a step does to the bus. -/
def Turn.deeds (t : Turn) (subscription : SubscriptionId) : List Bus.Deed :=
  match t.heard? with
  | some _ => [.receive subscription]
  | none => []

namespace Hearing

/-- The topic on which instances are announced. -/
abbrev topic : String := EventKind.instanceNew.topic

/-- A service that has just begun to listen. -/
def start (s : Service) : Hearing :=
  ⟨s.listen, s.nextId, s.bus.nextId, s.listen.bus, [], []⟩

/-- What the listener has taken from the bus. -/
def heard (w : Hearing) : List EventDelivery :=
  w.turns.filterMap (·.heard?)

/-- The loads that have come to an end. -/
def loads (w : Hearing) : List Load :=
  w.turns.filterMap (·.load?)

/-- The listener takes a step. -/
def take (w : Hearing) (t : Turn) : Hearing :=
  { w with
    service := t.after
    deeds := w.deeds ++ t.deeds w.subscription
    turns := w.turns ++ [t] }

/-- What comes of an occasion. -/
def step (w : Hearing) : Occasion → Hearing
  | .others f deeds => { w with service := f w.service, deeds := w.deeds ++ deeds }
  | .turn =>
    match w.service.listeners[w.id]? with
    | some l => if w.service.listenerIsReady l then w.take (turnOf w.service w.id l) else w
    | none => w

/-- What comes of some occasions. -/
def run (w : Hearing) (os : List Occasion) : Hearing :=
  os.foldl step w

/-- The others may do this: they neither touch the listener nor its subscription, they say truly
what they do to the bus, and nobody shuts down. Else they may do anything, to the store, to the
workers and to the clock. -/
structure Leaves (w : Hearing) (s : Service) (deeds : List Bus.Deed) : Prop where
  bus : s.bus = deeds.foldl Bus.step w.service.bus
  own : ∀ d ∈ deeds, d ≠ .receive w.subscription ∧ d ≠ .unsubscribe w.subscription
  listener : s.listeners[w.id]? = w.service.listeners[w.id]?
  tasks : s.tasks = w.service.tasks
  running : s.IsRunning

/-- Whether this may happen. -/
def Permits (w : Hearing) : Occasion → Prop
  | .others f deeds => w.Leaves (f w.service) deeds
  | .turn => True

/-- Whether all this may happen, one thing after the other. -/
def PermitsAll (w : Hearing) : List Occasion → Prop
  | [] => True
  | o :: os => w.Permits o ∧ (w.step o).PermitsAll os

/-- The listener was never further behind than a channel keeps. -/
def IsNear (w : Hearing) : Prop :=
  ∀ n, ((w.deeds.take n).foldl Bus.step w.first).pending w.subscription ≤ Channel.capacity

theorem heard_take (w : Hearing) (t : Turn) : (w.take t).heard = w.heard ++ t.heard?.toList := by
  rw [heard, take, List.filterMap_append, heard]
  cases heard : t.heard? <;> simp [heard]

theorem loads_take (w : Hearing) (t : Turn) : (w.take t).loads = w.loads ++ t.load?.toList := by
  rw [loads, take, List.filterMap_append, loads]
  cases load : t.load? <;> simp [load]

/-- The listener keeps its number, whatever happens. -/
theorem id_step (w : Hearing) (o : Occasion) : (w.step o).id = w.id := by
  cases o with
  | others => rfl
  | turn =>
      rw [step]
      split
      next => split <;> rfl
      next => rfl

/-- What a turn leaves behind is what the service's own step leaves behind. -/
theorem after_turnOf (s : Service) (id : Nat) (l : Listener) :
    (turnOf s id l).after = s.listenerStep id l := by
  rw [turnOf]
  split <;> rfl

/-- A listener that has nothing to do takes no step. -/
theorem run_turns_of_rest {w : Hearing} (rests : w.step .turn = w) (fuel : Nat) :
    w.run (List.replicate fuel .turn) = w := by
  induction fuel with
  | zero => rfl
  | succ fuel ih =>
      rw [List.replicate_succ, run, List.foldl_cons, rests]
      exact ih

/-- **The service takes no other steps.** -/
theorem listenerSteps_eq_run (w : Hearing) (fuel : Nat) :
    w.service.listenerSteps w.id fuel = (w.run (List.replicate fuel .turn)).service := by
  induction fuel generalizing w with
  | zero => rfl
  | succ fuel ih =>
      have goesOn := ih (w.step .turn)
      rw [id_step] at goesOn
      rw [List.replicate_succ, listenerSteps]
      show _ = ((w.step .turn).run (List.replicate fuel .turn)).service
      cases there : w.service.listeners[w.id]? with
      | none =>
          have rests : w.step .turn = w := by simp only [step, there]
          rw [rests, run_turns_of_rest rests]
      | some l =>
          dsimp only
          split
          next ready =>
              rw [← goesOn]
              simp only [step, there, ready, if_true, take, after_turnOf]
          -- A listener that is not ready is left as it is, now and for all turns that are left.
          next other =>
              have rests : w.step .turn = w := by simp only [step, there, if_neg other]
              rw [rests, run_turns_of_rest rests]

end Hearing

end Service

end Playgrounds
