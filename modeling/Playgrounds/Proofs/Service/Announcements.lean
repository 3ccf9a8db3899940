import Playgrounds.Proofs.Service.Listening
import Playgrounds.Proofs.Store.Simulation

/-!
# Every announcement is handled

A listener takes the announcements in the order in which they are made, and each instance that is
announced is scheduled once if it can be loaded then. What is no announcement, or names no instance
that can be loaded, is passed over, and the listener goes on.

* `Turn.IsExact`, `TakesTurn.isExact` — what one step does to the workers and the notes.
* `Hearing.Keeps` — the invariant: what was heard is what the bus gave, and the loads follow it.
* `Hearing.Keeps.step`, `Hearing.Keeps.run` — one occasion keeps it, and so do all.
* `Hearing.Keeps.exists_rest` — the listener comes to rest.
* `every_announcement_is_handled` — what a listener does, whatever happens meanwhile.
-/

namespace Playgrounds

open Store

namespace Service

/-! ## What one step does -/

/-- A session is given a worker by a step: an instance of it has been loaded, and it is free. -/
def Turn.Gains (t : Turn) (session : String) : Prop :=
  ∃ load i, t.load? = some load ∧ load.found = .ok i ∧ t.before.Gains i t.before.tasks session

/-- What a step does. -/
structure Turn.IsExact (t : Turn) : Prop where
  /-- A load comes to what the store has at that moment, when it is asked or when it answers. -/
  answered : ∀ load, t.load? = some load →
    if t.heard?.isSome then (t.before.begin (.instanceGet load.name)).1 = .answered load.found
    else (t.before.perform (.instanceGet load.name)).1 = load.found
  /-- The instance that was loaded is scheduled: every task is run for it once. -/
  scheduled : ∀ load i, t.load? = some load → load.found = .ok i →
    load.service.timers = t.before.timers ∧ load.service.runs = t.before.runs ∧
      Dispatched i load.service t.before.tasks t.after
  /-- Where none was loaded no task is run. -/
  otherwise : (∀ load i, t.load? = some load → load.found ≠ .ok i) →
    t.after.timers = t.before.timers ∧ t.after.runs = t.before.runs
  /-- The sessions that are to be given a worker are given one, and no other worker is touched. -/
  workers : ∀ session, (t.Gains session ∧ t.after.HasGained session) ∨
    (¬t.Gains session ∧ HasKept t.before t.after session)

section

variable {s : Service} {heard? : Option EventDelivery}

/-- A turn that loads nothing starts no worker and does no task. -/
theorem isExact_of_none {s' : Service} (timers : s'.timers = s.timers) (runs : s'.runs = s.runs) :
    Turn.IsExact ⟨s, heard?, none, s'⟩ where
  answered := fun _ same => nomatch same
  scheduled := fun _ _ same => nomatch same
  otherwise := fun _ => ⟨timers, runs⟩
  workers := by
    intro session
    refine .inr ⟨fun ⟨_, _, loaded, _⟩ => (nomatch loaded), ?_⟩
    show _ ∧ _
    rw [timers]
    exact ⟨rfl, rfl⟩

/-- What a load comes to is all that the rest of a step hangs on. -/
theorem isExact_of_load {load : Load} (isOpen : s.timers.staff.roster.isClosed = false)
    (timers : load.service.timers = s.timers) (runs : load.service.runs = s.runs)
    (tasks : load.service.tasks = s.tasks)
    (answered : if heard?.isSome then (s.begin (.instanceGet load.name)).1 = .answered load.found
      else (s.perform (.instanceGet load.name)).1 = load.found) :
    Turn.IsExact ⟨s, heard?, some load, load.service.loaded load.found⟩ := by
  obtain ⟨name, found, ready⟩ := load
  cases found with
  | error f =>
      refine ⟨fun load same => Option.some.inj same ▸ answered, ?_, fun _ => ⟨timers, runs⟩, ?_⟩
      · rintro load i same loaded
        obtain rfl := Option.some.inj same
        exact nomatch loaded
      · intro session
        refine .inr ⟨?_, ?_⟩
        · rintro ⟨load, i, same, loaded, -⟩
          obtain rfl := Option.some.inj same
          exact nomatch loaded
        · show _ ∧ _
          dsimp only at timers
          rw [loaded, timers]
          exact ⟨rfl, rfl⟩
  | ok i =>
      have dispatched := dispatched_schedule ready i
      dsimp only at timers tasks
      rw [tasks] at dispatched
      refine ⟨fun load same => Option.some.inj same ▸ answered, ?_, ?_, ?_⟩
      · rintro load i' same loaded
        obtain rfl := Option.some.inj same
        cases loaded
        exact ⟨timers, runs, dispatched⟩
      · intro none
        exact absurd rfl (none _ i rfl)
      · intro session
        have register := dispatched.register (timers ▸ isOpen) session
        rw [HasKept, timers] at register
        -- A worker is there afterwards for whichever session has gained one, and for the others as
        -- before.
        obtain ⟨gains, gained⟩ | ⟨rests, kept⟩ := register
        · exact .inl ⟨⟨_, i, rfl, rfl, gains.counts, gains.own, gains.attached,
            timers ▸ gains.absent⟩, gained⟩
        · refine .inr ⟨?_, kept⟩
          rintro ⟨load, i', same, loaded, gains⟩
          obtain rfl := Option.some.inj same
          cases loaded
          exact rests ⟨gains.counts, gains.own, gains.attached, timers ▸ gains.absent⟩

/-- **What a step of a listener does.** -/
theorem TakesTurn.isExact {id : Nat} {l : Listener} {t : Turn} (turn : TakesTurn s id l t)
    (isOpen : s.timers.staff.roster.isClosed = false) : t.IsExact := by
  cases turn with
  | ends _ asked => exact isExact_of_load isOpen asked.timers asked.runs asked.tasks rfl
  | ignores => exact isExact_of_none rfl rfl
  | loads _ _ _ answered asked =>
      exact isExact_of_load isOpen asked.timers asked.runs asked.tasks answered
  | waits _ _ _ asked => exact isExact_of_none asked.timers asked.runs

end

/-! ## What stays so -/

section

variable {s : Service}

/-- What is done about a load touches the timers, the notes and the log. -/
theorem loaded_frame (s : Service) (found : Outcome Instance) : s.loaded found
    = { s with
        timers := (s.loaded found).timers
        runs := (s.loaded found).runs
        reports := (s.loaded found).reports } := by
  cases found with
  | error f => rfl
  | ok i => exact (dispatched_schedule s i).frame

theorem IsRunning.withBus (running : s.IsRunning) (bus : Bus) : IsRunning { s with bus } :=
  ⟨running.isOpen, running.goesOn, running.unbroken⟩

theorem IsRunning.setLoading (running : s.IsRunning) (id : Nat) (l : Listener)
    (loading : Option Loading) : (s.setLoading id l loading).IsRunning :=
  ⟨running.isOpen, running.goesOn, running.unbroken⟩

/-- What is done with an instance that was loaded keeps the service running. -/
theorem IsRunning.loaded (running : s.IsRunning) (found : Outcome Instance) :
    (s.loaded found).IsRunning := by
  cases found with
  | error f => exact running
  | ok i =>
      have dispatched := dispatched_schedule s i
      refine ⟨dispatched.isClosed.trans running.isOpen, ?_, ?_⟩
      · have goesOn : decide (.dispatcher ∈ s.timers.staff.cancellations.cancelled) = false :=
          running.goesOn
        rw [← dispatched.cancelled] at goesOn
        exact goesOn
      · rw [loaded_frame]
        exact running.unbroken

variable {id : Nat} {l : Listener} {t : Turn}

/-- A turn of the listener keeps the service running. -/
theorem TakesTurn.running (turn : TakesTurn s id l t) (running : s.IsRunning) :
    t.after.IsRunning := by
  cases turn with
  | ends _ asked => exact ((asked.running running).setLoading ..).loaded _
  | ignores => exact running.withBus _
  | loads _ _ _ _ asked => exact (asked.running (running.withBus _)).loaded _
  | waits _ _ _ asked => exact (asked.running (running.withBus _)).setLoading ..

/-- What a step takes from the bus is what the bus delivers, and it waits for nothing else then. -/
theorem TakesTurn.heard (turn : TakesTurn s id l t) {d : EventDelivery}
    (taken : t.heard? = some d) :
    l.loading = none ∧ d = (s.bus.receiveEvent l.subscription).1 := by
  cases turn with
  | ends => exact nomatch taken
  | ignores waiting received | loads waiting received | waits waiting received =>
      obtain rfl := Option.some.inj taken
      exact ⟨waiting, (congrArg Prod.fst received).symm⟩

/-- To take it is all that a step does to the bus. -/
theorem TakesTurn.bus (turn : TakesTurn s id l t) :
    t.after.bus = (t.deeds l.subscription).foldl Bus.step s.bus := by
  cases turn with
  | ends _ asked => exact (congrArg Service.bus (loaded_frame _ _)).trans asked.bus
  | ignores _ received => exact (congrArg Prod.snd received).symm
  | loads _ received _ _ asked =>
      exact ((congrArg Service.bus (loaded_frame _ _)).trans asked.bus).trans
        (congrArg Prod.snd received).symm
  | waits _ received _ asked => exact asked.bus.trans (congrArg Prod.snd received).symm

/-- The listener is there after a step. What it was loading and what it has heard of are what it has
loaded by the step, and what it is loading then. -/
theorem TakesTurn.listener (turn : TakesTurn s id l t) (there : s.listeners[id]? = some l) :
    ∃ loading, t.after.listeners[id]? = some ⟨l.subscription, loading⟩ ∧
      (l.loading.map (·.name)).toList ++ t.heard?.toList.filterMap (·.name?)
        = t.load?.toList.map (·.name) ++ (loading.map (·.name)).toList ∧
      (t.heard? = none → l.loading.isSome ∧ loading = none) := by
  cases turn with
  -- The load that was waited for ends; the listener is free again.
  | ends waiting asked =>
      refine ⟨none, ?_, by simp [waiting], fun _ => ⟨by rw [waiting]; rfl, rfl⟩⟩
      dsimp only
      rw [loaded_frame]
      exact Std.ExtTreeMap.getElem?_insert_self
  | ignores waiting _ named =>
      obtain ⟨subscription, loading⟩ := l
      exact ⟨loading, there, by simp_all, nofun⟩
  | loads waiting _ named _ asked =>
      refine ⟨none, ?_, by simp [waiting, named], nofun⟩
      obtain ⟨subscription, loading⟩ := l
      obtain rfl : loading = none := waiting
      dsimp only
      rw [loaded_frame]
      exact (congrArg (·[id]?) asked.listeners).trans there
  | @waits d bus loading ready waiting _ named asked =>
      exact ⟨some loading, Std.ExtTreeMap.getElem?_insert_self, by simp [waiting, named], nofun⟩

end

namespace Hearing

/-- The invariant of a listener. -/
structure Keeps (w : Hearing) : Prop where
  sound : w.first.Sound
  awaits : w.first.Awaits w.subscription topic []
  stays : .unsubscribe w.subscription ∉ w.deeds
  bus : w.service.bus = w.deeds.foldl Bus.step w.first
  running : w.service.IsRunning
  heard : w.heard = (Bus.received w.subscription w.first w.deeds).map Bus.readDelivery
  /-- It takes something whenever it takes its turn. -/
  attentive : .nothing ∉ w.heard
  /-- It is at work, and has loaded what it heard of, but for what it is just loading. -/
  listener : ∃ loading, w.service.listeners[w.id]? = some ⟨w.subscription, loading⟩ ∧
    w.heard.filterMap (·.name?) = w.loads.map (·.name) ++ (loading.map (·.name)).toList
  turns : ∀ t ∈ w.turns, t.IsExact

section

variable {w : Hearing}

/-- The listener's subscription stands, and what lies before it tells what it would receive. -/
theorem Keeps.exists_ahead (k : Keeps w) :
    ∃ ahead, w.service.bus.Awaits w.subscription topic ahead ∧ w.service.bus.isOpen = true := by
  rw [k.bus]
  exact ⟨_, (k.awaits.foldl k.sound k.stays).1, (k.sound.foldl _).isOpen⟩

/-- **The others** keep the invariant. -/
theorem Keeps.others (k : Keeps w) {f : Service → Service} {deeds : List Bus.Deed}
    (leaves : w.Leaves (f w.service) deeds) : Keeps (w.step (.others f deeds)) where
  sound := k.sound
  awaits := k.awaits
  stays := by
    intro here
    rcases List.mem_append.mp here with here | here
    · exact k.stays here
    · exact (leaves.own _ here).2 rfl
  bus := by
    show (f w.service).bus = (w.deeds ++ deeds).foldl Bus.step w.first
    rw [leaves.bus, k.bus, List.foldl_append]
  running := leaves.running
  -- What others do is nothing that this subscription receives.
  heard := by
    show w.heard = (Bus.received w.subscription w.first (w.deeds ++ deeds)).map Bus.readDelivery
    rw [Bus.received_append_others fun d here => (leaves.own d here).1, ← k.heard]
  attentive := k.attentive
  listener := by
    obtain ⟨loading, there, names⟩ := k.listener
    exact ⟨loading, leaves.listener.trans there, names⟩
  turns := k.turns

/-- A step keeps the invariant if the service is left so. -/
theorem Keeps.take (k : Keeps w) {t : Turn}
    (heard : ∀ d, t.heard? = some d →
      d = (w.service.bus.receiveEvent w.subscription).1 ∧ d ≠ .nothing)
    (bus : t.after.bus = (t.deeds w.subscription).foldl Bus.step w.service.bus)
    (running : t.after.IsRunning) (exact : t.IsExact)
    (listener : ∃ loading, t.after.listeners[w.id]? = some ⟨w.subscription, loading⟩ ∧
      (w.heard ++ t.heard?.toList).filterMap (·.name?)
        = (w.loads ++ t.load?.toList).map (·.name) ++ (loading.map (·.name)).toList) :
    Keeps (w.take t) where
  sound := k.sound
  awaits := k.awaits
  stays := by
    intro here
    rcases List.mem_append.mp here with here | here
    · exact k.stays here
    · rw [Turn.deeds] at here
      split at here
      · exact nomatch List.mem_singleton.mp here
      · exact List.not_mem_nil here
  bus := by
    show t.after.bus = (w.deeds ++ t.deeds w.subscription).foldl Bus.step w.first
    rw [bus, k.bus, List.foldl_append]
  running := running
  heard := by
    rw [heard_take, k.heard]
    show _ = (Bus.received w.subscription w.first (w.deeds ++ t.deeds w.subscription)).map _
    rw [Turn.deeds]
    -- A turn receives one thing at most, and that is the last of all that was heard.
    cases taken : t.heard? with
    | none => rw [List.append_nil, Option.toList_none, List.append_nil]
    | some d =>
        obtain ⟨rfl, -⟩ := heard d taken
        rw [Bus.received_concat, List.map_append, ← k.bus, Bus.received?, if_pos rfl]
        rfl
  attentive := by
    rw [heard_take, List.mem_append, not_or]
    refine ⟨k.attentive, fun here => ?_⟩
    exact (heard _ (Option.mem_toList.mp here)).2 rfl
  listener := by
    rw [heard_take, loads_take]
    exact listener
  turns := by
    intro t' here
    rcases List.mem_append.mp here with here | here
    · exact k.turns t' here
    · exact List.mem_singleton.mp here ▸ exact

/-- **A step of the listener** keeps the invariant, whichever way it goes. -/
theorem Keeps.takesTurn (k : Keeps w) {loading : Option Loading}
    (there : w.service.listeners[w.id]? = some ⟨w.subscription, loading⟩)
    (something : loading = none → (w.service.bus.receiveEvent w.subscription).1 ≠ .nothing)
    {t : Turn} (turn : TakesTurn w.service w.id ⟨w.subscription, loading⟩ t) :
    Keeps (w.take t) := by
  obtain ⟨loading', there', names⟩ := k.listener
  obtain rfl : loading' = loading :=
    congrArg Listener.loading (Option.some.inj (there'.symm.trans there))
  obtain ⟨later, there'', loads, -⟩ := turn.listener there
  refine k.take ?_ turn.bus (turn.running k.running) (turn.isExact k.running.isOpen)
    ⟨later, there'', ?_⟩
  · intro d taken
    obtain ⟨idle, rfl⟩ := turn.heard taken
    exact ⟨rfl, something idle⟩
  · dsimp only at loads
    rw [List.filterMap_append, names, List.append_assoc, loads, List.map_append, List.append_assoc]

/-- What the listener receives next is not that the bus is closed. -/
theorem Keeps.unclosed (k : Keeps w) :
    (w.service.bus.receiveEvent w.subscription).1 ≠ .closed := by
  obtain ⟨ahead, awaits, isOpen⟩ := k.exists_ahead
  rw [awaits.receiveEvent_fst isOpen]
  exact Received.eventDelivery_ne_closed _

/-- If it is ready and is loading nothing then it receives something, and less is pending. -/
theorem Keeps.delivers (k : Keeps w)
    (ready : w.service.listenerIsReady ⟨w.subscription, none⟩ = true) :
    (w.service.bus.receiveEvent w.subscription).1 ≠ .nothing ∧
      (w.service.bus.step (.receive w.subscription)).pending w.subscription
        < w.service.bus.pending w.subscription := by
  obtain ⟨ahead, awaits, isOpen⟩ := k.exists_ahead
  rw [awaits.receiveEvent_fst isOpen]
  have hears : w.service.bus.isReady w.subscription = true := by
    rw [listenerIsReady, k.running.goesOn] at ready
    exact ready
  have some := (awaits.isReady_iff isOpen).mp hears
  constructor
  · exact fun nothing => some
      (Received.eq_nil_of_next_eq_nothing (Received.eventDelivery_eq_nothing_iff.mp nothing))
  · rw [show w.service.bus.step (.receive w.subscription)
      = (w.service.bus.receive w.subscription).2 from rfl, awaits.receive_snd.pending_eq,
      awaits.pending_eq, List.length_drop]
    -- What lies before the subscription grows fewer, as every receipt deals with something.
    have headway := Received.count_next_pos some
    have few := List.length_pos_iff.mpr some
    omega

/-- What the listener does at its turn: nothing, or one of its steps. -/
theorem Keeps.turn_cases (k : Keeps w) {loading : Option Loading}
    (there : w.service.listeners[w.id]? = some ⟨w.subscription, loading⟩) :
    (w.service.listenerIsReady ⟨w.subscription, loading⟩ = false ∧ w.step .turn = w) ∨
      w.service.listenerIsReady ⟨w.subscription, loading⟩ = true ∧ ∃ t, w.step .turn = w.take t ∧
        TakesTurn w.service w.id ⟨w.subscription, loading⟩ t := by
  simp only [step, there]
  cases ready : w.service.listenerIsReady ⟨w.subscription, loading⟩ with
  | false => exact .inl ⟨rfl, rfl⟩
  | true =>
      exact .inr ⟨rfl, _, rfl, takesTurn_turnOf k.running ready k.unclosed⟩

/-- **A turn of the listener keeps the invariant.** -/
theorem Keeps.turn (k : Keeps w) : Keeps (w.step .turn) := by
  obtain ⟨loading, there, -⟩ := k.listener
  obtain ⟨-, rests⟩ | ⟨ready, t, taken, turn⟩ := k.turn_cases there
  · rw [rests]
    exact k
  · rw [taken]
    refine k.takesTurn there ?_ turn
    rintro rfl
    exact (k.delivers ready).1

/-- **Whatever happens** keeps the invariant. -/
theorem Keeps.step (k : Keeps w) {o : Occasion} (permitted : w.Permits o) : Keeps (w.step o) := by
  cases o with
  | others f deeds => exact k.others permitted
  | turn => exact k.turn

/-- **A run keeps the invariant.** -/
theorem Keeps.run (k : Keeps w) {os : List Occasion} (permitted : w.PermitsAll os) :
    Keeps (w.run os) := by
  induction os generalizing w with
  | nil => exact k
  | cons o rest ih => exact ih (k.step permitted.1) permitted.2

/-- The invariant holds from the moment at which the listener subscribes. -/
theorem keeps_start {s : Service} (running : s.IsRunning) (sound : s.bus.Sound) :
    Keeps (start s) where
  sound := sound.step (.subscribe topic)
  awaits := sound.awaits_subscribe topic
  stays := List.not_mem_nil
  bus := rfl
  running := ⟨running.isOpen, running.goesOn, running.unbroken⟩
  heard := rfl
  attentive := List.not_mem_nil
  listener := ⟨none, Std.ExtTreeMap.getElem?_insert_self, rfl⟩
  turns := fun _ here => absurd here List.not_mem_nil

/-! ## What it comes to -/

/-- **What was announced is heard in order**, each announcement once, and what was not heard yet is
pending. -/
theorem Keeps.inOrder (k : Keeps w) (near : w.IsNear) : ∃ taken ahead,
    Bus.postings topic w.deeds = taken ++ ahead ∧
      w.heard = taken.map (fun p => (Received.message p).eventDelivery) ∧
      ahead.length = w.service.bus.pending w.subscription := by
  obtain ⟨taken, ahead, split, awaiting, heard, accounts⟩ := k.awaits.exists_taken k.sound k.stays
  have kept := k.awaits.lagged_notMem k.sound k.stays near
  have heard := k.heard.trans heard
  -- Nothing was lost and the listener is never told of nothing, so every receipt is a message.
  have messages : ∀ r ∈ Bus.receipts w.subscription topic [] w.deeds, ∃ p, r = .message p := by
    intro r told
    cases r with
    | message p => exact ⟨p, rfl⟩
    | lagged count => exact absurd told (kept count)
    | nothing =>
        refine absurd ?_ k.attentive
        rw [heard]
        exact List.mem_map.mpr ⟨_, told, rfl⟩
  refine ⟨taken, ahead, split, ?_, ?_⟩
  · rw [heard, accounts.eq_map_message messages, List.map_map]
    rfl
  · rw [k.bus, awaiting.pending_eq]

/-- The listener waits for the store, or for the next announcement. -/
def IsAtRest (w : Hearing) : Prop :=
  (∃ loading, w.service.listeners[w.id]? = some ⟨w.subscription, some loading⟩ ∧
    loading.answerAt.any (· ≤ w.service.now) = false) ∨
  w.service.listeners[w.id]? = some ⟨w.subscription, none⟩ ∧
    w.service.bus.pending w.subscription = 0

/-- A listener that has nothing to do is at rest. -/
theorem Keeps.isAtRest (k : Keeps w) {loading : Option Loading}
    (there : w.service.listeners[w.id]? = some ⟨w.subscription, loading⟩)
    (other : w.service.listenerIsReady ⟨w.subscription, loading⟩ = false) : w.IsAtRest := by
  cases loading with
  | some loading => exact .inl ⟨loading, there, other⟩
  | none =>
      refine .inr ⟨there, ?_⟩
      obtain ⟨ahead, awaits, isOpen⟩ := k.exists_ahead
      have hears : w.service.bus.isReady w.subscription = false := by
        rw [listenerIsReady, k.running.goesOn] at other
        exact other
      rw [awaits.pending_eq, List.length_eq_zero_iff]
      by_contra some
      rw [(awaits.isReady_iff isOpen).mpr some] at hears
      exact Bool.noConfusion hears

/-- How much is left to do: each announcement may need two steps. -/
def left (w : Hearing) (loading : Option Loading) : Nat :=
  2 * w.service.bus.pending w.subscription + if loading.isSome then 1 else 0

/-- A step leaves less to do. -/
theorem Keeps.left_lt (k : Keeps w) {loading later : Option Loading} {t : Turn}
    (there : w.service.listeners[w.id]? = some ⟨w.subscription, loading⟩)
    (ready : w.service.listenerIsReady ⟨w.subscription, loading⟩ = true)
    (turn : TakesTurn w.service w.id ⟨w.subscription, loading⟩ t)
    (there' : t.after.listeners[w.id]? = some ⟨w.subscription, later⟩) :
    (w.take t).left later < w.left loading := by
  obtain ⟨later', there'', -, ends⟩ := turn.listener there
  obtain rfl : later' = later :=
    congrArg Listener.loading (Option.some.inj (there''.symm.trans there'))
  show 2 * t.after.bus.pending w.subscription + _ < _
  rw [left, turn.bus, Turn.deeds]
  -- A turn that hears nothing ends a load; one that hears something may begin one, for less than it
  -- takes off the bus.
  cases taken : t.heard? with
  | none =>
      obtain ⟨waited, rfl⟩ := ends taken
      simp only [waited]
      exact Nat.lt_succ_self _
  | some d =>
      obtain ⟨rfl, -⟩ := turn.heard taken
      obtain ⟨-, fewer⟩ := k.delivers ready
      have : (if later'.isSome = true then 1 else 0) ≤ 1 := by split <;> omega
      show 2 * (w.service.bus.step (.receive w.subscription)).pending w.subscription + _ < _
      omega

/-- **The listener comes to rest** when it has taken some steps. -/
theorem Keeps.exists_rest (k : Keeps w) :
    ∃ n, (w.run (List.replicate n .turn)).IsAtRest := by
  obtain ⟨loading, there, -⟩ := k.listener
  -- Each turn leaves less to do, so that some number of them is enough.
  suffices comes : ∀ bound (w : Hearing) loading, Keeps w →
      w.service.listeners[w.id]? = some ⟨w.subscription, loading⟩ → w.left loading < bound →
      ∃ n, (w.run (List.replicate n .turn)).IsAtRest from
    comes _ w loading k there (Nat.lt_succ_self _)
  intro bound
  induction bound with
  | zero => exact fun _ _ _ _ few => absurd few (Nat.not_lt_zero _)
  | succ bound ih =>
      intro w loading k there few
      obtain ⟨other, -⟩ | ⟨ready, t, taken, turn⟩ := k.turn_cases there
      · exact ⟨0, k.isAtRest there other⟩
      · obtain ⟨later, there', -⟩ := turn.listener there
        have less := k.left_lt there ready turn there'
        obtain ⟨n, rest⟩ := ih (w.take t) later (taken ▸ k.turn) there' (by omega)
        refine ⟨n + 1, ?_⟩
        rw [List.replicate_succ, Hearing.run, List.foldl_cons, taken]
        exact rest

/-- By its steps the listener does not fall behind, and nothing is posted. -/
theorem Keeps.near_turn (k : Keeps w) (near : w.IsNear) : (w.step .turn).IsNear := by
  obtain ⟨loading, there, -⟩ := k.listener
  obtain ⟨-, rests⟩ | ⟨ready, t, taken, turn⟩ := k.turn_cases there
  · rw [rests]
    exact near
  · rw [taken]
    intro n
    show (((w.deeds ++ t.deeds w.subscription).take n).foldl Bus.step w.first).pending _ ≤ _
    by_cases within : n ≤ w.deeds.length
    · rw [List.take_append_of_le_length within]
      exact near n
    · rw [Turn.deeds]
      cases heard : t.heard? with
      | none =>
          rw [List.append_nil]
          exact near n
      | some d =>
          obtain ⟨rfl, -⟩ := turn.heard heard
          -- Only what the turn receives is new, and that brings the listener closer.
          have fewer := (k.delivers ready).2
          have whole := near w.deeds.length
          rw [List.take_length, ← k.bus] at whole
          rw [List.take_of_length_le (by simp; omega), List.foldl_append, ← k.bus]
          exact Nat.le_of_lt (Nat.lt_of_lt_of_le fewer whole)

/-- The listener posts nothing itself. -/
theorem postings_turn (w : Hearing) :
    Bus.postings topic (w.step .turn).deeds = Bus.postings topic w.deeds := by
  have silent : ∀ t : Turn, Bus.postings topic (w.deeds ++ t.deeds w.subscription)
      = Bus.postings topic w.deeds := by
    intro t
    rw [Bus.postings, List.filterMap_append, Turn.deeds]
    cases t.heard? <;> exact List.append_nil _
  rw [Hearing.step]
  split
  next =>
      split
      · exact silent _
      · rfl
  next => rfl

theorem Keeps.turns_run (k : Keeps w) (near : w.IsNear) (n : Nat) :
    let w' := w.run (List.replicate n .turn)
    Keeps w' ∧ w'.IsNear ∧ Bus.postings topic w'.deeds = Bus.postings topic w.deeds := by
  induction n generalizing w with
  | zero => exact ⟨k, near, rfl⟩
  | succ n ih =>
      obtain ⟨keeps, close, same⟩ := ih k.turn (k.near_turn near)
      exact ⟨keeps, close, same.trans (postings_turn w)⟩

end

/-- What a bystander may say of a listener. -/
structure Handles (w : Hearing) : Prop where
  /-- The listener is at work. Each name that it has heard of it has loaded once, in that order, but
  for the last if it is just loading that. -/
  goesOn : ∃ loading, w.service.listeners[w.id]? = some ⟨w.subscription, loading⟩ ∧
    w.heard.filterMap (·.name?) = w.loads.map (·.name) ++ (loading.map (·.name)).toList
  /-- It has heard what was posted on the topic since it began to listen, in order and without a
  gap, whether that was an event or not. -/
  inOrder : w.IsNear → ∃ taken ahead, Bus.postings topic w.deeds = taken ++ ahead ∧
    w.heard = taken.map (fun p => (Received.message p).eventDelivery) ∧
    ahead.length = w.service.bus.pending w.subscription
  /-- In each of its steps it does what is to be done about a load, and nothing else. -/
  turns : ∀ t ∈ w.turns, t.IsExact
  /-- When it has taken some more steps it waits, and if that is not for the store then all that was
  posted has been heard. -/
  rests : ∃ n, let w' := w.run (List.replicate n .turn)
    w'.IsAtRest ∧ (w.IsNear → w'.service.bus.pending w'.subscription = 0 →
      w'.heard = (Bus.postings topic w.deeds).map fun p => (Received.message p).eventDelivery)
  /-- Its steps are those that the service takes. -/
  steps : ∀ fuel, w.service.listenerSteps w.id fuel = (w.run (List.replicate fuel .turn)).service
  /-- The deeds are all that was done to the bus. -/
  bus : w.service.bus = w.deeds.foldl Bus.step w.first

/-- What is handled follows from the invariant alone. -/
theorem Keeps.handles {w : Hearing} (k : Keeps w) : w.Handles where
  goesOn := k.listener
  inOrder := k.inOrder
  turns := k.turns
  rests := by
    obtain ⟨n, rest⟩ := k.exists_rest
    refine ⟨n, rest, fun near nothing => ?_⟩
    obtain ⟨keeps, close, same⟩ := k.turns_run near n
    obtain ⟨taken, ahead, split, heard, length⟩ := keeps.inOrder close
    obtain rfl : ahead = [] := List.length_eq_zero_iff.mp (length.trans nothing)
    rw [heard, ← same, split, List.append_nil]
  steps := listenerSteps_eq_run w
  bus := k.bus

/-- Somebody posts this. -/
def posting (p : Posting) : Occasion :=
  .others (fun s => { s with bus := s.bus.post p }) [.post p]

/-- The listener may always take its turn. -/
theorem permitsAll_turns (w : Hearing) (turns : Nat) :
    w.PermitsAll (List.replicate turns .turn) := by
  induction turns generalizing w with
  | zero => trivial
  | succ turns ih => exact ⟨trivial, ih _⟩

/-- Anything may be posted. -/
theorem permitsAll_postings {w : Hearing} (running : w.service.IsRunning) (ps : List Posting)
    (turns : Nat) : w.PermitsAll (ps.map posting ++ List.replicate turns .turn) := by
  induction ps generalizing w with
  | nil => exact w.permitsAll_turns turns
  | cons p rest ih =>
      have now : w.Leaves { w.service with bus := w.service.bus.post p } [.post p] := by
        refine ⟨rfl, fun d here => ?_, rfl, rfl, running.withBus _⟩
        rw [List.mem_singleton.mp here]
        exact ⟨nofun, nofun⟩
      exact ⟨now, ih (w := w.step (posting p)) now.running⟩

end Hearing

/-- **Every announcement is handled.** Take a service with any history of its bus that begins to
listen to announced instances, and let anything happen then, as long as nobody shuts it down: events
with and without a name, payloads that are no events, records that come and go, stores that fail or
are slow, workers that begin and end. The listener goes on. It takes what was announced in order,
without a gap if it is never further behind than a channel keeps; it asks for each instance that is
named, once, and if that can be loaded then it runs every task once for the record that was loaded,
whatever else the event says. For nothing else is a task run. By that the sessions of these records
are given a worker that have an id and none registered at that moment, and no others. -/
theorem every_announcement_is_handled (s : Service) (before : List Bus.Deed)
    (os : List Occasion) (bus : s.bus = Bus.after before) (running : s.IsRunning)
    (permitted : (Hearing.start s).PermitsAll os) : ((Hearing.start s).run os).Handles := by
  have sound : s.bus.Sound := by
    rw [bus]
    exact Bus.sound_after before
  exact ((Hearing.keeps_start running sound).run permitted).handles

/-- A service with a session and its instance, and two tasks, the first of which fails. -/
def sampleScheduler : Service :=
  start (.standing .epoch) none [.noteAndFail "f", .countdown]
    (.memory
      (Tables.after [⟨Unit, .sessionPut sampleSession⟩, ⟨Unit, .instancePut sampleInstance⟩]))

/-- What is no event, an event without a name, one of an unknown instance, and one of the instance
that carries another session. -/
def samplePostings : List Posting :=
  [.raw "instance new" [0x7B], .event ⟨.instanceNew, "s", []⟩, .event ⟨.instanceNew, "s", ["x"]⟩,
    .event ⟨.instanceNew, "t", ["n"]⟩]

/-- All are heard, two instances are asked for, and the session of the one that is there is given a
worker. -/
theorem every_announcement_is_handled_sample :
    let w := (Hearing.start sampleScheduler).run
      (samplePostings.map Hearing.posting ++ List.replicate 4 .turn)
    sampleScheduler.IsRunning ∧ w.Handles ∧ w.heard.length = 4 ∧ w.loads.map (·.name) = ["x", "n"] ∧
      (w.service.timers.registered? "s").isSome ∧ (w.service.timers.registered? "t").isNone := by
  intro w
  have running : sampleScheduler.IsRunning := ⟨rfl, rfl, fun _ _ => nofun⟩
  have listening := (Hearing.keeps_start running (Bus.sound_after [])).running
  refine ⟨running, every_announcement_is_handled sampleScheduler [] _ rfl running
    (Hearing.permitsAll_postings listening samplePostings 4), ?_, ?_, ?_, ?_⟩
  all_goals decide +kernel

end Service

end Playgrounds
