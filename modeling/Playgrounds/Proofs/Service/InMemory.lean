import Playgrounds.Proofs.Store.Table
import Playgrounds.Service.Basic

/-!
# The service on a store in memory

A store in memory answers every call at once, and the only failure is that a record is absent. So
all that is asked of the service comes down to its tables.

* `HasTables` — the service has its store in memory, and no fault is planned.
* `HasTables.begin`, `HasTables.call` — a call of such a store.
* `Rests`, `Quiet` — neither store nor bus nor counts are touched; a program that touches none.
* `quiet_store`, `quiet_find`, `quiet_resolve` — who only reads is quiet.
* `HasTables.create`, `HasTables.playground`, `HasTables.find`, `HasTables.playgrounds`,
  `HasTables.resolve` — what the directory answers.
-/

namespace Playgrounds.Service

open Store

/-- The service has these tables in memory, and no fault is planned. -/
structure HasTables (s : Service) (t : Tables) : Prop where
  store : s.store = .memory t
  faults : s.faults = .empty

/-- Neither store nor bus nor count of the playgrounds was touched. -/
structure Rests (s s' : Service) : Prop where
  store : s'.store = s.store
  faults : s'.faults = s.faults
  bus : s'.bus = s.bus
  created : s'.created = s.created

/-- An operation that writes nothing. -/
def ReadsOnly {α : Type} (op : Operation α) : Prop :=
  ∀ t : Tables, (t.run op).2 = t

/-- A program that touches neither store nor bus nor count, if the store is in memory. -/
def Quiet {α : Type} (x : StateM Service α) : Prop :=
  ∀ s t, HasTables s t → Rests s (x s).2

theorem Rests.refl (s : Service) : Rests s s :=
  ⟨rfl, rfl, rfl, rfl⟩

theorem Rests.trans {a b c : Service} (first : Rests a b) (then' : Rests b c) : Rests a c :=
  ⟨then'.store.trans first.store, then'.faults.trans first.faults, then'.bus.trans first.bus,
    then'.created.trans first.created⟩

theorem Rests.hasTables {s s' : Service} {t : Tables} (rests : Rests s s') (h : HasTables s t) :
    HasTables s' t :=
  ⟨rests.store.trans h.store, rests.faults.trans h.faults⟩

/-! ## Calls -/

section

variable {s : Service} {t : Tables} {α : Type}

/-- An operation on the store changes the store, and may report. -/
theorem perform_frame (s : Service) (op : Operation α) :
    ∃ reports, (s.perform op).2 = { s with store := (s.store.run op).2, reports } := by
  have reported : ∀ (ks : List Skipped) (s : Service),
      ∃ reports, ks.foldl (fun s k => s.report (skippedLine k)) s = { s with reports } := by
    intro ks
    induction ks with
    | nil => exact fun s => ⟨s.reports, rfl⟩
    | cons k rest ih => exact fun s => ih (s.report (skippedLine k))
  exact reported (s.store.run op).1.2 { s with store := (s.store.run op).2 }

/-- An operation on a store in memory is one on its tables. -/
theorem HasTables.perform (h : HasTables s t) (op : Operation α) :
    s.perform op = ((t.run op).1, { s with store := .memory (t.run op).2 }) := by
  rw [Service.perform, h.store]
  rfl

/-- **A call of a store in memory is answered at once, from its tables.** -/
theorem HasTables.begin (h : HasTables s t) (op : Operation α) : s.begin op
    = (.answered (t.run op).1, { s.countRead op with store := .memory (t.run op).2 }) := by
  have counted : HasTables (s.countRead op) t := by
    cases op <;> exact ⟨h.store, h.faults⟩
  have planned : (s.countRead op).faults.begin op = (none, (s.countRead op).faults) := by
    rw [counted.faults]
    rfl
  simp only [Service.begin, planned]
  exact congrArg (fun r : Outcome α × Service => (Call.answered r.1, r.2)) (counted.perform op)

theorem HasTables.call (h : HasTables s t) (op : Operation α) :
    s.call op = ((t.run op).1, { s.countRead op with store := .memory (t.run op).2 }) := by
  rw [Service.call, h.begin]

/-- A call that only reads is quiet. -/
theorem quiet_store {op : Operation α} (reads : ReadsOnly op) : Quiet (host.store op) := by
  intro s t h
  show Rests s (s.call op).2
  rw [h.call, reads t, ← h.store]
  cases op <;> exact ⟨rfl, rfl, rfl, rfl⟩

theorem quiet_pure (a : α) : Quiet (pure a) :=
  fun s _ _ => .refl s

/-- Two steps that write nothing write nothing one after the other. -/
theorem quiet_bind {β : Type} {x : StateM Service α} {f : α → StateM Service β} (first : Quiet x)
    (then' : ∀ a, Quiet (f a)) : Quiet (x >>= f) := by
  intro s t h
  have rests := first s t h
  exact rests.trans (then' (x s).1 (x s).2 t (rests.hasTables h))

/-- A program that goes on with the result of another. -/
theorem bind_run {σ β : Type} (x : StateM σ α) (f : α → StateM σ β) (s : σ) :
    (x >>= f) s = f (x s).1 (x s).2 :=
  rfl

theorem quiet_report (l : Log.Line) : Quiet (host.report l) :=
  fun _ _ _ => ⟨rfl, rfl, rfl, rfl⟩

end

/-! ## The directory -/

section

open Directory

/-- To read a playground writes nothing. -/
theorem quiet_playground (id : String) : Quiet (playground host id) := by
  refine quiet_bind (quiet_store fun _ => rfl) fun read => ?_
  cases read with
  | ok p => exact quiet_pure _
  | error f =>
      show Quiet (if f.isNotFound = true then _ else _)
      split
      · exact quiet_pure _
      · exact quiet_bind (quiet_report _) fun _ => quiet_pure _

/-- To look up a playground writes nothing. -/
theorem quiet_find (domain : String) : Quiet (find host domain) := by
  refine quiet_bind (quiet_playground _) fun found => ?_
  split
  next =>
      split
      next => exact quiet_pure _
      next name _ =>
          refine quiet_bind (quiet_report _) fun _ => ?_
          refine quiet_bind (quiet_playground _) fun found => ?_
          split <;> exact quiet_pure _
  next => exact quiet_pure _

/-- To list the playgrounds writes nothing. -/
theorem quiet_playgrounds : Quiet (playgrounds host) :=
  quiet_bind (quiet_store fun _ => rfl) fun _ => quiet_pure _

theorem quiet_session (id : String) : Quiet (session host id) := by
  refine quiet_bind (quiet_store fun _ => rfl) fun read => ?_
  cases read <;> exact quiet_pure _

/-- To resolve a terminal writes nothing. -/
theorem quiet_resolve (sessionId : String) : Quiet (resolve host sessionId) := by
  refine quiet_bind (quiet_session sessionId) fun found => ?_
  cases found with
  | error r => exact quiet_pure _
  | ok s =>
      refine quiet_bind (quiet_store fun _ => rfl) fun listed => ?_
      split <;> exact quiet_pure _

variable {s : Service} {t : Tables} (h : HasTables s t)

include h

/-- The playground with an id is that of the table. -/
theorem HasTables.playground (id : String) : (Directory.playground host id s).1
    = match t.playgrounds[id]? with
      | some p => .ok p
      | none => .error (.playgroundNotFound id) := by
  have asked : (host.store (.playgroundGet id)) s
      = (Tables.find t.playgrounds .playgroundRecord id, _) := h.call (.playgroundGet id)
  rw [Directory.playground, bind_run, asked, Tables.find]
  cases t.playgrounds[id]? <;> rfl

/-- A domain under whose id there is a playground is found at once. -/
theorem HasTables.find {domain : String} {p : Playground}
    (stored : t.playgrounds[playgroundId domain]? = some p) :
    (Directory.find host domain s).1 = .ok p := by
  have found := h.playground (playgroundId domain)
  rw [stored] at found
  rw [Directory.find, bind_run, found]
  rfl

/-- All playgrounds are those of the table. -/
theorem HasTables.playgrounds :
    (Directory.playgrounds host s).1 = .ok t.playgrounds.values := by
  have asked : (host.store .playgrounds) s = (.ok t.playgrounds.values, _) := h.call .playgrounds
  rw [Directory.playgrounds, bind_run, asked]
  rfl

/-- **A playground is created**: it is stored under the id of its domain, announced and counted. -/
theorem HasTables.create (p : Playground) :
    let stored := { p with id := playgroundId p.domain }
    (Directory.create host p s).1 = .ok stored ∧
      HasTables (Directory.create host p s).2
        { t with playgrounds := t.playgrounds.insert stored.id stored } ∧
      (Directory.create host p s).2.bus = s.bus.emit ⟨.playgroundNew, stored.id, []⟩ ∧
      (Directory.create host p s).2.created = s.created + 1 := by
  have asked : ∀ q : Playground, (host.store (.playgroundPut q)) s = (.ok (),
      { s with store := .memory { t with playgrounds := t.playgrounds.insert q.id q } }) :=
    fun q => h.call (.playgroundPut q)
  intro stored
  rw [Directory.create, bind_run, asked]
  exact ⟨rfl, ⟨rfl, h.faults⟩, rfl, rfl⟩

/-- A session is found exactly if it is stored. -/
theorem HasTables.session (id : String) : (Directory.session host id s).1
    = match t.sessions[id]? with
      | some x => .ok x
      | none => .error (.sessionNotFound id) := by
  have asked : (host.store (.sessionGet id)) s
      = (Tables.find t.sessions .sessionRecord id, _) := h.call (.sessionGet id)
  rw [Directory.session, bind_run, asked, Tables.find]
  cases t.sessions[id]? <;> rfl

/-- The instance of a session is found exactly if the session has just one. -/
theorem HasTables.singleInstance (x : Session) : (Directory.singleInstance host x s).1
    = match t.instancesOf x.id with
      | [] => .error (.noInstance x.id)
      | [i] => .ok i
      | several => .error (.ambiguousInstance x.id several.length) := by
  have asked : (host.store (.instancesOf x.id)) s = (.ok (t.instancesOf x.id), _) :=
    h.call (.instancesOf x.id)
  rw [Directory.singleInstance, bind_run, asked]
  rcases t.instancesOf x.id with - | ⟨i, - | ⟨j, rest⟩⟩ <;> rfl

/-- What a session is resolved to: the one instance that the table has of it. -/
theorem HasTables.resolve (id : String) : (Directory.resolve host id s).1
    = match t.sessions[id]? with
      | none => .error (.sessionNotFound id)
      | some x => match t.instancesOf x.id with
        | [] => .error (.noInstance x.id)
        | [i] => .ok i
        | several => .error (.ambiguousInstance x.id several.length) := by
  have later := (quiet_session id s t h).hasTables h
  rw [Directory.resolve, bind_run, h.session]
  cases t.sessions[id]? with
  | none => rfl
  | some x => exact later.singleInstance x

end

end Playgrounds.Service
