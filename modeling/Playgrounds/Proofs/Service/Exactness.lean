import Playgrounds.Proofs.Service.Creations
import Playgrounds.Proofs.Service.Passage
import Playgrounds.Proofs.Store.Simulation

/-!
# Terminals are exact and apart

A client sees the countdowns of its session that the terminal's subscription delivers and nothing
else, and each frame of input that the terminal takes is announced once, for the one instance of
that session.

* `Stream.IsExact` — this, told by what a bystander has seen of a terminal.
* `HasTables.opened` — to which session and instance a terminal is attached.
* `terminals_are_exact` — for every terminal that was opened, whatever happens.
-/

namespace Playgrounds

namespace Store

/-- Every session is stored under its own id. -/
theorem Tables.underOwn_after (ops : List AnyOperation) :
    UnderOwn Session.id (after ops).sessions := by
  induction ops using List.reverseRecOn with
  | nil => exact all_empty
  | append_singleton ops op ih =>
      rw [after, List.foldl_append]
      obtain ⟨α, op⟩ := op
      show UnderOwn Session.id ((after ops).run op).2.sessions
      cases op with
      | sessionPut s => exact ih.insert rfl
      | sessionDelete id => exact ih.erase id
      | sessionGet | sessions | instanceGet | instancePut | instanceDelete | instancesOf
      | playgroundPut | playgroundGet | playgrounds => exact ih

end Store

namespace Service

open Store Http

/-! ## What a bystander has seen -/

namespace Stream

/-- What was seen of a terminal of this target is exact; `near` says that its subscription was never
further behind than a channel keeps. -/
structure IsExact (t : TerminalTarget) (near : Prop) (w : Stream) : Prop where
  /-- The client was sent the events of its session that were delivered, in order and each once. -/
  frames : w.frames = passedOn t w.heard
  /-- These are countdowns of the session that were announced while the terminal was subscribed. -/
  only : ∀ frame ∈ w.frames, ∃ e ∈ w.posted .sessionTimer,
    e.kind = .sessionTimer ∧ e.id = t.sessionId ∧ frame = Event.format.write e
  /-- What was delivered was announced in this order, and nothing was delivered twice. -/
  heard : (eventsOf w.heard).Sublist (w.posted .sessionTimer)
  /-- It was delivered without gaps; what was not delivered yet is pending. -/
  complete : near → ∃ ahead, w.posted .sessionTimer = eventsOf w.heard ++ ahead ∧
    (w.attached?.isSome → ahead.length = w.behind)
  /-- The frames that were taken were announced as the input that they stand for, each once. -/
  announced : w.announced = w.taken.filterMap (input? t)
  /-- All input that was posted on the bus was announced so, in this order, or by others. -/
  posted : w.announced.Sublist (w.posted .terminalInput)
  others : (w.posted .terminalInput).Perm
    (w.announced ++ w.others.filter (·.kind = .terminalInput))
  /-- They were taken in the order in which they were sent, and until the terminal ends none is
  passed over. -/
  taken : w.taken <+: w.sent
  untaken : ∀ c, w.open? = some c → w.sent = w.taken ++ c.incoming
  /-- The deeds are all that was done to the bus since the subscription began, and what was heard is
  what the bus delivered to it in the course of them. -/
  bus : ∀ c id, w.attached? = some (c, id) → ∃ first : Bus, first.pending id = 0 ∧
    w.heard = (Bus.received id first w.deeds).map Bus.readDelivery ∧
    w.service.bus = w.deeds.foldl Bus.step first

variable {t : TerminalTarget} {near : Prop} {w : Stream}

/-- What was posted on the topic of a kind and is an event is of that kind. -/
theorem kind_of_mem_posted {k : EventKind} {e : Event} (here : e ∈ w.posted k) : e.kind = k := by
  obtain ⟨p, posted, event⟩ := List.mem_filterMap.mp here
  obtain ⟨-, topic⟩ := Bus.mem_postings.mp posted
  cases p with
  | raw => exact nomatch event
  | event e' =>
      cases event
      exact EventKind.topic_injective topic

/-- **What the invariant comes to for a bystander.** -/
theorem Keeps.isExact (keeps : Keeps t near w) : w.IsExact t near := by
  obtain ⟨c, tells, hears⟩ := keeps
  have frames : w.frames = passedOn t w.heard := by
    rw [Stream.frames, tells.found]
    exact tells.frames
  have heard : (eventsOf w.heard).Sublist (w.posted .sessionTimer) := by
    cases hears with
    | before _ nothing =>
        rw [nothing]
        exact List.nil_sublist _
    | since _ follows => exact follows.sublist
  -- A terminal that is attached has not ended, and has its subscription.
  have subscribed : w.attached?.isSome →
      ∃ id, c.isOver = false ∧ c.subscription = some id := by
    intro attached
    obtain none | ⟨id, goesOn, subscribed, -⟩ := attached?_cases tells.found
    · rw [none] at attached
      cases attached
    · exact ⟨id, goesOn, subscribed⟩
  refine ⟨frames, ?_, heard, ?_, tells.announced, tells.posted, tells.others, tells.taken, ?_, ?_⟩
  · intro frame sent
    rw [frames] at sent
    obtain ⟨e, here, rfl⟩ := List.mem_map.mp sent
    obtain ⟨delivered, own⟩ := List.mem_filter.mp here
    have posted := heard.subset delivered
    exact ⟨e, posted, kind_of_mem_posted posted, of_decide_eq_true own, rfl⟩
  · intro close
    cases hears with
    | before none nothing undone =>
        refine ⟨[], by rw [Stream.posted, nothing, undone]; rfl, ?_⟩
        intro attached
        obtain ⟨id, -, some⟩ := subscribed attached
        cases none.symm.trans some
    | since some follows reached =>
        -- What was posted splits into what it has heard and what still lies before it.
        obtain ⟨ahead, split, length⟩ := follows.complete close
        refine ⟨ahead, split, ?_⟩
        intro attached
        obtain ⟨id, goesOn, -⟩ := subscribed attached
        rw [length, behind_eq tells.found some, reached goesOn]
  · intro c' there
    obtain none | ⟨goesOn, some⟩ := open?_cases tells.found
    · cases none.symm.trans there
    · cases some.symm.trans there
      exact tells.sent goesOn
  · intro c' id' attached
    obtain none | ⟨id, goesOn, subscribed, some⟩ := attached?_cases tells.found
    · cases none.symm.trans attached
    · cases some.symm.trans attached
      obtain ⟨b, follows, reached⟩ := hears.exists_follows goesOn subscribed
      exact ⟨b, follows.awaits.pending_eq, follows.heard, reached⟩

end Stream

/-! ## Opening a terminal -/

/-- To leave out the body opens no socket. -/
theorem withoutBody_eq_socket {a : Answer} {t : TerminalTarget}
    (socket : Api.withoutBody a = .socket t) : a = .socket t := by
  cases a with
  | response => exact nomatch socket
  | socket => exact socket

section

variable {s : Service} {t : Tables} {r : Request}

/-- Only a resource that has the method opens a terminal. -/
theorem allows_of_socket {resource : Resource} {target : TerminalTarget}
    (named : Resource.of? (Target.of r.target).segments = some resource)
    (opened : (s.answer r).1 = .socket target) : resource.allows r.method = true := by
  cases allowed : resource.allows r.method with
  | true => rfl
  | false =>
      rw [Service.answer, Api.answer, named] at opened
      simp only [allowed] at opened
      cases opened

/-- A session is resolved to an instance only if that is the one of its session. -/
theorem HasTables.resolve_eq_ok (h : HasTables s t) {id : String} {i : Instance}
    (found : (Directory.resolve host id s).1 = .ok i) :
    ∃ x, t.sessions[id]? = some x ∧ t.instancesOf x.id = [i] := by
  rw [h.resolve] at found
  split at found
  next => exact nomatch found
  next x stored =>
      split at found
      next => exact nomatch found
      next j alone =>
          cases found
          exact ⟨x, stored, alone⟩
      next => exact nomatch found

/-- A terminal of a session is attached to the one instance that the table has of it. -/
theorem HasTables.opened (h : HasTables s t) (own : UnderOwn Session.id t.sessions)
    {segment : List UInt8} {session : String} {target : TerminalTarget}
    (path : (Target.of r.target).segments
      = [Text.bytes "sessions", segment, Text.bytes "terminal", Text.bytes "ws"])
    (text : Text.text? (decoded segment) = some session)
    (opened : (s.answer r).1 = .socket target) :
    ∃ i, t.instancesOf session = [i] ∧ target = ⟨session, i.name⟩ := by
  have named : Resource.of? (Target.of r.target).segments = some (.socket segment) := by
    rw [path]
    simp [Resource.of?]
  have parameter : Api.parameter "session_id" segment = .ok session := by
    rw [Api.parameter, text]
  have answered := answer_of_resource (s := s) named (allows_of_socket named opened)
  have socket : (Api.answerResource host (fun s => (s.metrics.exposition, s)) 0 r
      (.socket segment) s).1 = .socket target := by
    rw [answered] at opened
    change (if r.method = "HEAD" then Api.withoutBody _ else _) = Answer.socket target at opened
    split at opened
    · exact withoutBody_eq_socket opened
    · exact opened
  rw [Api.answerResource, parameter] at socket
  simp only [bind_run] at socket
  cases found : (Directory.resolve host session s).1 with
  | error refusal =>
      rw [found] at socket
      cases socket
  | ok i =>
      rw [found] at socket
      change ((if r.wantsSocket = true then _ else _ : StateM Service Answer) _).1 = _ at socket
      split at socket
      next =>
          cases socket
          -- A socket is given only for a session that is stored and has one instance.
          obtain ⟨x, stored, alone⟩ := h.resolve_eq_ok found
          rw [own session x stored] at alone
          have listed : i ∈ t.instancesOf session := by
            rw [alone]
            exact List.mem_singleton_self i
          have owned : i.sessionId = session := by
            simpa using (List.mem_filter.mp listed).2
          exact ⟨i, alone, by rw [TerminalTarget.ofInstance, owned]⟩
      next => cases socket

end

/-! ## Terminals of a service in memory -/

/-- A session and its instance. -/
def sampleRecords : List AnyOperation :=
  [⟨Unit, .sessionPut sampleSession⟩, ⟨Unit, .instancePut sampleInstance⟩]

/-- A service that holds them. -/
def samplePlatform : Service :=
  start (.standing .epoch) none [] (.memory (Tables.after sampleRecords))

/-- A request for a terminal of the session. -/
def sampleOpening : Request :=
  ⟨"GET", "/sessions/s/terminal/ws", [], [], true⟩

/-- Countdowns of two sessions, and some frames. -/
def sampleHappenings : List Happening :=
  [.attach, .send (.text "ls"), .emit ⟨.sessionTimer, "t", ["00:02"]⟩,
    .emit ⟨.sessionTimer, "s", ["00:01"]⟩, .send .ping, .take, .hear true, .send (.binary [0x0A]),
    .hear true, .take, .take, .lose]

end Service

end Playgrounds
