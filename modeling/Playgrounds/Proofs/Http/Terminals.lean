import Playgrounds.Proofs.Service.Exactness

/-!
# The two routes of a terminal agree

A session has a route that tells the instance a terminal would attach to, and one that opens the
terminal. Both resolve the session first, so that a session without its one instance is answered the
same on both, and never opens a socket.

* `Directory.said` — what the store says of a session; `Directory.resolved` — what the session is
  resolved to then.
* `IsTerminalAnswer` — what the first route answers, in every case of what the store says.
* `terminal_routes_agree` — both routes, on every host.
-/

namespace Playgrounds

open Store

namespace Directory

/-- What a store says of a session: its record, and what comes of listing its instances then. -/
abbrev Said := Outcome (Session × Outcome (List Instance))

/-- What a host says of the session with an id. -/
def said {σ : Type} (host : Host (StateM σ)) (id : String) (s : σ) : Said :=
  match host.store (.sessionGet id) s with
  | (.error f, _) => .error f
  | (.ok x, s) => .ok (x, (host.store (.instancesOf x.id) s).1)

/-- What the session with an id is resolved to, if this is said of it. -/
def resolved (id : String) : Said → Found Instance
  | .error f => .error (if f.isNotFound then .sessionNotFound id else .store f)
  | .ok (_, .error f) => .error (.store f)
  | .ok (x, .ok []) => .error (.noInstance x.id)
  | .ok (_, .ok [i]) => .ok i
  | .ok (x, .ok several) => .error (.ambiguousInstance x.id several.length)

/-- **What a session is resolved to is told by what the store says of it.** -/
theorem resolve_eq_resolved {σ : Type} (host : Host (StateM σ)) (id : String) (s : σ) :
    (resolve host id s).1 = resolved id (said host id s) := by
  rw [resolve, session, said]
  simp only [bind, StateT.bind]
  cases host.store (.sessionGet id) s with
  | mk read s' =>
      cases read with
      | error f => rfl
      | ok x =>
          show (singleInstance host x s').1 = _
          simp only [singleInstance, bind, StateT.bind]
          rcases host.store (.instancesOf x.id) s' with ⟨_ | _ | ⟨i, _ | ⟨j, rest⟩⟩, s''⟩ <;> rfl

end Directory

namespace Http

/-! ## What is answered -/

/-- What is answered about the instance of a session, if this is said of the session. -/
structure IsTerminalAnswer (said : Directory.Said) (response : Response) : Prop where
  /-- All is well exactly if there is a record, and one instance for it. -/
  attached_iff : response.status = 200 ↔ ∃ x i, said = .ok (x, .ok [i])
  /-- Then the body is that instance. -/
  attached : ∀ x i, said = .ok (x, .ok [i]) →
    response = .json 200 (Instance.format.toValue i) ∧
      Instance.format.read (Text.bytes response.body) = .ok i
  /-- Only an absent record is answered by an empty body. -/
  absent_iff : response = .empty 404 ↔ ∃ f, said = .error f ∧ f.isNotFound = true
  vacant : ∀ x, said = .ok (x, .ok []) → response = .json 404
    (Response.errorBody "no_instance" ("session " ++ x.id ++ " has no instance"))
  /-- The count is that of all that are listed. -/
  crowded : ∀ x is, said = .ok (x, .ok is) → 2 ≤ is.length → response = .json 404
    (Response.errorBody "ambiguous_instance" ("session " ++ x.id ++ " has "
      ++ Decimal.text is.length ++ " instances, expected exactly one"))
  /-- That the store has failed is said exactly if it has. -/
  failed_iff : response.status = 500 ↔
    (∃ f, said = .error f ∧ f.isNotFound = false) ∨ ∃ x f, said = .ok (x, .error f)
  failed : response.status = 500 →
    response = .json 500 (Response.errorBody "store_error" "storage unavailable")

/-- **What the first route answers.** -/
theorem isTerminalAnswer_found (id : String) (said : Directory.Said) :
    IsTerminalAnswer said (Api.found Instance.format 200 (Directory.resolved id said)) := by
  have back : ∀ i, Instance.format.read (Text.bytes (Instance.format.toValue i).writing) = .ok i :=
    Instance.faithful_format.read_write
  -- Of what is said there are six kinds: two failures of the record, one of the list, three lists.
  rcases said with f | ⟨x, f | - | ⟨i, - | ⟨j, rest⟩⟩⟩
  · cases kind : f.isNotFound <;> constructor <;>
      simp [Directory.resolved, Api.found, Response.refusal, Response.empty, Response.json, kind,
        Refusal.code]
  all_goals
    constructor <;> simp [Directory.resolved, Api.found, Response.refusal, Response.empty,
      Response.json, Refusal.code, Refusal.message, back]

section

variable {σ : Type} (host : Host (StateM σ)) (exposition : StateM σ String) (uptime : Api.Uptime)
variable {r : Request} {segment : List UInt8} {id : String}

/-- The route that tells of a terminal answers with what the directory resolves, as a record. -/
theorem answer_terminal
    (get : Service.Gets r [Text.bytes "sessions", segment, Text.bytes "terminal"])
    (text : Text.text? (decoded segment) = some id) (s : σ) :
    (Api.answer host exposition uptime r s).1
      = .response (Api.found Instance.format 200
          (Directory.resolved id (Directory.said host id s))) := by
  have named : Resource.of? (Target.of r.target).segments = some (.terminal segment) := by
    rw [get.2]
    simp [Resource.of?]
  have parameter : Api.parameter "session_id" segment = .ok id := by
    rw [Api.parameter, text]
  rw [Api.answer_of_get host exposition uptime get.1 named, Api.answerResource, parameter,
    ← Directory.resolve_eq_resolved]
  rfl

/-- The route that opens a terminal resolves the session in the same way. Only then does it look at
whether a socket is wanted. -/
theorem answer_socket (get : Service.Gets r
      [Text.bytes "sessions", segment, Text.bytes "terminal", Text.bytes "ws"])
    (text : Text.text? (decoded segment) = some id) (s : σ) :
    (Api.answer host exposition uptime r s).1
      = match Directory.resolved id (Directory.said host id s) with
        | .error refusal => .response (.refusal refusal)
        | .ok i => if r.wantsSocket then .socket (.ofInstance i)
          else .response (.plain 426 "websocket upgrade required") := by
  have named : Resource.of? (Target.of r.target).segments = some (.socket segment) := by
    rw [get.2]
    simp [Resource.of?]
  have parameter : Api.parameter "session_id" segment = .ok id := by
    rw [Api.parameter, text]
  rw [Api.answer_of_get host exposition uptime get.1 named, Api.answerResource, parameter,
    ← Directory.resolve_eq_resolved]
  simp only [bind, StateT.bind]
  rcases Directory.resolve host id s with ⟨refusal | i, s'⟩
  · rfl
  · dsimp only
    split <;> rfl

/-- **The two routes agree.** Whatever the store says of a session, the route that tells its
instance is answered by that alone: by the instance, by an empty body for an absent session, by the
exact reason if there is none or more than one, and as a failure if the store has failed. The route
that opens the terminal is answered the same unless there is just one instance, and then a client
that wants a socket goes on with a terminal of that very instance. -/
theorem terminal_routes_agree (s : σ) (telling opening : Request) (part part' : List UInt8)
    (session : String)
    (tells : Service.Gets telling [Text.bytes "sessions", part, Text.bytes "terminal"])
    (text : Text.text? (decoded part) = some session)
    (opens : Service.Gets opening
      [Text.bytes "sessions", part', Text.bytes "terminal", Text.bytes "ws"])
    (text' : Text.text? (decoded part') = some session) :
    ∃ response, (Api.answer host exposition uptime telling s).1 = .response response ∧
      IsTerminalAnswer (Directory.said host session s) response ∧
      (response.status ≠ 200 →
        (Api.answer host exposition uptime opening s).1 = .response response) ∧
      ∀ x i, Directory.said host session s = .ok (x, .ok [i]) →
        (Api.answer host exposition uptime opening s).1
          = if opening.wantsSocket then .socket (.ofInstance i)
            else .response (.plain 426 "websocket upgrade required") := by
  rw [answer_terminal host exposition uptime tells text s,
    answer_socket host exposition uptime opens text' s]
  refine ⟨_, rfl, isTerminalAnswer_found session _, ?_, ?_⟩
  -- A refusal is answered on both routes; only an instance that was found has status 200.
  · intro other
    cases found : Directory.resolved session (Directory.said host session s) with
    | error refusal => rfl
    | ok i =>
        rw [found] at other
        exact absurd rfl other
  · intro x i said
    rw [said]
    rfl

/-- A session with one instance: the instance is told, and the socket is a terminal of it. -/
theorem terminal_routes_agree_sample :
    let telling : Request := ⟨"GET", "/sessions/s/terminal", [], [], false⟩
    (Api.answer Service.host (pure "") 0 telling Service.samplePlatform).1
        = .response (.json 200 (Instance.format.toValue sampleInstance)) ∧
      (Api.answer Service.host (pure "") 0 Service.sampleOpening Service.samplePlatform).1
        = .socket ⟨"s", "n"⟩ := by
  have said : Directory.said Service.host "s" Service.samplePlatform
      = .ok (sampleSession, .ok [sampleInstance]) := by
    decide +kernel
  obtain ⟨response, told, answer, -, opened⟩ := terminal_routes_agree Service.host (pure "") 0
    Service.samplePlatform ⟨"GET", "/sessions/s/terminal", [], [], false⟩ Service.sampleOpening
    (Text.bytes "s") (Text.bytes "s") "s" ⟨rfl, by decide +kernel⟩ (by decide +kernel)
    ⟨rfl, by decide +kernel⟩ (by decide +kernel)
  exact ⟨told.trans (congrArg _ (answer.attached _ _ said).1), opened _ _ said⟩

end

end Http

end Playgrounds
