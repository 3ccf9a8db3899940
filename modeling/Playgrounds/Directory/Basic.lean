import Playgrounds.Directory.Refusal
import Playgrounds.Identifier
import Playgrounds.Log.Line
import Playgrounds.Record.Event
import Playgrounds.Store.Operation
import Playgrounds.Text.Quoted

/-!
# The directory

Lookups of playgrounds, sessions and instances, and the creation of playgrounds. A store that fails
is never taken for a record that is absent.

* `Host` — what the directory needs: a store, and ways to announce, count and report.
* `Directory.create` — saves a playground under the id of its domain and announces it.
* `Directory.find` — the playground of a domain, or else of its host without the port.
* `Directory.ensure` — the same, but creates a playground that is absent.
* `Directory.resolve` — the one instance of a session.
-/

namespace Playgrounds

/-- What the directory needs. -/
structure Host (m : Type → Type) where
  store : {α : Type} → Store.Operation α → m (Store.Outcome α)
  announce : Event → m Unit
  countCreated : m Unit
  report : Log.Line → m Unit

namespace Directory

/-- What a lookup finds. -/
abbrev Found (α : Type) := Except Refusal α

/-- A line of the directory. -/
def line (level : Log.Level) (message : String) (values : List (String × String)) : Log.Line :=
  ⟨level, .directory, message, values⟩

variable {m : Type → Type} [Monad m]

/-- Saves a playground under the id of its domain, whatever id it had, and announces it. One that
is there already is overwritten. -/
def create (host : Host m) (p : Playground) : m (Found Playground) := do
  let p := { p with id := playgroundId p.domain }
  match ← host.store (.playgroundPut p) with
  | .error f =>
    host.report
      (line .error "failed to save playground" [("playground_id", p.id), ("error", f.text)])
    return .error (.store f)
  | .ok () =>
    host.countCreated
    host.report (line .info "playground created" [("playground_id", p.id), ("domain", p.domain)])
    host.announce ⟨.playgroundNew, p.id, []⟩
    return .ok p

/-- The playground with an id. -/
def playground (host : Host m) (id : String) : m (Found Playground) := do
  match ← host.store (.playgroundGet id) with
  | .ok p => return .ok p
  | .error f =>
    if f.isNotFound then return .error (.playgroundNotFound id)
    else
      host.report
        (line .error "failed to retrieve playground" [("playground_id", id), ("error", f.text)])
      return .error (.store f)

/-- The playground of a domain as it is given, or else of its host without the port. The second
lookup is made only after a genuine miss, and the refusal names the whole domain. -/
def find (host : Host m) (domain : String) : m (Found Playground) := do
  match ← playground host (playgroundId domain) with
  | .error (.playgroundNotFound _) =>
    match hostOf? domain with
    | none => return .error (.playgroundNotFound domain)
    | some name =>
      host.report (line .debug "retrying playground lookup without port"
        [("domain", Text.quoted domain), ("host", Text.quoted name)])
      match ← playground host (playgroundId name) with
      | .error (.playgroundNotFound _) => return .error (.playgroundNotFound domain)
      | other => return other
  | other => return other

/-- The playground that serves a domain; if there is none it is created, with sessions of the given
length. -/
def ensure (host : Host m) (domain : String) (sessionSeconds : UInt64) : m (Found Playground) := do
  match ← find host domain with
  | .error (.playgroundNotFound _) =>
    create host { Playground.ofDomain domain with sessionSeconds }
  | other => return other

/-- Every playground. -/
def playgrounds (host : Host m) : m (Found (List Playground)) := do
  return (← host.store .playgrounds).mapError .store

/-- The session with an id. -/
def session (host : Host m) (id : String) : m (Found Session) := do
  match ← host.store (.sessionGet id) with
  | .ok s => return .ok s
  | .error f => return .error (if f.isNotFound then .sessionNotFound id else .store f)

/-- The one instance of a session. That there is none, or more than one, is an error. -/
def singleInstance (host : Host m) (s : Session) : m (Found Instance) := do
  match ← host.store (.instancesOf s.id) with
  | .error f => return .error (.store f)
  | .ok [] => return .error (.noInstance s.id)
  | .ok [i] => return .ok i
  | .ok several => return .error (.ambiguousInstance s.id several.length)

/-- The one instance of the session with an id. -/
def resolve (host : Host m) (sessionId : String) : m (Found Instance) := do
  match ← session host sessionId with
  | .ok s => singleInstance host s
  | .error r => return .error r

end Directory

end Playgrounds
