import Playgrounds.Store.Dialogue
import Playgrounds.Store.Operation
import Playgrounds.Text.Utf8

/-!
# The store on a server

Each record is a text under its own key. Sets under keys of their own name the sessions, the
playgrounds, and the instances of each session. What belongs together is written in one
transaction.

* `Key` — the keys.
* `Keyed.dialogue` — an operation as a dialogue with the server.
-/

namespace Playgrounds.Store

namespace Key

/-- The set of session ids. -/
def sessionIds : String := "pgroad:session_ids"

/-- The set of playground ids. -/
def playgroundIds : String := "pgroad:playground_ids"

/-- The record of a session. -/
def ofSession (id : String) : String := "pgroad:session:" ++ id

/-- The set of the names of a session's instances. -/
def instancesOf (sessionId : String) : String := ofSession sessionId ++ ":instances"

/-- The record of an instance. -/
def ofInstance (name : String) : String := "pgroad:instance:" ++ name

/-- The record of a playground. -/
def ofPlayground (id : String) : String := "pgroad:playground:" ++ id

end Key

namespace Keyed

open Json

variable {α : Type}

/-- The failure of an operation whose command was refused. -/
def refused (e : ErrorReply) : Failure :=
  .backend e.text

/-- What is reported when an answer is of no kind that the command has. -/
def unexpected : Failure :=
  .backend "Response was of incompatible type"

/-- The record under a key. -/
def get (format : Format α) (kind : RecordKind) (id key : String) : Dialogue (Outcome α) :=
  .send (.get key) fun
    | .text (some s) => .done ((format.read (Text.bytes s)).mapError .unreadable)
    | .text none => .done (.error (.notFound kind id))
    | .error e => .done (.error (refused e))
    | _ => .done (.error unexpected)

/-- The records of these ids. An id without a record is passed over, as is one whose record cannot
be read; the latter is reported. -/
def load (format : Format α) (index : String) (keyOf : String → String) :
    List String → Dialogue (Outcome (List α))
  | [] => .done (.ok [])
  | id :: ids =>
    .send (.get (keyOf id)) fun
      | .text (some s) =>
        match format.read (Text.bytes s) with
        | .ok a => (load format index keyOf ids).bind fun rest => .done (rest.map (a :: ·))
        | .error _ => .report ⟨index, id⟩ (load format index keyOf ids)
      | .text none => load format index keyOf ids
      | .error e => .done (.error (refused e))
      | _ => .done (.error unexpected)

/-- The records that an index names. -/
def loadIndexed (format : Format α) (index : String) (keyOf : String → String) :
    Dialogue (Outcome (List α)) :=
  .send (.members index) fun
    | .members ids => load format index keyOf ids
    | .error e => .done (.error (refused e))
    | _ => .done (.error unexpected)

/-- The first refusal among the answers. -/
def firstRefusal : List Reply → Option ErrorReply
  | [] => none
  | .error e :: _ => some e
  | _ :: rest => firstRefusal rest

/-- A transaction of which only the refusals matter. -/
def transact (cs : List Command) : Dialogue (Outcome Unit) :=
  .transact cs fun
    | .error e => .done (.error (refused e))
    | .ok replies =>
      match firstRefusal replies with
      | some e => .done (.error (refused e))
      | none => .done (.ok ())

/-- Writes a record and names it in its index. -/
def put (format : Format α) (key index member : String) (a : α) : Dialogue (Outcome Unit) :=
  transact [.set key (format.write a), .addMember index member]

/-- Removes the records of these instances, then the session and its indexes. -/
def sessionRemoval (id : String) (names : List String) : List Command :=
  names.map (fun name => .delete (Key.ofInstance name))
    ++ [.delete (Key.instancesOf id), .delete (Key.ofSession id), .removeMember Key.sessionIds id]

/-- An operation as a dialogue. -/
def dialogue {α : Type} : Operation α → Dialogue (Outcome α)
  | .sessionGet id => get Session.format .sessionRecord id (Key.ofSession id)
  | .sessionPut s => put Session.format (Key.ofSession s.id) Key.sessionIds s.id s
  | .sessionDelete id =>
    .send (.members (Key.instancesOf id)) fun
      | .members names => transact (sessionRemoval id names)
      | .error e => .done (.error (refused e))
      | _ => .done (.error unexpected)
  | .sessions => loadIndexed Session.format Key.sessionIds Key.ofSession
  | .instanceGet name => get Instance.format .instanceRecord name (Key.ofInstance name)
  | .instancePut i =>
    put Instance.format (Key.ofInstance i.name) (Key.instancesOf i.sessionId) i.name i
  | .instanceDelete name =>
    (get Instance.format .instanceRecord name (Key.ofInstance name)).bind fun
      | .ok i =>
        transact [.delete (Key.ofInstance name), .removeMember (Key.instancesOf i.sessionId) name]
      | .error (.notFound _ _) => .done (.ok ())
      | .error e => .done (.error e)
  | .instancesOf sessionId =>
    (loadIndexed Instance.format (Key.instancesOf sessionId) Key.ofInstance).bind fun found =>
      .done (found.map fun is => is.mergeSort fun a b => decide (a.name ≤ b.name))
  | .playgroundPut p =>
    put Playground.format (Key.ofPlayground p.id) Key.playgroundIds p.id p
  | .playgroundGet id => get Playground.format .playgroundRecord id (Key.ofPlayground id)
  | .playgrounds => loadIndexed Playground.format Key.playgroundIds Key.ofPlayground

end Keyed

end Playgrounds.Store
