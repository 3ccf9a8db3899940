import Playgrounds.Json.Record

/-!
# Instances

An instance is a running machine that belongs to one session.

* `Instance.format` — its record.
* `TerminalTarget` — where a terminal of the instance is attached.
-/

namespace Playgrounds

/-- A running machine that belongs to one session. -/
structure Instance where
  name : String
  sessionId : String
  hostname : String
  ip : String
  image : String
  createdAt : Instant
deriving DecidableEq

namespace Instance

open Json

/-- The fields of an instance's record. -/
def fields : Fields [String, String, String, String, String, Instant] :=
  .cons ⟨"name", .text, none⟩ <|
  .cons ⟨"session_id", .text, none⟩ <|
  .cons ⟨"hostname", .text, some ""⟩ <|
  .cons ⟨"ip", .text, some ""⟩ <|
  .cons ⟨"image", .text, some ""⟩ <|
  .cons ⟨"created_at", .instant, none⟩ .nil

/-- The record of an instance. -/
def format : Format Instance :=
  fields.format.along
    (fun i => (i.name, i.sessionId, i.hostname, i.ip, i.image, i.createdAt, ()))
    (fun (name, sessionId, hostname, ip, image, createdAt, ()) =>
      ⟨name, sessionId, hostname, ip, image, createdAt⟩)

end Instance

/-- Where a terminal is attached: a session and its one instance. -/
structure TerminalTarget where
  sessionId : String
  instanceName : String
deriving DecidableEq, Repr

namespace TerminalTarget

open Json

/-- The target of a terminal of this instance. -/
def ofInstance (i : Instance) : TerminalTarget :=
  ⟨i.sessionId, i.name⟩

/-- The fields of a target's record. -/
def fields : Fields [String, String] :=
  .cons ⟨"session_id", .text, none⟩ <| .cons ⟨"instance_name", .text, none⟩ .nil

/-- The record of a target. -/
def format : Format TerminalTarget :=
  fields.format.along (fun t => (t.sessionId, t.instanceName, ()))
    (fun (sessionId, instanceName, ()) => ⟨sessionId, instanceName⟩)

end TerminalTarget

end Playgrounds
