import Playgrounds.Worker.Tally

/-!
# Metrics

* `Metrics` — what the service counts: the tally of the countdown workers and the playgrounds
  created.
* `Metrics.exposition` — the counts as a text for monitoring, one family after another by name.
-/

namespace Playgrounds

/-- The counts of the service. -/
structure Metrics where
  workers : Tally
  /-- How many playgrounds have been created. -/
  created : Nat
deriving DecidableEq, Repr

namespace Metrics

/-- The reasons to end in the order of their names. -/
def reasons : List Exit :=
  [.aborted, .cancelled, .expired, .sessionDeleted]

/-- The reasons for which workers have ended. -/
def seen (m : Metrics) : List (Exit × Nat) :=
  (reasons.map fun e => (e, m.workers.exits e)).filter fun (_, n) => n != 0

/-- The plain counts by name. -/
def plain (m : Metrics) : List (String × Nat) :=
  [("session_timer_workers_started_total", m.workers.started),
    ("session_timer_workers_active", m.workers.active),
    ("session_timer_events_total", m.workers.announced),
    ("session_timer_store_errors_total", m.workers.storeErrors),
    ("playgrounds_created_total", m.created)]

/-- A family of counts: its name, what it says, its kind, and its samples. -/
def family (name help kind : String) (samples : List (String × Nat)) : String :=
  samples.foldl (fun text (sample, n) => text ++ sample ++ " " ++ Decimal.text n ++ "\n")
    ("# HELP " ++ name ++ " " ++ help ++ "\n# TYPE " ++ name ++ " " ++ kind ++ "\n")

/-- A family of one count. -/
def single (name help kind : String) (n : Nat) : String :=
  family name help kind [(name, n)]

/-- The counts of ended workers by reason. -/
def exitFamily (m : Metrics) : String :=
  let name := "session_timer_exits_total"
  let sample (e : Exit) := name ++ "\x7breason=\"" ++ e.label ++ "\"\x7d"
  if m.seen.isEmpty then ""
  else family name
    "session countdown worker exits by reason (expired, session_deleted, cancelled, aborted)"
    "counter" (m.seen.map fun (e, n) => (sample e, n))

/-- The counts as a text for monitoring. -/
def exposition (m : Metrics) : String :=
  single "playgrounds_created_total" "playgrounds created or re-created" "counter" m.created
    ++ single "session_timer_events_total" "session timer events published" "counter"
      m.workers.announced
    ++ m.exitFamily
    ++ single "session_timer_store_errors_total"
      "transient storage failures seen by countdown workers" "counter" m.workers.storeErrors
    ++ single "session_timer_workers_active" "session countdown workers currently running" "gauge"
      m.workers.active
    ++ single "session_timer_workers_started_total" "session countdown workers launched" "counter"
      m.workers.started

end Metrics

end Playgrounds
