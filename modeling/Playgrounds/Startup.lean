import Playgrounds.Log.Filter
import Playgrounds.Service.Basic
import Playgrounds.Settings.Basic

/-!
# Starting the service

* `Startup.run` — sets the service up from its environment as far as it gets.
* `Startup.interrupt` — shuts a service down that is serving.
* `StartFailure.report` — what is said of a start that failed.
* `Startup.log` — the lines that are written.
-/

namespace Playgrounds

/-- Why the service did not start. -/
inductive StartFailure where
  | settings (e : InvalidAddress)
  /-- There is no default playground, and none could be made. -/
  | playground (r : Refusal)
  /-- Somebody listens on the address already. -/
  | address (a : Address)
deriving DecidableEq

namespace StartFailure

/-- What failed. -/
def what : StartFailure → String
  | settings e => e.message
  | playground _ => "failed to load or create the default playground"
  | address a => "failed to bind " ++ a.text

/-- Why it failed. A cause that has causes of its own is numbered. -/
def cause : StartFailure → String
  | settings _ => InvalidAddress.cause
  | playground (.store (.unreadable fault)) => "0: " ++ (Store.Failure.unreadable fault).text
  | playground r => r.message
  | address _ => "Address already in use (os error 98)"

/-- What is said of a start that failed, line by line. -/
def report (f : StartFailure) : List String :=
  ["Error: " ++ f.what, "", "Caused by:", "    " ++ f.cause]

end StartFailure

/-- How far a start got. -/
structure Startup where
  filter : Log.Filter
  /-- The service, unless its settings were refused. -/
  service : Option Service
  failure : Option StartFailure

namespace Startup

/-- A line of the service as a whole. -/
def line (level : Log.Level) (message : String) (values : List (String × String)) : Log.Line :=
  ⟨level, .service, message, values⟩

/-- The filter of a text, and the line that reports an invalid one. -/
def readFilter (text : String) : Log.Filter × List Log.Line :=
  match Log.Filter.read text with
  | .ok f => (f, [])
  | .error fault =>
    (Log.Filter.fallback, [⟨.warn, .logging, "invalid RUST_LOG filter; using info",
      [("filter", Text.quoted text), ("error", fault.text)]⟩])

/-- What is reported of the choice of a store. -/
def choiceLines : StoreChoice → List Log.Line
  | .memory => []
  | .server _ => [⟨.info, .storeChoice, "using redis store", []⟩]
  | .unreachable _ =>
    [⟨.warn, .storeChoice, "failed to init redis store; falling back to memory",
      [("error", "store error: Redis URL did not parse- InvalidClientConfig")]⟩]
  | .unnamed =>
    [⟨.warn, .storeChoice,
      "STORE_BACKEND=redis but REDIS_URL missing; falling back to in-memory", []⟩]

/-- The name of a kind of store in the log. -/
def backendName : Backend → String
  | .memory => "InMemory"
  | .server => "Redis"

/-- The names of tasks as a list. -/
def taskList (tasks : List Task) : String :=
  "[" ++ String.intercalate ", " (tasks.map fun t => Text.quoted t.name) ++ "]"

/-- The line that reports the start. -/
def startLine (settings : Settings) (p : Playground) (tasks : List Task) : Log.Line :=
  line .info "starting playground-road"
    [("addr", settings.address.text), ("store_backend", backendName settings.backend),
      ("redis", settings.storeUrl.getD "unset"), ("playground_id", p.id),
      ("playground_domain", p.domain),
      ("store_call_timeout_ms", Decimal.text settings.readLimitMs.toNat),
      ("tasks", taskList tasks)]

/-- The tasks of the service. -/
def tasks : List Task := [.countdown]

/-- Schedules what is stored; that it fails is only reported. -/
def scheduleStored (s : Service) : Service :=
  match s.scheduleExisting with
  | (.ok _, s) => s
  | (.error f, s) =>
    s.report (line .warn "failed to schedule existing instances" [("error", f.text)])

/-- The store of a choice. -/
def backing (serverAt : String → Store.Server) : StoreChoice → Store.Backing
  | .server url => .server (serverAt url)
  | _ => .memory .empty

/-- Sets the service up: its settings, its log, its store, the default playground, the stored
instances, the listener, and its address. -/
def run (env : Environment) (clock : Clock) (serverAt : String → Store.Server)
    (isTaken : Address → Bool) : Startup :=
  match Settings.ofEnvironment env with
  | .error e => ⟨Log.Filter.fallback, none, some (.settings e)⟩
  | .ok settings =>
    let (filter, filterLines) := readFilter settings.logFilter
    let choice := StoreChoice.of settings.backend settings.storeUrl
    let s := Service.start clock settings.readLimit? tasks (backing serverAt choice)
    let s := (filterLines ++ choiceLines choice).foldl Service.report s
    match Directory.ensure Service.host settings.domain settings.sessionSeconds s with
    | (.error r, s) => ⟨filter, some s, some (.playground r)⟩
    | (.ok p, s) =>
      let s := ((scheduleStored s).listen).report (startLine settings p tasks)
      if isTaken settings.address then ⟨filter, some s, some (.address settings.address)⟩
      else ⟨filter, some s.settle, none⟩

/-- Shuts a service down that is serving. -/
def interrupt (u : Startup) : Startup :=
  if u.failure.isSome then u
  else { u with service := u.service.map fun s =>
    (s.settle.report (line .info "shutdown requested" [])).shutDown }

/-- The lines that are written. -/
def log (u : Startup) : List Log.Line :=
  (u.service.map fun s => s.reports.reverse.filter u.filter.shows).getD []

end Startup

end Playgrounds
