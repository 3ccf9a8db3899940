import Playgrounds.Record.Playground
import Playgrounds.Settings.Address
import Playgrounds.Settings.StoreUrl

/-!
# Settings

The service is set up from its environment. A number that cannot be read counts as unset; only an
address that cannot be read is refused.

* `Environment` — the variables that are set.
* `Settings.ofEnvironment` — the settings of an environment.
* `StoreChoice.of` — the store that the settings lead to; a server that cannot be named gives way
  to the store in memory.
-/

namespace Playgrounds

/-- The values of the variables that are set. -/
abbrev Environment := String → Option String

/-- The kinds of store. -/
inductive Backend where
  | memory
  | server
deriving DecidableEq, Repr

/-- The settings of the service. -/
structure Settings where
  address : Address
  logFilter : String
  backend : Backend
  storeUrl : Option String
  domain : String
  sessionSeconds : UInt64
  /-- The longest that a read of the store may take, in milliseconds; zero for any time. -/
  readLimitMs : UInt64
deriving DecidableEq

/-- An address that cannot be read. -/
structure InvalidAddress where
  value : String
deriving DecidableEq, Repr

namespace InvalidAddress

/-- Why an address cannot be read. -/
def cause : String := "invalid socket address syntax"

/-- What is reported of an address that cannot be read. -/
def message (e : InvalidAddress) : String :=
  "PLAYGROUND_ROAD_ADDR=" ++ e.value ++ " is not a socket address: " ++ cause

end InvalidAddress

namespace Settings

/-- A number of 64 bits, with an optional plus sign. -/
def word? (s : String) : Option UInt64 :=
  let digits := match s.toList with
    | '+' :: ds => ds
    | ds => ds
  (Decimal.number? digits).bind fun n => if n < UInt64.size then some (UInt64.ofNat n) else none

/-- A value that is not empty. -/
def nonempty? (s : String) : Option String :=
  if s.isEmpty then none else some s

/-- The address used where none is given. -/
def defaultAddress : String := "0.0.0.0:8080"

/-- The log filter used where none is given. -/
def defaultLogFilter : String := "info,playground_road=debug"

/-- The domain served where none is given. -/
def defaultDomain : String := "localhost"

/-- The limit of a read where none is given, in milliseconds. -/
def defaultReadLimitMs : UInt64 := 5000

/-- The settings that an environment leads to. -/
def ofEnvironment (env : Environment) : Except InvalidAddress Settings :=
  let address := (env "PLAYGROUND_ROAD_ADDR").getD defaultAddress
  match Address.read? address with
  | none => .error ⟨address⟩
  | some address => .ok {
      address
      logFilter := (env "RUST_LOG").getD defaultLogFilter
      backend := if env "STORE_BACKEND" = some "redis" then .server else .memory
      storeUrl := (env "REDIS_URL").bind nonempty?
      domain := ((env "PLAYGROUND_DOMAIN").bind nonempty?).getD defaultDomain
      sessionSeconds :=
        ((env "DEFAULT_SESSION_DURATION_SECS").bind word?).getD defaultSessionSeconds
      readLimitMs := ((env "STORE_CALL_TIMEOUT_MS").bind word?).getD defaultReadLimitMs }

/-- The longest that a read of the store may take, in milliseconds, if there is a limit. -/
def readLimit? (s : Settings) : Option Nat :=
  if s.readLimitMs = 0 then none else some s.readLimitMs.toNat

end Settings

/-- How the store came to be chosen. -/
inductive StoreChoice where
  | memory
  | server (url : String)
  /-- The URL names no store server, so that the store in memory is used. -/
  | unreachable (url : String)
  /-- A store server is asked for but not named, so that the store in memory is used. -/
  | unnamed
deriving DecidableEq, Repr

namespace StoreChoice

/-- The choice for a kind of store and a URL. -/
def of : Backend → Option String → StoreChoice
  | .memory, _ => memory
  | .server, none => unnamed
  | .server, some url => if StoreUrl.accepts url then server url else unreachable url

/-- The kind of store that is used. -/
def backend : StoreChoice → Backend
  | server _ => .server
  | _ => .memory

end StoreChoice

end Playgrounds
