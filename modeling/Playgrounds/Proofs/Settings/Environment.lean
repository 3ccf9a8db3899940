import Playgrounds.Proofs.Settings.Address
import Playgrounds.Settings.Basic

/-!
# Settings come back from the environment that spells them

Settings can be written down as an environment again, one variable for each, in the one canonical
spelling that an address or a number has. Read again they are what they were, however loosely they
were spelled at first and whatever was filled in for what was unset.

* `Settings.environment` — the environment that spells some settings.
* `Settings.ofEnvironment_environment` — which settings come back.
* `Settings.reread_as_they_are` — those of any environment do, and which environments have none.
-/

namespace Playgrounds

/-- The name of a kind of store. -/
def Backend.name : Backend → String
  | memory => "memory"
  | server => "redis"

namespace Settings

/-! ## Single settings -/

/-- A number is read from its digits. -/
theorem word?_text (n : UInt64) : word? (Decimal.text n.toNat) = some n := by
  -- No sign stands in front of the digits.
  have plain : ∀ ds, Decimal.digits n.toNat ≠ '+' :: ds := by
    intro ds written
    have digit := Decimal.isDigit_of_mem_digits n.toNat '+' (by simp [written])
    exact nomatch digit
  simp only [word?, Decimal.text, String.toList_ofList, Decimal.number?_digits, Option.bind_some,
    if_pos n.toNat_lt_size, UInt64.ofNat_toNat]

/-- A kind of store is read from its name. -/
theorem ite_name (b : Backend) :
    (if some b.name = some "redis" then Backend.server else .memory) = b := by
  cases b <;> decide

theorem nonempty?_eq_some {s : String} (some : s ≠ "") : nonempty? s = .some s := by
  simp [nonempty?, some]

/-- An empty setting counts as none. -/
theorem ne_empty_of_nonempty? {s t : String} (found : nonempty? s = some t) : t ≠ "" := by
  rintro rfl
  simp [nonempty?] at found

/-! ## All settings -/

/-- The environment that spells the settings. -/
def environment (s : Settings) : Environment
  | "PLAYGROUND_ROAD_ADDR" => some s.address.text
  | "RUST_LOG" => some s.logFilter
  | "STORE_BACKEND" => some s.backend.name
  | "REDIS_URL" => s.storeUrl
  | "PLAYGROUND_DOMAIN" => some s.domain
  | "DEFAULT_SESSION_DURATION_SECS" => some (Decimal.text s.sessionSeconds.toNat)
  | "STORE_CALL_TIMEOUT_MS" => some (Decimal.text s.readLimitMs.toNat)
  | _ => none

/-- What the environment says of each setting. -/
theorem environment_apply (s : Settings) :
    s.environment "PLAYGROUND_ROAD_ADDR" = some s.address.text ∧
      s.environment "RUST_LOG" = some s.logFilter ∧
      s.environment "STORE_BACKEND" = some s.backend.name ∧
      s.environment "REDIS_URL" = s.storeUrl ∧
      s.environment "PLAYGROUND_DOMAIN" = some s.domain ∧
      s.environment "DEFAULT_SESSION_DURATION_SECS"
        = some (Decimal.text s.sessionSeconds.toNat) ∧
      s.environment "STORE_CALL_TIMEOUT_MS" = some (Decimal.text s.readLimitMs.toNat) :=
  ⟨rfl, rfl, rfl, rfl, rfl, rfl, rfl⟩

/-- Settings come back unless an empty text, which counts as unset, is among them. -/
theorem ofEnvironment_environment {s : Settings} (domain : s.domain ≠ "")
    (storeUrl : s.storeUrl ≠ some "") : ofEnvironment s.environment = .ok s := by
  have url : s.storeUrl.bind nonempty? = s.storeUrl := by
    cases given : s.storeUrl with
    | none => rfl
    | some url => exact nonempty?_eq_some fun empty => storeUrl (empty ▸ given)
  obtain ⟨address, filter, backend, storeUrl, domain', seconds, limit⟩ := s.environment_apply
  simp only [ofEnvironment, address, filter, backend, storeUrl, domain', seconds, limit,
    Option.getD_some, Address.read?_text, Option.bind_some, word?_text, nonempty?_eq_some domain,
    url, ite_name]

/-- The default address is an address. -/
theorem read?_defaultAddress : Address.read? defaultAddress = some (.v4 0 0 0 0 8080) := by
  decide

/-- Only an address that cannot be read is refused. -/
theorem ofEnvironment_eq_error_iff {env : Environment} {e : InvalidAddress} :
    ofEnvironment env = .error e ↔
      env "PLAYGROUND_ROAD_ADDR" = some e.value ∧ Address.read? e.value = none := by
  obtain ⟨value⟩ := e
  rw [ofEnvironment]
  cases given : env "PLAYGROUND_ROAD_ADDR" with
  -- Without an address in the environment the default is read, which is one.
  | none => simp [read?_defaultAddress]
  | some text =>
      cases read : Address.read? text with
      | none =>
          simp [read]
          rintro rfl
          exact read
      | some a =>
          simp [read]
          rintro rfl
          simp [read]

/-- An empty text counts as unset, so that none is among the settings of an environment. -/
theorem nonempty_of_ofEnvironment {env : Environment} {s : Settings}
    (found : ofEnvironment env = .ok s) : s.domain ≠ "" ∧ s.storeUrl ≠ some "" := by
  have parts : s.domain = ((env "PLAYGROUND_DOMAIN").bind nonempty?).getD defaultDomain ∧
      s.storeUrl = (env "REDIS_URL").bind nonempty? := by
    rw [ofEnvironment] at found
    cases read : Address.read? ((env "PLAYGROUND_ROAD_ADDR").getD defaultAddress) with
    | none => simp [read] at found
    | some a =>
        simp only [read, Except.ok.injEq] at found
        exact found ▸ ⟨rfl, rfl⟩
  -- What counts as given is not empty.
  have given : ∀ name : String, ∀ text, (env name).bind nonempty? = some text → text ≠ "" := by
    intro name text found
    obtain ⟨value, -, read⟩ := Option.bind_eq_some_iff.mp found
    exact ne_empty_of_nonempty? read
  obtain ⟨domain, storeUrl⟩ := parts
  refine ⟨?_, fun empty => given "REDIS_URL" "" (storeUrl ▸ empty) rfl⟩
  rw [domain]
  cases found : (env "PLAYGROUND_DOMAIN").bind nonempty? with
  | none => exact (by decide : defaultDomain ≠ "")
  | some text => exact given "PLAYGROUND_DOMAIN" text found

/-- **SETTINGS ARE REREAD AS THEY ARE.** The settings that an environment leads to, written down as
an environment, lead to the same settings again. An environment is refused exactly if an address is
given that cannot be read, whatever its other variables hold. -/
theorem reread_as_they_are (env : Environment) :
    (∀ s, ofEnvironment env = .ok s → ofEnvironment s.environment = .ok s) ∧
      ∀ e, ofEnvironment env = .error e ↔
        env "PLAYGROUND_ROAD_ADDR" = some e.value ∧ Address.read? e.value = none := by
  refine ⟨fun s found => ?_, fun e => ofEnvironment_eq_error_iff⟩
  obtain ⟨domain, storeUrl⟩ := nonempty_of_ofEnvironment found
  exact ofEnvironment_environment domain storeUrl

end Settings

end Playgrounds
