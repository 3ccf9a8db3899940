import Playgrounds.Startup

/-!
# The program

The service is set up from the environment of the process. It takes requests from its standard
input, one a line: a method, a target and, for a creation, a body in JSON. It answers each with the
status and the body, and shuts down where the input ends.

There is no network here: the address is never taken, and a store server is a key space of the
process itself.
-/

namespace Playgrounds.Program

/-- The variables that the service looks at. -/
def settingNames : List String :=
  ["PLAYGROUND_ROAD_ADDR", "RUST_LOG", "REDIS_URL", "STORE_BACKEND", "PLAYGROUND_DOMAIN",
    "DEFAULT_SESSION_DURATION_SECS", "STORE_CALL_TIMEOUT_MS"]

/-- The request that a line makes. -/
def requestOf (line : String) : Http.Request :=
  let word (cs : List Char) : List Char × List Char :=
    let w := cs.takeWhile (· ≠ ' ')
    (w, (cs.drop w.length).drop 1)
  let (method, rest) := word line.toList
  let (target, body) := word rest
  ⟨String.ofList method, String.ofList target, [("content-type", "application/json")],
    Text.bytes (String.ofList body), false⟩

/-- The line that shows an answer. -/
def answerLine : Http.Answer → String
  | .response r => Decimal.text r.status ++ " " ++ r.body
  | .socket t => "101 " ++ t.sessionId

/-- Answers requests until the input ends. -/
partial def serve (input : IO.FS.Stream) (s : Service) : IO Service := do
  let line ← input.getLine
  if line.isEmpty then return s
  else
    let (answer, s) := s.answer (requestOf (Text.trim line))
    IO.println (answerLine answer)
    serve input s.settle

end Playgrounds.Program

open Playgrounds Program in
/-- Runs the service until its input ends. -/
def main : IO UInt32 := do
  let set ← settingNames.mapM fun name => return (name, ← IO.getEnv name)
  let env : Environment := fun name => (set.lookup name).join
  let started := Startup.run env (.running .epoch) (fun _ => .empty) (fun _ => false)
  for l in started.log do
    IO.println l.text
  match started.service, started.failure with
  | some s, none =>
    let s ← serve (← IO.getStdin) { s with reports := [] }
    for l in ({ started with service := some s } : Startup).interrupt.log do
      IO.println l.text
    return 0
  | _, some f =>
    for l in f.report do
      IO.eprintln l
    return 1
  | none, none => return 1
