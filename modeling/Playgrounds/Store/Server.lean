import Playgrounds.Store.Dialogue
import Playgrounds.Text.Decimal

/-!
# A store server under observation

`Server` is a key space whose server writes down what it receives, and which can be armed to refuse
a command.

* `Server.exec`, `Server.transact` — one command, and a transaction.
* `Server.talk` — a whole dialogue, with what it reports.
* `Reply.wire` — an answer as it is sent.
-/

namespace Playgrounds.Store

/-- A store server. -/
structure Server where
  entries : KeySpace
  /-- The refusals that wait for the next command of a name, the oldest first. -/
  armed : List (String × ErrorReply)
  /-- The commands received, the latest first. -/
  received : List (List String)
  /-- The orders in which it will name the members of sets, one for each time that it is asked. -/
  orders : Nat → Listing

namespace Server

/-- A server that holds nothing and will name members in these orders. -/
def new (orders : Nat → Listing) : Server := ⟨∅, [], [], orders⟩

/-- A server that holds nothing and names members in alphabetical order. -/
def empty : Server := new alphabetically

/-- Writes down a command. -/
def receive (s : Server) (words : List String) : Server :=
  { s with received := words :: s.received }

/-- The refusal that waits for the command, if one does. It is spent. -/
def disarm? (s : Server) (name : String) : Option (ErrorReply × Server) :=
  (s.armed.find? (·.1 == name)).map fun (_, e) =>
    (e, { s with armed := s.armed.eraseP (·.1 == name) })

/-- Runs a command that has been received. -/
def perform (s : Server) (c : Command) : Reply × Server :=
  match s.disarm? c.name with
  | some (e, s) => (.error e, s)
  | none =>
    let (reply, entries) := KeySpace.run (s.orders 0) c s.entries
    (reply, { s with entries, orders := c.later s.orders })

/-- Runs one command. -/
def exec (s : Server) (c : Command) : Reply × Server :=
  (s.receive c.words).perform c

/-- Runs the commands of a transaction, which have been received. -/
def performAll (s : Server) : List Command → List Reply × Server
  | [] => ([], s)
  | c :: cs =>
    let (reply, s) := s.perform c
    let (replies, s) := s.performAll cs
    (reply :: replies, s)

/-- Runs a transaction. It may be refused as a whole, and then no command of it is run. -/
def transact (s : Server) (cs : List Command) : Except ErrorReply (List Reply) × Server :=
  let received := (["MULTI"] :: cs.map Command.words) ++ [["EXEC"]]
  let s := received.foldl receive s
  match (s.disarm? "MULTI").or (s.disarm? "EXEC") with
  | some (e, s) => (.error e, s)
  | none =>
    let (replies, s) := s.performAll cs
    (.ok replies, s)

/-- A whole dialogue, and what it reports in order. -/
def talk {α : Type} : Dialogue α → Server → (α × List Skipped) × Server
  | .done a, s => ((a, []), s)
  | .send c next, s =>
    let (reply, s) := s.exec c
    talk (next reply) s
  | .transact cs next, s =>
    let (replies, s) := s.transact cs
    talk (next replies) s
  | .report skipped next, s =>
    let ((a, more), s) := talk next s
    ((a, skipped :: more), s)

end Server

/-- A text after its length. -/
def Reply.bulk (s : String) : String :=
  "$" ++ Decimal.text s.utf8ByteSize ++ "\r\n" ++ s ++ "\r\n"

/-- An answer as it is sent. -/
def Reply.wire : Reply → String
  | .ok => "+OK\r\n"
  | .count n => ":" ++ Decimal.text n ++ "\r\n"
  | .text none => "$-1\r\n"
  | .text (some s) => bulk s
  | .members names =>
    names.foldl (fun text name => text ++ bulk name) ("*" ++ Decimal.text names.length ++ "\r\n")
  | .error e => "-" ++ e.line ++ "\r\n"

end Playgrounds.Store
