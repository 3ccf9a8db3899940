import Std.Data.ExtTreeMap
import Std.Data.ExtTreeSet

/-!
# The key space of a store server

A store server keeps texts and sets of texts under keys. It names the members of a set in whatever
order it pleases, and not always in the same.

* `Entry` — what a key holds; `KeySpace` — the keys that hold something.
* `Command`, `Reply` — what the server is asked and what it answers.
* `Listing` — an order in which the members of sets are named, another for each answer.
* `KeySpace.run` — one command; a command that needs an entry of the other kind is refused.
* `KeySpace.runAll` — the commands of a transaction: each is run, whether or not others are refused.
-/

namespace Playgrounds.Store

/-- What a key holds. -/
inductive Entry where
  | text (s : String)
  | set (members : Std.ExtTreeSet String)

/-- The keys that hold something. -/
abbrev KeySpace := Std.ExtTreeMap String Entry

/-- An order in which the members of sets are named: each member once, and nothing else. -/
structure Listing where
  names : Std.ExtTreeSet String → List String
  perm : ∀ s, (names s).Perm s.toList

/-- Members are always named in alphabetical order. -/
def alphabetically : Nat → Listing := fun _ => ⟨(·.toList), fun _ => .refl _⟩

/-- A command to the server. -/
inductive Command where
  | get (key : String)
  | set (key value : String)
  | delete (key : String)
  | addMember (key member : String)
  | removeMember (key member : String)
  | members (key : String)
deriving DecidableEq, Repr

namespace Command

/-- The words of a command as they are sent. -/
def words : Command → List String
  | get key => ["GET", key]
  | set key value => ["SET", key, value]
  | delete key => ["DEL", key]
  | addMember key member => ["SADD", key, member]
  | removeMember key member => ["SREM", key, member]
  | members key => ["SMEMBERS", key]

/-- The command that the words spell. -/
def ofWords? : List String → Option Command
  | ["GET", key] => some (get key)
  | ["SET", key, value] => some (set key value)
  | ["DEL", key] => some (delete key)
  | ["SADD", key, member] => some (addMember key member)
  | ["SREM", key, member] => some (removeMember key member)
  | ["SMEMBERS", key] => some (members key)
  | _ => none

/-- The words of a command spell it. -/
@[simp] theorem ofWords?_words (c : Command) : ofWords? c.words = some c := by
  cases c <;> rfl

/-- The name of a command. -/
def name (c : Command) : String :=
  c.words.headD ""

/-- The orders for the next answers, once a command has been run. To ask for members takes one. -/
def later : Command → (Nat → Listing) → Nat → Listing
  | members _, orders => fun n => orders (n + 1)
  | get _, orders | set _ _, orders | delete _, orders | addMember _ _, orders
  | removeMember _ _, orders => orders

/-- The orders for the next answers, once several commands have been run. -/
def laterAll (cs : List Command) (orders : Nat → Listing) : Nat → Listing :=
  cs.foldl (fun orders c => c.later orders) orders

end Command

/-- The refusal of a command: a code word and what else there is to say. -/
structure ErrorReply where
  line : String
deriving DecidableEq, Repr

namespace ErrorReply

/-- The refusal of a command that needs an entry of the other kind. -/
def wrongKind : ErrorReply :=
  ⟨"WRONGTYPE Operation against a key holding the wrong kind of value"⟩

/-- The code word of a refusal. -/
def code (e : ErrorReply) : String :=
  String.ofList (e.line.toList.takeWhile (· ≠ ' '))

/-- What follows the code word, if anything does. -/
def detail? (e : ErrorReply) : Option String :=
  match e.line.toList.dropWhile (· ≠ ' ') with
  | _ :: rest => some (String.ofList rest)
  | [] => none

/-- What is reported of a refusal. -/
def text (e : ErrorReply) : String :=
  if e.code = "ERR" then
    "An error was signalled by the server - ResponseError"
      ++ (e.detail?.map (": " ++ ·)).getD ""
  else e.code ++ ": " ++ e.detail?.getD "Unknown extension error encountered"

end ErrorReply

/-- The answer to a command. -/
inductive Reply where
  | ok
  /-- How many entries or members were added or removed. -/
  | count (n : Nat)
  | text (s : Option String)
  | members (names : List String)
  | error (e : ErrorReply)
deriving DecidableEq, Repr

namespace KeySpace

/-- Puts a set under a key; an empty set is no entry. -/
def putSet (k : KeySpace) (key : String) (members : Std.ExtTreeSet String) : KeySpace :=
  if members.isEmpty then k.erase key else k.insert key (.set members)

/-- The set under a key, which is empty where the key holds nothing. -/
def set? (k : KeySpace) (key : String) : Option (Std.ExtTreeSet String) :=
  match k[key]? with
  | none => some ∅
  | some (.set members) => some members
  | some (.text _) => none

/-- Runs one command. Members are named in the order that is given. -/
def run (order : Listing) : Command → KeySpace → Reply × KeySpace
  | .get key, k =>
    match k[key]? with
    | none => (.text none, k)
    | some (.text s) => (.text (some s), k)
    | some (.set _) => (.error .wrongKind, k)
  | .set key value, k => (.ok, k.insert key (.text value))
  | .delete key, k => (.count (if key ∈ k then 1 else 0), k.erase key)
  | .addMember key member, k =>
    match k.set? key with
    | none => (.error .wrongKind, k)
    | some s => (.count (if member ∈ s then 0 else 1), k.putSet key (s.insert member))
  | .removeMember key member, k =>
    match k.set? key with
    | none => (.error .wrongKind, k)
    | some s => (.count (if member ∈ s then 1 else 0), k.putSet key (s.erase member))
  | .members key, k =>
    match k.set? key with
    | none => (.error .wrongKind, k)
    | some s => (.members (order.names s), k)

/-- Runs the commands of a transaction one after another. -/
def runAll : (Nat → Listing) → List Command → KeySpace → List Reply × KeySpace
  | _, [], k => ([], k)
  | orders, c :: cs, k =>
    let (reply, k) := run (orders 0) c k
    let (replies, k) := runAll (c.later orders) cs k
    (reply :: replies, k)

end KeySpace

end Playgrounds.Store
