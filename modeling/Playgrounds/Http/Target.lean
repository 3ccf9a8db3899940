import Playgrounds.Text.Hex
import Playgrounds.Text.Utf8

/-!
# Request targets

A target is a path and perhaps a query; a fragment is no part of either.

* `Target.of` — takes a target apart.
* `decoded` — bytes with their percent escapes resolved; an escape that is none stays as it is.
* `Target.pairs` — the names and values of a query.
-/

namespace Playgrounds.Http

/-- A request target. -/
structure Target where
  /-- The parts of the path after each of its slashes. -/
  segments : List (List UInt8)
  query : List UInt8
deriving DecidableEq, Repr

/-- The parts between the places where a byte stands. -/
def splitAt (mark : UInt8) (b : List UInt8) : List (List UInt8) :=
  let (part, parts) := b.foldr
    (fun c (part, parts) => if c = mark then ([], part :: parts) else (c :: part, parts)) ([], [])
  part :: parts

/-- Bytes with their percent escapes resolved. -/
def decoded : List UInt8 → List UInt8
  | [] => []
  | a :: rest =>
    if a = 37 then
      match rest with
      | b :: c :: after =>
        match Hex.value? b, Hex.value? c with
        | some high, some low => UInt8.ofNat (16 * high + low) :: decoded after
        | _, _ => a :: decoded (b :: c :: after)
      | short => a :: short
    else a :: decoded rest
termination_by b => b.length

/-- A name or value of a query as a text: a plus sign stands for a space. -/
def queryText (b : List UInt8) : String :=
  Text.lossy (decoded (b.map fun c => if c = 43 then 32 else c))

namespace Target

/-- Takes a target apart. -/
def of (target : String) : Target :=
  let b := (Text.bytes target).takeWhile (· ≠ 35)
  let path := b.takeWhile (· ≠ 63)
  ⟨(splitAt 47 path).drop 1, (b.drop path.length).drop 1⟩

/-- The names and values of the query in order. -/
def pairs (t : Target) : List (String × String) :=
  ((splitAt 38 t.query).filter (!·.isEmpty)).map fun part =>
    let name := part.takeWhile (· ≠ 61)
    (queryText name, queryText ((part.drop name.length).drop 1))

/-- The one value of a name in the query. -/
def only? (t : Target) (name : String) : Option String :=
  match t.pairs.filter (·.1 == name) with
  | [(_, value)] => some value
  | _ => none

end Target

end Playgrounds.Http
