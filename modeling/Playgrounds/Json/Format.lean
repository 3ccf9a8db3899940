import Playgrounds.Instant.Reading
import Playgrounds.Instant.Writing
import Playgrounds.Json.Scan
import Playgrounds.Json.Value

/-!
# The JSON formats of values

A `Format` says how the values of a type are written and read. A text is read from left to right,
and its first fault decides.

* `Fault` — the two kinds of fault: a well written value that does not fit, or a text that is no
  JSON.
* `Format.text`, `Format.word`, `Format.instant`, … — single values.
* `Format.choice` — one of a few names.
* `Format.read`, `Format.readFirst` — a value from a whole text, or from the start of one.
* `Format.write` — the text of a value.
-/

namespace Playgrounds.Json

/-- Why a text was not read. -/
inductive Fault where
  /-- A well written value has the wrong kind, range or shape. -/
  | data
  /-- The text is no JSON, or ends too early. -/
  | malformed
deriving DecidableEq, Repr

/-- The fault of a value of an unexpected kind: it is read as far as needed to see its kind. -/
def mismatch : Node → Fault
  | .torn | .unreadable | .number .tooLarge => .malformed
  | _ => .data

/-- How the values of a type stand in JSON. -/
structure Format (α : Type) where
  toValue : α → Value
  ofNode : Node → Except Fault α

namespace Format

variable {α β : Type}

/-- The format of a type whose values correspond to those of another. -/
def along (f : Format α) (toInner : β → α) (ofInner : α → β) : Format β where
  toValue b := f.toValue (toInner b)
  ofNode n := (f.ofNode n).map ofInner

/-- Texts as strings. -/
def text : Format String where
  toValue := .text
  ofNode
    | .text s => .ok s
    | n => .error (mismatch n)

/-- Words of 64 bits as whole numbers. -/
def word : Format UInt64 where
  toValue := .word
  ofNode
    | .number (.word n) => .ok n
    | n => .error (mismatch n)

/-- Truth values. -/
def flag : Format Bool where
  toValue := .flag
  ofNode
    | .flag b => .ok b
    | n => .error (mismatch n)

/-- Instants as strings. -/
def instant : Format Instant where
  toValue t := .text t.text
  ofNode
    | .text s =>
      match Instant.read? s with
      | some t => .ok t
      | none => .error .data
    | n => .error (mismatch n)

/-- A value that may be absent, which is written as null. -/
def nullable (f : Format α) : Format (Option α) where
  toValue
    | some a => f.toValue a
    | none => .null
  ofNode
    | .null => .ok none
    | n => (f.ofNode n).map some

/-- Reads items in order. -/
def readItems (f : Format α) : List Node → Except Fault (List α)
  | [] => .ok []
  | n :: rest =>
    (f.ofNode n).bind fun a => (readItems f rest).map (a :: ·)

/-- Lists as arrays. -/
def list (f : Format α) : Format (List α) where
  toValue as := .array (as.map f.toValue)
  ofNode
    | .array items whole =>
      (readItems f items).bind fun as => if whole then .ok as else .error .malformed
    | n => .error (mismatch n)

/-- One of a few names: the name as a string, or an object with this one key and the value null. -/
def choice (all : List α) (name : α → String) : Format α where
  toValue a := .text (name a)
  ofNode
    | .text s => (all.find? (name · == s)).elim (.error .data) .ok
    | .object ((.text key, value) :: more) whole =>
      match all.find? (name · == key), value with
      | none, _ => .error .data
      | some a, .null => if more.isEmpty && whole then .ok a else .error .malformed
      | some _, n => .error (mismatch n)
    | .object ((n, _) :: _) _ => .error (mismatch n)
    | _ => .error .malformed

/-- The text of a value. -/
def write (f : Format α) (a : α) : String :=
  (f.toValue a).writing

/-- The value that a text begins with; what follows it is not looked at. -/
def readFirst (f : Format α) (b : List UInt8) : Except Fault α :=
  f.ofNode (scan b).1

/-- The value of a text, which only white space may follow. -/
def read (f : Format α) (b : List UInt8) : Except Fault α :=
  (f.readFirst b).bind fun a => if (scan b).2 then .ok a else .error .malformed

end Format

end Playgrounds.Json
