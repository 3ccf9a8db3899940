import Playgrounds.Json.Format

/-!
# Records in JSON

A record is written as an object of its fields in order. It is read from an object with its fields
in any order, or from an array of its fields in order.

* In an object, members of other names are passed over if they are well written. A field that
  comes twice does not fit, nor does an object that ends without a field that has no default.
* In an array, fields that have a default may be left out at the end. Items past the last field
  make the text malformed.

`Fields.format` is the format of the values of such a record.
-/

namespace Playgrounds.Json

/-- A field of a record. -/
structure Field (α : Type) where
  name : String
  format : Format α
  /-- The value of a field that is left out, if it may be. -/
  default? : Option α

/-- The fields of a record in order, with the types of their values. -/
inductive Fields : List Type → Type 1 where
  | nil : Fields []
  | cons {α : Type} {types : List Type} (field : Field α) (rest : Fields types) :
    Fields (α :: types)

/-- One value of each type. -/
def Row : List Type → Type
  | [] => Unit
  | α :: types => α × Row types

/-- At most one value of each type: the fields of a record that have been read. -/
def Slots : List Type → Type
  | [] => Unit
  | α :: types => Option α × Slots types

namespace Fields

/-- No field has been read. -/
def unread : {types : List Type} → Fields types → Slots types
  | _, nil => ()
  | _, cons _ rest => (none, rest.unread)

/-- Reads the member `key` into its field; `none` if no field has this name. -/
def put? : {types : List Type} → Fields types → String → Node → Slots types →
    Option (Except Fault (Slots types))
  | _, nil, _, _, _ => none
  | _, cons field rest, key, value, (slot, slots) =>
    if field.name = key then
      some (match slot with
        | some _ => .error .data
        | none => (field.format.ofNode value).map fun a => (some a, slots))
    else (rest.put? key value slots).map fun read => read.map fun slots => (slot, slots)

/-- Reads the members of an object in order. -/
def readMembers {types : List Type} (fields : Fields types) :
    List (Node × Node) → Slots types → Except Fault (Slots types)
  | [], slots => .ok slots
  | (.text key, value) :: rest, slots =>
    match fields.put? key value slots with
    | some read => read.bind (readMembers fields rest)
    | none => if value.isSound then readMembers fields rest slots else .error .malformed
  | _ :: _, _ => .error .malformed

/-- The values of a record, with the defaults of the fields that were not read. -/
def complete : {types : List Type} → Fields types → Slots types → Except Fault (Row types)
  | _, nil, () => .ok ()
  | _, cons field rest, (slot, slots) =>
    match slot.or field.default? with
    | some a => (rest.complete slots).map fun row => (a, row)
    | none => .error .data

/-- Reads the items of an array as the fields in order. -/
def readItems : {types : List Type} → Fields types → List Node → (whole : Bool) →
    Except Fault (Row types)
  | _, nil, items, whole => if items.isEmpty && whole then .ok () else .error .malformed
  | _, cons field rest, [], whole =>
    if whole then
      match field.default? with
      | some a => (rest.readItems [] whole).map fun row => (a, row)
      | none => .error .data
    else .error .malformed
  | _, cons field rest, item :: items, whole =>
    (field.format.ofNode item).bind fun a =>
      (rest.readItems items whole).map fun row => (a, row)

/-- The members of a record as they are written. -/
def toMembers : {types : List Type} → Fields types → Row types → List (String × Value)
  | _, nil, () => []
  | _, cons field rest, (a, row) => (field.name, field.format.toValue a) :: rest.toMembers row

/-- The format of a record with these fields. -/
def format {types : List Type} (fields : Fields types) : Format (Row types) where
  toValue row := .object (fields.toMembers row)
  ofNode
    | .object members whole =>
      (fields.readMembers members fields.unread).bind fun slots =>
        if whole then fields.complete slots else .error .malformed
    | .array items whole => fields.readItems items whole
    | n => .error (mismatch n)

end Fields

end Playgrounds.Json
