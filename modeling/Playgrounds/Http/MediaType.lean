/-!
# Media types

* `MediaType.read?` — reads a media type with its parameters.
* `MediaType.isJson` — whether bodies of this type are JSON.
-/

namespace Playgrounds.Http

/-- A media type, in lower case, without its parameters. -/
structure MediaType where
  type : List Char
  subtype : List Char
  /-- What follows the last plus sign of the subtype. -/
  suffix : Option (List Char)
deriving DecidableEq, Repr

namespace MediaType

/-- A character that names may have. -/
def isToken (c : Char) : Bool :=
  c.isAlphanum || "!#$%&\x27*+-.^_\x60|~".toList.contains c

/-- A character that a quoted value may have. -/
def isQuotable (c : Char) : Bool :=
  32 ≤ c.toNat && c.toNat < 127

/-- What a reader of parameters expects. -/
inductive Expect where
  /-- A name, with blanks in front of it. -/
  | name
  | inName
  | value
  | inValue
  /-- The first character of a quoted value, which may be any. -/
  | quoted
  | inQuoted
  | afterQuoted
deriving DecidableEq, Repr

/-- One more character of the parameters. -/
def next? (e : Expect) (c : Char) : Option Expect :=
  match e with
  | .name => if c = ' ' then some .name else if isToken c then some .inName else none
  | .inName => if c = '=' then some .value else if isToken c then some .inName else none
  | .value => if c = '"' then some .quoted else if isToken c then some .inValue else none
  | .inValue => if c = ';' then some .name else if isToken c then some .inValue else none
  | .quoted => if isQuotable c then some .inQuoted else none
  | .inQuoted =>
    if c = '"' then some .afterQuoted else if isQuotable c then some .inQuoted else none
  | .afterQuoted => if c = ';' then some .name else if c = ' ' then some .afterQuoted else none

/-- Whether parameters may end here. A last value may be missing. -/
def mayEnd : Expect → Bool
  | .name | .value | .inValue | .afterQuoted => true
  | _ => false

/-- Whether the characters are parameters. -/
def areParameters (cs : List Char) : Bool :=
  ((cs.foldlM next? .name).map mayEnd).getD false

/-- The subtype and its suffix. -/
def splitSuffix (name : List Char) : List Char × Option (List Char) :=
  let suffix := (name.reverse.takeWhile (· ≠ '+')).reverse
  let front := name.take (name.length - suffix.length - 1)
  if suffix.length = name.length ∨ front.isEmpty then (name, none) else (front, some suffix)

/-- Reads a media type. -/
def read? (s : String) : Option MediaType :=
  let cs := s.toList
  let type := cs.takeWhile isToken
  match cs.drop type.length with
  | '/' :: rest =>
    let name := rest.takeWhile isToken
    let isSound := match rest.drop name.length with
      | [] => true
      | ';' :: parameters => !name.isEmpty && areParameters parameters
      | _ => false
    if type.isEmpty || !isSound then none
    else
      let (subtype, suffix) := splitSuffix (name.map Char.toLower)
      some ⟨type.map Char.toLower, subtype, suffix⟩
  | _ => none

/-- Whether bodies of this type are JSON. -/
def isJson (t : MediaType) : Bool :=
  let json := "json".toList
  t.type = "application".toList && (t.subtype = json || t.suffix = some json)

end MediaType

end Playgrounds.Http
