import Playgrounds.Json.Node
import Playgrounds.Text.Utf8
import Playgrounds.Text.Hex

/-!
# Scanning JSON

One pass over the bytes of a text builds the `Node` that it spells. The scanner takes one byte at a
time and holds the containers that are still open in a list, so that values may nest to any depth.

* `Scan` — what is expected next, and the open containers.
* `Scan.next` — one more byte.
* `scan` — the value of a text, and whether nothing but white space follows it.
-/

namespace Playgrounds.Json

/-- A string being read: the bytes of its text in reverse, unless it spells none, and the first
half of a surrogate pair whose second half is due. -/
structure Spelling where
  content : Option (List UInt8)
  half : Option Nat

namespace Spelling

/-- The string of which nothing has been read. -/
def empty : Spelling := ⟨some [], none⟩

/-- One more byte that stands for itself. -/
def push (s : Spelling) (b : UInt8) : Spelling :=
  match s.half with
  | some _ => ⟨none, none⟩
  | none => ⟨s.content.map (b :: ·), none⟩

/-- One more character. -/
def pushChar (s : Spelling) (code : Nat) : Spelling :=
  ⟨s.content.map ((Text.bytes (String.singleton (Char.ofNat code))).reverse ++ ·), none⟩

/-- One more UTF-16 unit. The two halves of a surrogate pair make one character; a half that
stands alone spells nothing. -/
def pushUnit (s : Spelling) (unit : Nat) : Spelling :=
  let low := 0xDC00 ≤ unit && unit ≤ 0xDFFF
  match s.half with
  | some high =>
    if low then s.pushChar (0x10000 + (high - 0xD800) * 0x400 + (unit - 0xDC00)) else ⟨none, none⟩
  | none =>
    if low then ⟨none, none⟩
    else if 0xD800 ≤ unit && unit ≤ 0xDBFF then ⟨s.content, some unit⟩
    else s.pushChar unit

/-- The string at its closing quote. -/
def close (s : Spelling) : Node :=
  match s.half, s.content with
  | none, some reversed =>
    match Text.text? reversed.reverse with
    | some t => .text t
    | none => .unreadable
  | _, _ => .unreadable

end Spelling

/-- Where in a string the scanner stands. -/
inductive InString where
  | plain
  | escape
  /-- In a `\u` escape, with so many digits to come and the value of those read. -/
  | unit (due : Nat) (value : Nat)

/-- A container that is still open, with what it holds so far in reverse. -/
inductive Frame where
  | array (items : List Node)
  | object (members : List (Node × Node))
  /-- An object in which the value of `key` is due. -/
  | entry (members : List (Node × Node)) (key : Node)
  /-- An object in which some other value stands where a key was due. -/
  | stray (members : List (Node × Node))

/-- What the scanner expects next. -/
inductive Expect where
  | value
  | firstItem
  | firstKey
  | key
  | colon
  /-- A value has ended within a container. -/
  | next
  | literal (left : List UInt8) (value : Node)
  | number (n : Numeral)
  | string (isKey : Bool) (spelling : Spelling) (place : InString)
  /-- The value has ended, or its text is at fault. -/
  | over (value : Node) (clean : Bool)

/-- The scanner. -/
structure Scan where
  expect : Expect
  frames : List Frame

namespace Scan

/-- White space between the parts of a text. -/
def isSpace (b : UInt8) : Bool :=
  b = 32 || b = 9 || b = 10 || b = 13

/-- The whole value, when `part` is what there is of its innermost open part and nothing more
comes. -/
def enclose (part : Node) : List Frame → Node
  | [] => part
  | .array items :: rest => enclose (.array (part :: items).reverse false) rest
  | .object members :: rest => enclose (.object ((part, .torn) :: members).reverse false) rest
  | .entry members key :: rest => enclose (.object ((key, part) :: members).reverse false) rest
  | .stray members :: rest => enclose (.object ((part, .torn) :: members).reverse false) rest

/-- The end of a text that is at fault in what `part` is there of its innermost open part. -/
def tear (part : Node) (frames : List Frame) : Scan :=
  ⟨.over (enclose part frames) false, []⟩

/-- A value has ended: it goes to the innermost open container. -/
def deliver (value : Node) : List Frame → Scan
  | [] => ⟨.over value true, []⟩
  | .array items :: rest => ⟨.next, .array (value :: items) :: rest⟩
  | .entry members key :: rest => ⟨.next, .object ((key, value) :: members) :: rest⟩
  | frames => tear value frames

/-- The fault of a text in which neither a comma nor the closing bracket follows a value. -/
def breakOff : List Frame → Scan
  | .array items :: rest => tear (.array items.reverse false) rest
  | .object members :: rest => tear (.object members.reverse false) rest
  | frames => tear .torn frames

/-- The first byte of a value. -/
def openValue (b : UInt8) (frames : List Frame) : Scan :=
  if b = 34 then ⟨.string false .empty .plain, frames⟩
  else if b = 91 then ⟨.firstItem, .array [] :: frames⟩
  else if b = 123 then ⟨.firstKey, .object [] :: frames⟩
  else if b = 110 then ⟨.literal [117, 108, 108] .null, frames⟩
  else if b = 116 then ⟨.literal [114, 117, 101] (.flag true), frames⟩
  else if b = 102 then ⟨.literal [97, 108, 115, 101] (.flag false), frames⟩
  else
    match Numeral.start? b with
    | some n => ⟨.number n, frames⟩
    | none => tear .torn frames

/-- The first byte of a key. -/
def openKey (b : UInt8) (frames : List Frame) : Scan :=
  if b = 34 then ⟨.string true .empty .plain, frames⟩
  else
    match frames with
    | .object members :: rest => openValue b (.stray members :: rest)
    | _ => tear .torn frames

/-- A byte after a value within a container. -/
def afterValue (b : UInt8) (frames : List Frame) : Scan :=
  match frames with
  | .array items :: rest =>
    if b = 44 then ⟨.value, frames⟩
    else if b = 93 then deliver (.array items.reverse true) rest
    else breakOff frames
  | .object members :: rest =>
    if b = 44 then ⟨.key, frames⟩
    else if b = 125 then deliver (.object members.reverse true) rest
    else breakOff frames
  | _ => breakOff frames

/-- A byte after a number that it does not belong to. -/
def afterScalar (value : Node) (b : UInt8) (frames : List Frame) : Scan :=
  match deliver value frames with
  | ⟨.next, frames⟩ => if isSpace b then ⟨.next, frames⟩ else afterValue b frames
  | ⟨.over node clean, frames⟩ => ⟨.over node (clean && isSpace b), frames⟩
  | other => other

/-- The closing quote of a string. -/
def closeString (isKey : Bool) (spelling : Spelling) (frames : List Frame) : Scan :=
  if isKey then
    match frames with
    | .object members :: rest => ⟨.colon, .entry members spelling.close :: rest⟩
    | _ => tear .torn frames
  else deliver spelling.close frames

/-- The character that a one-letter escape stands for. -/
def escaped? (b : UInt8) : Option UInt8 :=
  if b = 34 || b = 92 || b = 47 then some b
  else if b = 98 then some 8
  else if b = 102 then some 12
  else if b = 110 then some 10
  else if b = 114 then some 13
  else if b = 116 then some 9
  else none

/-- A byte within a string. -/
def inString (isKey : Bool) (s : Spelling) (place : InString) (b : UInt8)
    (frames : List Frame) : Scan :=
  match place with
  | .plain =>
    if b = 34 then closeString isKey s frames
    else if b = 92 then ⟨.string isKey s .escape, frames⟩
    else if b < 32 then tear .torn frames
    else ⟨.string isKey (s.push b) .plain, frames⟩
  | .escape =>
    if b = 117 then ⟨.string isKey s (.unit 4 0), frames⟩
    else
      match escaped? b with
      | some c => ⟨.string isKey (s.push c) .plain, frames⟩
      | none => tear .torn frames
  | .unit due value =>
    match Hex.value? b with
    | some d =>
      let value := 16 * value + d
      if due ≤ 1 then ⟨.string isKey (s.pushUnit value) .plain, frames⟩
      else ⟨.string isKey s (.unit (due - 1) value), frames⟩
    | none => tear .torn frames

/-- The scanner with one more byte. -/
def next (scan : Scan) (b : UInt8) : Scan :=
  let frames := scan.frames
  match scan.expect with
  | .value => if isSpace b then scan else openValue b frames
  | .firstItem =>
    if isSpace b then scan
    else if b = 93 then
      match frames with
      | .array items :: rest => deliver (.array items.reverse true) rest
      | _ => tear .torn frames
    else openValue b frames
  | .firstKey =>
    if isSpace b then scan
    else if b = 125 then
      match frames with
      | .object members :: rest => deliver (.object members.reverse true) rest
      | _ => tear .torn frames
    else openKey b frames
  | .key => if isSpace b then scan else openKey b frames
  | .colon =>
    if isSpace b then scan else if b = 58 then ⟨.value, frames⟩ else tear .torn frames
  | .next => if isSpace b then scan else afterValue b frames
  | .literal left value =>
    match left with
    | [] => tear .torn frames
    | c :: left =>
      if b ≠ c then tear .torn frames
      else if left.isEmpty then deliver value frames
      else ⟨.literal left value, frames⟩
  | .number n =>
    match n.next? b with
    | some n => ⟨.number n, frames⟩
    | none =>
      match n.number? (some b) with
      | some value => afterScalar (.number value) b frames
      | none => tear .torn frames
  | .string isKey s place => inString isKey s place b frames
  | .over value clean => ⟨.over value (clean && isSpace b), frames⟩

/-- The value at the end of the text, and whether nothing but white space follows it. -/
def finish (scan : Scan) : Node × Bool :=
  match scan.expect with
  | .over value clean => (value, clean)
  | .number n =>
    match n.number? none with
    | some value =>
      match deliver (.number value) scan.frames with
      | ⟨.over value clean, _⟩ => (value, clean)
      | ⟨_, frames⟩ =>
        match breakOff frames with
        | ⟨.over value _, _⟩ => (value, false)
        | _ => (.torn, false)
    | none => (enclose .torn scan.frames, false)
  | .next =>
    match breakOff scan.frames with
    | ⟨.over value _, _⟩ => (value, false)
    | _ => (.torn, false)
  | _ => (enclose .torn scan.frames, false)

end Scan

/-- The value that a text spells, and whether nothing but white space follows it. -/
def scan (b : List UInt8) : Node × Bool :=
  (b.foldl Scan.next ⟨.value, []⟩).finish

end Playgrounds.Json
