import Playgrounds.Text.Decimal
import Playgrounds.Text.Hex

/-!
# Addresses to listen on

An address is a host address of either family and a port.

* `Address.text` — its one canonical text. A host address of the newer family is shown with its
  longest run of zero groups, the first of several, as `::`; one that embeds an address of the older
  family shows it in decimals.
* `Address.read?` — reads an address; every canonical text is read, and other spellings too.
-/

namespace Playgrounds

/-- A host address and a port. -/
inductive Address where
  | v4 (a b c d : UInt8) (port : UInt16)
  /-- Eight groups of sixteen bits, with a scope, which is zero where none is given. -/
  | v6 (groups : List UInt16) (eight : groups.length = 8) (scope : UInt32) (port : UInt16)
deriving DecidableEq

namespace Address

/-! ## Writing -/

/-- The four numbers of an address of the older family. -/
def v4Chars (a b c d : UInt8) : List Char :=
  let number (n : UInt8) := Decimal.digits n.toNat
  number a ++ '.' :: number b ++ '.' :: number c ++ '.' :: number d

/-- Groups in hexadecimal digits with colons between them. -/
def groupChars : List UInt16 → List Char
  | [] => []
  | [g] => Hex.digits g.toNat
  | g :: h :: rest => Hex.digits g.toNat ++ ':' :: groupChars (h :: rest)

/-- How many groups at the start are zero. -/
def leadingZeros (groups : List UInt16) : Nat :=
  (groups.takeWhile (· = 0)).length

/-- Start and length of the longest run of zero groups, the first of several of that length, from
the group number `start` on. -/
def longestRun (start : Nat) : List UInt16 → Nat × Nat
  | [] => (start, 0)
  | g :: rest =>
    let here := leadingZeros (g :: rest)
    let later := longestRun (start + 1) rest
    if later.2 ≤ here then (start, here) else later

/-- The characters of an address of the newer family. -/
def v6Chars (groups : List UInt16) : List Char :=
  match groups with
  | [0, 0, 0, 0, 0, 0xFFFF, x, y] =>
    "::ffff:".toList ++ v4Chars (x >>> 8).toUInt8 x.toUInt8 (y >>> 8).toUInt8 y.toUInt8
  | _ =>
    let (start, length) := longestRun 0 groups
    if 1 < length then
      groupChars (groups.take start) ++ ':' :: ':' :: groupChars (groups.drop (start + length))
    else groupChars groups

/-- The characters of an address. -/
def chars : Address → List Char
  | v4 a b c d port => v4Chars a b c d ++ ':' :: Decimal.digits port.toNat
  | v6 groups _ scope port =>
    let shownScope := if scope = 0 then [] else '%' :: Decimal.digits scope.toNat
    '[' :: v6Chars groups ++ shownScope ++ ']' :: ':' :: Decimal.digits port.toNat

/-- The canonical text of an address. -/
def text (a : Address) : String :=
  String.ofList a.chars

/-! ## Reading -/

/-- The given character. -/
def mark? (c : Char) : List Char → Option (List Char)
  | d :: rest => if d = c then some rest else none
  | [] => none

/-- A decimal number of any number of digits up to `most`. -/
def number? (most : Nat) (cs : List Char) : Option (Nat × List Char) :=
  let ds := cs.takeWhile fun c => (Decimal.value? c).isSome
  (Decimal.number? ds).bind fun n => if n ≤ most then some (n, cs.drop ds.length) else none

/-- A number up to 255 in at most three digits, without a superfluous zero in front. -/
def byte? (cs : List Char) : Option (UInt8 × List Char) :=
  let ds := cs.takeWhile fun c => (Decimal.value? c).isSome
  if 3 < ds.length ∨ (1 < ds.length ∧ ds.head? = some '0') then none
  else (number? 255 cs).map fun (n, rest) => (UInt8.ofNat n, rest)

/-- Four numbers with points between them. -/
def quad? (cs : List Char) : Option ((UInt8 × UInt8 × UInt8 × UInt8) × List Char) := do
  let (a, cs) ← byte? cs
  let (b, cs) ← byte? (← mark? '.' cs)
  let (c, cs) ← byte? (← mark? '.' cs)
  let (d, cs) ← byte? (← mark? '.' cs)
  return ((a, b, c, d), cs)

/-- The value of a hexadecimal digit. -/
def hexValue? (c : Char) : Option Nat :=
  if c.toNat < 128 then Hex.value? c.toNat.toUInt8 else none

/-- A group of one to four hexadecimal digits. -/
def group? (cs : List Char) : Option (UInt16 × List Char) :=
  let ds := cs.takeWhile fun c => (hexValue? c).isSome
  if ds.isEmpty ∨ 4 < ds.length then none
  else
    let value := ds.foldl (fun n c => 16 * n + (hexValue? c).getD 0) 0
    some (UInt16.ofNat value, cs.drop ds.length)

/-- The two groups that an address of the older family takes up. -/
def quadGroups : UInt8 × UInt8 × UInt8 × UInt8 → List UInt16
  | (a, b, c, d) => [a.toUInt16 <<< 8 ||| b.toUInt16, c.toUInt16 <<< 8 ||| d.toUInt16]

/-- As many groups as there are, up to `most`, with colons between them; an address of the older
family may end them where two are left. Also tells whether one does. `isFirst` says that no group
stands before. -/
def groups (isFirst : Bool) : (most : Nat) → List Char → (List UInt16 × Bool) × List Char
  | 0, cs => (([], false), cs)
  | most + 1, cs =>
    match if isFirst then some cs else mark? ':' cs with
    | none => (([], false), cs)
    | some start =>
      match if 1 ≤ most then quad? start else none with
      | some (quad, rest) => ((quadGroups quad, true), rest)
      | none =>
        match group? start with
        | some (g, rest) =>
          let ((gs, embedded), rest) := groups false most rest
          ((g :: gs, embedded), rest)
        | none => (([], false), cs)

/-- The groups of an address of the newer family. -/
def v6Groups? (cs : List Char) : Option (List UInt16 × List Char) :=
  let ((front, embedded), rest) := groups true 8 cs
  if front.length = 8 then some (front, rest)
  else if embedded then none
  else do
    let rest ← mark? ':' rest
    let rest ← mark? ':' rest
    let ((back, _), rest) := groups true (7 - front.length) rest
    return (front ++ List.replicate (8 - front.length - back.length) 0 ++ back, rest)

/-- A port after its colon. -/
def port? (cs : List Char) : Option (UInt16 × List Char) := do
  let (n, rest) ← number? 65535 (← mark? ':' cs)
  return (UInt16.ofNat n, rest)

/-- A scope after its mark; zero where none is given. -/
def scope (cs : List Char) : UInt32 × List Char :=
  match (mark? '%' cs).bind (number? 4294967295) with
  | some (n, rest) => (UInt32.ofNat n, rest)
  | none => (0, cs)

/-- Reads an address of the older family. -/
def readV4? (cs : List Char) : Option Address := do
  let ((a, b, c, d), cs) ← quad? cs
  let (port, cs) ← port? cs
  if cs = [] then some (v4 a b c d port) else none

/-- Reads an address of the newer family. -/
def readV6? (cs : List Char) : Option Address := do
  let (gs, cs) ← v6Groups? (← mark? '[' cs)
  let (zone, cs) := scope cs
  let (port, cs) ← port? (← mark? ']' cs)
  if h : gs.length = 8 ∧ cs = [] then some (v6 gs h.1 zone port) else none

/-- Reads the text of an address. -/
def read? (s : String) : Option Address :=
  (readV4? s.toList).or (readV6? s.toList)

end Address

end Playgrounds
