/-!
# The SHA-1 digest

`Digest.ofBytes` is the digest of a message: twenty bytes. The message is filled up to whole blocks
of sixteen words, and each block stirs five words of state in eighty rounds.
-/

namespace Playgrounds.Digest

/-- A word turned left by `k` bits. -/
def rotate (w : UInt32) (k : UInt32) : UInt32 :=
  (w <<< k) ||| (w >>> (32 - k))

/-- The state between two rounds. -/
structure State where
  a : UInt32
  b : UInt32
  c : UInt32
  d : UInt32
  e : UInt32

/-- The state before the first block. -/
def State.start : State :=
  ⟨0x67452301, 0xEFCDAB89, 0x98BADCFE, 0x10325476, 0xC3D2E1F0⟩

/-- The round number `t`, with its word of the block. -/
def State.round (s : State) (t : Nat) (w : UInt32) : State :=
  let (f, k) :=
    if t < 20 then ((s.b &&& s.c) ||| ((~~~ s.b) &&& s.d), 0x5A827999)
    else if t < 40 then (s.b ^^^ s.c ^^^ s.d, 0x6ED9EBA1)
    else if t < 60 then ((s.b &&& s.c) ||| (s.b &&& s.d) ||| (s.c &&& s.d), 0x8F1BBCDC)
    else (s.b ^^^ s.c ^^^ s.d, 0xCA62C1D6)
  ⟨rotate s.a 5 + f + s.e + k + w, s.a, rotate s.b 30, s.c, s.d⟩

/-- Adds `count` further words to those of a block, newest first. -/
def extend : (count : Nat) → List UInt32 → List UInt32
  | 0, ws => ws
  | count + 1, ws =>
    let word (i : Nat) : UInt32 := ws.getD i 0
    extend count (rotate (word 2 ^^^ word 7 ^^^ word 13 ^^^ word 15) 1 :: ws)

/-- The rounds from number `t` on. -/
def State.rounds (s : State) (t : Nat) : List UInt32 → State
  | [] => s
  | w :: ws => (s.round t w).rounds (t + 1) ws

/-- The state after one more block. -/
def State.absorb (s : State) (block : List UInt32) : State :=
  let r := s.rounds 0 (extend 64 block.reverse).reverse
  ⟨s.a + r.a, s.b + r.b, s.c + r.c, s.d + r.d, s.e + r.e⟩

/-- A number in `width` bytes, most significant first. -/
def bigEndian : (width : Nat) → Nat → List UInt8
  | 0, _ => []
  | width + 1, n => UInt8.ofNat (n / 256 ^ width) :: bigEndian width n

/-- The message with a mark at its end, zeros up to whole blocks, and its length in bits. -/
def padded (message : List UInt8) : List UInt8 :=
  let fill := (119 - message.length % 64) % 64
  message ++ 0x80 :: List.replicate fill 0 ++ bigEndian 8 (8 * message.length)

/-- Four bytes to a word. -/
def words : List UInt8 → List UInt32
  | a :: b :: c :: d :: rest =>
    (a.toUInt32 <<< 24 ||| b.toUInt32 <<< 16 ||| c.toUInt32 <<< 8 ||| d.toUInt32) :: words rest
  | _ => []

/-- Stirs in the words, sixteen at a time. -/
def State.absorbAll (s : State) (ws : List UInt32) : State :=
  match ws with
  | [] => s
  | w :: rest => (s.absorb ((w :: rest).take 16)).absorbAll ((w :: rest).drop 16)
termination_by ws.length

/-- The digest of a message. -/
def ofBytes (message : List UInt8) : List UInt8 :=
  let s := State.start.absorbAll (words (padded message))
  [s.a, s.b, s.c, s.d, s.e].flatMap fun w => bigEndian 4 w.toNat

end Playgrounds.Digest
