/-!
# Texts as bytes

A text travels as its UTF-8 bytes: in request bodies, in bus payloads and in stored records.

* `bytes` — the bytes of a text.
* `text?` — the text that bytes spell, if they spell one; `text?_bytes` says that it undoes `bytes`.
* `lossy` — a text for any bytes: whatever spells nothing is shown as U+FFFD, one mark for each
  longest run that could still have begun a character.
-/

namespace Playgrounds.Text

/-- The UTF-8 bytes of a text. -/
def bytes (s : String) : List UInt8 :=
  s.toByteArray.data.toList

/-- The text that the bytes spell in UTF-8, if they do. -/
def text? (b : List UInt8) : Option String :=
  String.fromUTF8? ⟨b.toArray⟩

/-- The bytes of a text are read as the text. -/
@[simp] theorem text?_bytes (s : String) : text? (bytes s) = some s := by
  have whole : (⟨(bytes s).toArray⟩ : ByteArray) = s.toByteArray := by simp [bytes]
  unfold text?
  rw [whole, String.fromUTF8?, dif_pos s.isValidUTF8]
  rfl

/-- The mark shown in place of bytes that spell nothing. -/
def replacement : Char := '\uFFFD'

/-- A byte that can only stand inside a character. -/
def isContinuation (b : UInt8) : Bool :=
  0x80 ≤ b && b ≤ 0xBF

/-- Whether `b` may follow the lead byte `a` of a character of three or four bytes: the bounds
leave out overlong spellings, surrogates and what lies past U+10FFFF. -/
def mayFollow (a b : UInt8) : Bool :=
  if a = 0xE0 then 0xA0 ≤ b && b ≤ 0xBF
  else if a = 0xED then 0x80 ≤ b && b ≤ 0x9F
  else if a = 0xF0 then 0x90 ≤ b && b ≤ 0xBF
  else if a = 0xF4 then 0x80 ≤ b && b ≤ 0x8F
  else isContinuation b

/-- The low six bits that a continuation byte adds. -/
def lowBits (b : UInt8) : Nat :=
  b.toNat % 64

/-- The characters that bytes spell, with `replacement` for each stretch that spells none. -/
def lossyChars : List UInt8 → List Char
  | [] => []
  | a :: rest =>
    if a < 0x80 then Char.ofNat a.toNat :: lossyChars rest
    else if 0xC2 ≤ a && a ≤ 0xDF then
      match rest with
      | b :: rest =>
        if isContinuation b then
          Char.ofNat (a.toNat % 32 * 64 + lowBits b) :: lossyChars rest
        else replacement :: lossyChars (b :: rest)
      | [] => [replacement]
    else if 0xE0 ≤ a && a ≤ 0xEF then
      match rest with
      | b :: c :: rest =>
        if mayFollow a b then
          if isContinuation c then
            Char.ofNat (a.toNat % 16 * 4096 + lowBits b * 64 + lowBits c) :: lossyChars rest
          else replacement :: lossyChars (c :: rest)
        else replacement :: lossyChars (b :: c :: rest)
      | b :: [] =>
        if mayFollow a b then [replacement] else replacement :: lossyChars [b]
      | [] => [replacement]
    else if 0xF0 ≤ a && a ≤ 0xF4 then
      match rest with
      | b :: c :: d :: rest =>
        if mayFollow a b then
          if isContinuation c then
            if isContinuation d then
              Char.ofNat (a.toNat % 8 * 262144 + lowBits b * 4096 + lowBits c * 64 + lowBits d)
                :: lossyChars rest
            else replacement :: lossyChars (d :: rest)
          else replacement :: lossyChars (c :: d :: rest)
        else replacement :: lossyChars (b :: c :: d :: rest)
      | b :: c :: [] =>
        if mayFollow a b then
          if isContinuation c then [replacement] else replacement :: lossyChars [c]
        else replacement :: lossyChars [b, c]
      | b :: [] =>
        if mayFollow a b then [replacement] else replacement :: lossyChars [b]
      | [] => [replacement]
    else replacement :: lossyChars rest
termination_by b => b.length

/-- A text for any bytes; bytes that spell a text give that text. -/
def lossy (b : List UInt8) : String :=
  match text? b with
  | some s => s
  | none => String.ofList (lossyChars b)

/-- Nothing is lost of a text. -/
@[simp] theorem lossy_bytes (s : String) : lossy (bytes s) = s := by
  simp [lossy]

end Playgrounds.Text
