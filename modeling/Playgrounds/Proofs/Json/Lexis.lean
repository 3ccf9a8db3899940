import Playgrounds.Proofs.Json.Grammar

/-!
# Strings and numbers as they may be written

The ways in which JSON lets a string or a number be written, said by the characters of the string
and by the parts of the number. The grammar has them all.

* `WritesChar`, `Writes` — a character may stand for itself, be escaped by a letter, or be given by
  its UTF-16 units in hexadecimal digits of either case.
* `Writes.body` — the grammar spells a string however it is written.
* `IsNumeral` — a sign, a whole number, a fraction and an exponent.
* `IsNumeral.spells` — the grammar spells every number.
-/

namespace Playgrounds

/-! ## Characters as bytes -/

namespace Text

/-- The UTF-8 bytes of characters. -/
def encode (cs : List Char) : List UInt8 :=
  cs.flatMap String.utf8EncodeChar

theorem bytes_ofList (cs : List Char) : bytes (String.ofList cs) = encode cs := by
  simp [bytes, encode, List.utf8Encode]

theorem encode_toList (s : String) : encode s.toList = bytes s := by
  rw [← bytes_ofList, String.ofList_toList]

@[simp] theorem encode_nil : encode [] = [] := rfl

@[simp] theorem encode_cons (c : Char) (cs : List Char) :
    encode (c :: cs) = String.utf8EncodeChar c ++ encode cs :=
  List.flatMap_cons

@[simp] theorem encode_append (cs ds : List Char) : encode (cs ++ ds) = encode cs ++ encode ds :=
  List.flatMap_append

theorem bytes_singleton (c : Char) : bytes (String.singleton c) = String.utf8EncodeChar c := by
  rw [← encode_toList, String.toList_singleton, encode_cons, encode_nil, List.append_nil]

/-- A character below 128 is one byte. -/
theorem encode_of_ascii {c : Char} (small : c.toNat < 128) :
    String.utf8EncodeChar c = [c.toNat.toUInt8] := by
  have low : c.val.toNat ≤ 0x7f := Nat.le_of_lt_succ small
  unfold String.utf8EncodeChar
  exact if_pos low

/-- A byte of a character is the character itself, or lies above all of ASCII. -/
theorem mem_utf8EncodeChar {c : Char} {b : UInt8} (h : b ∈ String.utf8EncodeChar c) :
    c.toNat < 128 ∧ b = c.toNat.toUInt8 ∨ 128 ≤ b.toNat := by
  by_cases small : c.toNat < 128
  · rw [encode_of_ascii small, List.mem_singleton] at h
    exact .inl ⟨small, h⟩
  · right
    have high : ¬ c.val.toNat ≤ 0x7f := fun low => small (Nat.lt_succ_of_le low)
    -- Every byte of a longer character has its highest bit set.
    have marked : ∀ n, 0x80 ≤ n → n < 256 → 128 ≤ (UInt8.ofNat n).toNat := by
      intro n least most
      rw [UInt8.toNat_ofNat_of_lt' most]
      exact least
    simp only [String.utf8EncodeChar, high, if_false] at h
    split at h
    · simp only [List.mem_cons, List.not_mem_nil, or_false] at h
      rcases h with rfl | rfl <;> exact marked _ (by omega) (by omega)
    split at h
    · simp only [List.mem_cons, List.not_mem_nil, or_false] at h
      rcases h with rfl | rfl | rfl <;> exact marked _ (by omega) (by omega)
    · simp only [List.mem_cons, List.not_mem_nil, or_false] at h
      rcases h with rfl | rfl | rfl | rfl <;> exact marked _ (by omega) (by omega)

end Text

namespace Json

open Scan Text

/-! ## Strings -/

/-- The characters that have an escape of one letter, with the letter. -/
def letters : List (Char × UInt8) :=
  [('"', 34), ('\\', 92), ('/', 47), ('\x08', 98), ('\x0c', 102), ('\n', 110), ('\r', 114),
    ('\t', 116)]

/-- Four hexadecimal digits, each in either case. -/
def IsQuad (n : Nat) (bs : List UInt8) : Prop :=
  ∃ a b c d, bs = [a, b, c, d] ∧ Hex.value? a = some (n / 4096) ∧
    Hex.value? b = some (n / 256 % 16) ∧ Hex.value? c = some (n / 16 % 16) ∧
    Hex.value? d = some (n % 16)

/-- The bytes stand for this character in a string. -/
inductive WritesChar : Char → List UInt8 → Prop where
  | plain {c : Char} (printable : ¬ c.toNat < 0x20) (quote : c ≠ '"') (slash : c ≠ '\\') :
    WritesChar c (String.utf8EncodeChar c)
  | letter {c : Char} {b : UInt8} (known : (c, b) ∈ letters) : WritesChar c [92, b]
  | unit {c : Char} {bs : List UInt8} (quad : IsQuad c.toNat bs) : WritesChar c (92 :: 117 :: bs)
  | pair {c : Char} {high low : List UInt8} (large : 0x10000 ≤ c.toNat)
    (first : IsQuad (0xD800 + (c.toNat - 0x10000) / 0x400) high)
    (second : IsQuad (0xDC00 + (c.toNat - 0x10000) % 0x400) low) :
    WritesChar c (92 :: 117 :: (high ++ 92 :: 117 :: low))

/-- The bytes stand for these characters in a string. -/
inductive Writes : List Char → List UInt8 → Prop where
  | nil : Writes [] []
  | cons {c : Char} {cs : List Char} {bs bs' : List UInt8} (first : WritesChar c bs)
    (rest : Writes cs bs') : Writes (c :: cs) (bs ++ bs')

/-- Bytes that stand for themselves. -/
theorem body_append {cs acc bs : List UInt8} {t : Spelling}
    (plain : ∀ b ∈ cs, b ≠ 34 ∧ b ≠ 92 ∧ ¬ b < 32)
    (rest : Body ⟨some (cs.reverse ++ acc), none⟩ bs t) :
    Body ⟨some acc, none⟩ (cs ++ bs) t := by
  induction cs generalizing acc with
  | nil => exact rest
  | cons b cs ih =>
      obtain ⟨quote, slash, printable⟩ := plain b List.mem_cons_self
      refine .plain quote slash printable (ih ?_ ?_)
      · exact fun c hc => plain c (List.mem_cons_of_mem _ hc)
      · rw [List.reverse_cons, List.append_assoc] at rest
        exact rest

/-- A character that is not escaped stands for itself. -/
theorem isPlain_of_mem {c : Char} (printable : ¬ c.toNat < 0x20) (quote : c ≠ '"')
    (slash : c ≠ '\\') {b : UInt8} (h : b ∈ String.utf8EncodeChar c) :
    b ≠ 34 ∧ b ≠ 92 ∧ ¬ b < 32 := by
  -- A character below 128 is its own byte. The bytes of any other lie above all that is special.
  rcases mem_utf8EncodeChar h with ⟨small, rfl⟩ | high
  · have value : c.toNat.toUInt8.toNat = c.toNat :=
      UInt8.toNat_ofNat_of_lt (Nat.lt_trans small (by decide))
    refine ⟨?_, ?_, ?_⟩
    · intro same
      rw [same] at value
      exact quote (Char.toNat_inj.mp value.symm)
    · intro same
      rw [same] at value
      exact slash (Char.toNat_inj.mp value.symm)
    · rw [UInt8.lt_iff_toNat_lt, value]
      exact printable
  · refine ⟨?_, ?_, ?_⟩
    · rintro rfl
      exact absurd high (by decide)
    · rintro rfl
      exact absurd high (by decide)
    · intro low
      have : b.toNat < 32 := UInt8.lt_iff_toNat_lt.mp low
      omega

/-- Every escape of one letter is known. -/
theorem escaped?_of_mem : ∀ m ∈ letters,
    ∃ b, escaped? m.2 = some b ∧ String.utf8EncodeChar m.1 = [b] := by
  simp only [letters, List.forall_mem_cons]
  exact ⟨⟨_, rfl, rfl⟩, ⟨_, rfl, rfl⟩, ⟨_, rfl, rfl⟩, ⟨_, rfl, rfl⟩, ⟨_, rfl, rfl⟩, ⟨_, rfl, rfl⟩,
    ⟨_, rfl, rfl⟩, ⟨_, rfl, rfl⟩, nofun⟩

/-- A unit in four digits. -/
theorem IsQuad.body {n : Nat} {quad bs : List UInt8} {s t : Spelling} (digits : IsQuad n quad)
    (rest : Body (s.pushUnit n) bs t) : Body s (92 :: 117 :: (quad ++ bs)) t := by
  obtain ⟨a, b, c, d, rfl, ha, hb, hc, hd⟩ := digits
  refine .unit ha hb hc hd ?_
  have value : 16 * (16 * (16 * (n / 4096) + n / 256 % 16) + n / 16 % 16) + n % 16 = n := by omega
  rw [value]
  exact rest

/-- A character is added as its bytes, the last in front. -/
theorem pushChar_toNat (acc : List UInt8) (half : Option Nat) (c : Char) :
    Spelling.pushChar ⟨some acc, half⟩ c.toNat
      = ⟨some ((String.utf8EncodeChar c).reverse ++ acc), none⟩ := by
  rw [Spelling.pushChar, Char.ofNat_toNat, bytes_singleton]
  rfl

/-- A character is no half of a surrogate pair, so its code spells it. -/
theorem pushUnit_toNat (acc : List UInt8) (c : Char) :
    Spelling.pushUnit ⟨some acc, none⟩ c.toNat
      = ⟨some ((String.utf8EncodeChar c).reverse ++ acc), none⟩ := by
  rw [← pushChar_toNat acc none c]
  have valid : c.toNat < 0xD800 ∨ 0xDFFF < c.toNat ∧ c.toNat < 0x110000 := c.valid
  have notLow : ¬ (0xDC00 ≤ c.toNat ∧ c.toNat ≤ 0xDFFF) := by omega
  have notHigh : ¬ (0xD800 ≤ c.toNat ∧ c.toNat ≤ 0xDBFF) := by omega
  simp [Spelling.pushUnit, notLow, notHigh]

/-- The two halves of a pair spell a character beyond the first 65536. -/
theorem pushUnit_pushUnit (acc : List UInt8) {c : Char} (large : 0x10000 ≤ c.toNat) :
    (Spelling.pushUnit ⟨some acc, none⟩ (0xD800 + (c.toNat - 0x10000) / 0x400)).pushUnit
        (0xDC00 + (c.toNat - 0x10000) % 0x400)
      = ⟨some ((String.utf8EncodeChar c).reverse ++ acc), none⟩ := by
  have valid : c.toNat < 0xD800 ∨ 0xDFFF < c.toNat ∧ c.toNat < 0x110000 := c.valid
  generalize above : c.toNat - 0x10000 = n
  have small : n / 0x400 < 0x400 := by omega
  -- The first half waits for the second, and together they are the character.
  have isHalf : Spelling.pushUnit ⟨some acc, none⟩ (0xD800 + n / 0x400)
      = ⟨some acc, some (0xD800 + n / 0x400)⟩ := by
    have notLow : ¬ 0xDC00 ≤ 0xD800 + n / 0x400 := by omega
    have high : 0xD800 + n / 0x400 ≤ 0xDBFF := by omega
    simp [Spelling.pushUnit, notLow, high]
  have low : 0xDC00 + n % 0x400 ≤ 0xDFFF := by omega
  have code : 0x10000 + n / 0x400 * 0x400 + n % 0x400 = c.toNat := by omega
  rw [isHalf, ← pushChar_toNat acc (some (0xD800 + n / 0x400)) c, ← code]
  simp [Spelling.pushUnit, low]

/-- A character as it is written. -/
theorem WritesChar.body {c : Char} {bs bs' acc : List UInt8} {t : Spelling}
    (written : WritesChar c bs)
    (rest : Body ⟨some ((String.utf8EncodeChar c).reverse ++ acc), none⟩ bs' t) :
    Body ⟨some acc, none⟩ (bs ++ bs') t := by
  cases written with
  | plain printable quote slash =>
      exact body_append (fun b => isPlain_of_mem printable quote slash) rest
  | letter known =>
      obtain ⟨b, letter, single⟩ := escaped?_of_mem _ known
      rw [single] at rest
      exact .escape letter rest
  | unit quad =>
      rw [← pushUnit_toNat] at rest
      exact quad.body rest
  | pair large first second =>
      rw [← pushUnit_pushUnit acc large] at rest
      rw [List.cons_append, List.cons_append, List.append_assoc]
      exact first.body (second.body rest)

/-- Characters as they are written, one after the other. -/
theorem Writes.body_append {cs : List Char} {bs : List UInt8} (written : Writes cs bs)
    (acc : List UInt8) : Body ⟨some acc, none⟩ bs ⟨some ((encode cs).reverse ++ acc), none⟩ := by
  induction written generalizing acc with
  | nil => exact .nil _
  | cons first rest ih =>
      rw [encode_cons, List.reverse_append, List.append_assoc]
      exact first.body (ih _)

/-- The grammar spells a string however it is written. -/
theorem Writes.body {s : String} {bs : List UInt8} (written : Writes s.toList bs) :
    ∃ t, Body .empty bs t ∧ t.close = .text s := by
  refine ⟨_, written.body_append [], ?_⟩
  simp [Spelling.close, encode_toList]

/-! ## Numbers -/

/-- A decimal digit. -/
def IsDigit (b : UInt8) : Prop :=
  (48 ≤ b && b ≤ 57) = true

/-- A whole number, which no superfluous zero precedes. -/
inductive IsWhole : List UInt8 → Prop where
  | zero : IsWhole [48]
  | digits {b : UInt8} {bs : List UInt8} (digit : IsDigit b) (pos : b ≠ 48)
    (rest : ∀ b ∈ bs, IsDigit b) : IsWhole (b :: bs)

/-- A point with digits after it, or nothing. -/
inductive IsFraction : List UInt8 → Prop where
  | none : IsFraction []
  | digits {b : UInt8} {bs : List UInt8} (digit : IsDigit b) (rest : ∀ b ∈ bs, IsDigit b) :
    IsFraction (46 :: b :: bs)

/-- The mark of an exponent in either case, a sign or none, and digits; or nothing. -/
inductive IsExponent : List UInt8 → Prop where
  | none : IsExponent []
  | digits {mark b : UInt8} {sign bs : List UInt8} (isMark : mark = 101 ∨ mark = 69)
    (isSign : sign = [] ∨ sign = [43] ∨ sign = [45]) (digit : IsDigit b)
    (rest : ∀ b ∈ bs, IsDigit b) : IsExponent (mark :: (sign ++ b :: bs))

/-- A number: a sign or none, a whole number, a fraction and an exponent. -/
def IsNumeral (bs : List UInt8) : Prop :=
  ∃ sign whole fraction exponent, (sign = [] ∨ sign = [45]) ∧ IsWhole whole ∧
    IsFraction fraction ∧ IsExponent exponent ∧ bs = sign ++ (whole ++ (fraction ++ exponent))

/-- The numeral goes on with these bytes, to one that stands at some of these parts. -/
def Numeral.Reaches (n : Numeral) (bs : List UInt8) (parts : List Numeral.Part) : Prop :=
  ∃ last, bs.foldlM Numeral.next? n = some last ∧ last.part ∈ parts

/-- The bytes are a number so far, one that stands at some of these parts. -/
def Opens (bs : List UInt8) (parts : List Numeral.Part) : Prop :=
  ∃ b rest first, bs = b :: rest ∧ Numeral.start? b = some first ∧ first.Reaches rest parts

/-- A number that goes on from any part it may have reached is read on. -/
theorem Numeral.Reaches.append {n : Numeral} {bs bs' : List UInt8} {parts parts' : List Part}
    (reaches : n.Reaches bs parts) (goesOn : ∀ m : Numeral, m.part ∈ parts → m.Reaches bs' parts') :
    n.Reaches (bs ++ bs') parts' := by
  obtain ⟨middle, read, stands⟩ := reaches
  obtain ⟨last, read', stands'⟩ := goesOn middle stands
  refine ⟨last, ?_, stands'⟩
  rw [List.foldlM_append, read]
  exact read'

/-- A number is read on after one more byte. -/
theorem Numeral.Reaches.cons {n m : Numeral} {b : UInt8} {bs : List UInt8} {parts : List Part}
    (grown : n.next? b = some m) (reaches : m.Reaches bs parts) : n.Reaches (b :: bs) parts := by
  obtain ⟨last, read, stands⟩ := reaches
  refine ⟨last, ?_, stands⟩
  rw [List.foldlM_cons, grown]
  exact read

/-- What opens a number goes on in the same way. -/
theorem Opens.append {bs bs' : List UInt8} {parts parts' : List Numeral.Part}
    (opens : Opens bs parts) (goesOn : ∀ n : Numeral, n.part ∈ parts → n.Reaches bs' parts') :
    Opens (bs ++ bs') parts' := by
  obtain ⟨b, rest, first, rfl, start, reaches⟩ := opens
  exact ⟨b, rest ++ bs', first, rfl, start, reaches.append goesOn⟩

/-- A digit is the first byte of a number unless it is a zero, which is a number of its own. -/
theorem start?_digit {b : UInt8} (digit : IsDigit b) (pos : b ≠ 48) :
    Numeral.start? b = some ⟨.whole, false, b.toNat - 48, false, 0, 0, false⟩ := by
  have digit : (48 ≤ b && b ≤ 57) = true := digit
  have minus : b ≠ 45 := by
    rintro rfl
    exact absurd digit (by decide)
  have fromOne : (49 ≤ b && b ≤ 57) = true := by
    rw [Bool.and_eq_true, decide_eq_true_eq, decide_eq_true_eq] at digit ⊢
    have least : 48 ≤ b.toNat := UInt8.le_iff_toNat_le.mp digit.1
    have other : b.toNat ≠ 48 := fun same => pos (UInt8.toNat_inj.mp same)
    exact ⟨UInt8.le_iff_toNat_le.mpr (show 49 ≤ b.toNat by omega), digit.2⟩
  simp [Numeral.start?, minus, pos, fromOne]

/-- A digit goes on with digits. -/
theorem next?_of_isDigit {n : Numeral} {b : UInt8} (digit : IsDigit b)
    (stands : n.part ∈ [.whole, .decimals, .exponent]) :
    ∃ m, n.next? b = some m ∧ m.part = n.part := by
  have digit : (48 ≤ b && b ≤ 57) = true := digit
  simp only [List.mem_cons, List.not_mem_nil, or_false] at stands
  -- Each part that has digits takes one more, and stays what it is.
  rcases stands with here | here | here
  · refine ⟨n.wholeDigit (b.toNat - 48), ?_, ?_⟩
    · simp only [Numeral.next?, here, digit, if_true]
    · rw [Numeral.wholeDigit, here]
      split <;> rfl
  · refine ⟨n.decimalDigit (b.toNat - 48), ?_, ?_⟩
    · simp only [Numeral.next?, here, digit, if_true]
    · rw [Numeral.decimalDigit, here]
      split <;> rfl
  · refine ⟨{ n with exponent := n.exponent * 10 + (b.toNat - 48) }, ?_, rfl⟩
    simp only [Numeral.next?, here, digit, if_true]

/-- Digits may go on for as long as they please, and the part stays the same. -/
theorem reaches_digits {n : Numeral} {bs : List UInt8} (digits : ∀ b ∈ bs, IsDigit b)
    (stands : n.part ∈ [.whole, .decimals, .exponent]) : n.Reaches bs [n.part] := by
  induction bs generalizing n with
  | nil => exact ⟨n, rfl, List.mem_singleton_self _⟩
  | cons b bs ih =>
      obtain ⟨m, grown, same⟩ := next?_of_isDigit (digits b List.mem_cons_self) stands
      have rest := ih (n := m) (fun b member => digits b (List.mem_cons_of_mem _ member))
        (same ▸ stands)
      rw [same] at rest
      exact rest.cons grown

/-- Digits after the byte that a part begins with. -/
theorem reaches_digits_of_next? {n m : Numeral} {b : UInt8} {bs : List UInt8}
    {parts : List Numeral.Part} (grown : n.next? b = some m) (digits : ∀ b ∈ bs, IsDigit b)
    (stands : m.part ∈ [.whole, .decimals, .exponent]) (among : m.part ∈ parts) :
    n.Reaches (b :: bs) parts := by
  obtain ⟨last, read, same⟩ := reaches_digits digits stands
  rw [← List.mem_singleton.mp same] at among
  exact .cons grown ⟨last, read, among⟩

/-- After a sign the whole part of a number is read. -/
theorem IsWhole.reaches {n : Numeral} {bs : List UInt8} (whole : IsWhole bs)
    (signed : n.part = .minus) : n.Reaches bs [.zero, .whole] := by
  cases whole with
  | zero => exact ⟨{ n with part := .zero }, by simp [Numeral.next?, signed], by simp⟩
  | @digits b bs digit pos rest =>
      have digit : (48 ≤ b && b ≤ 57) = true := digit
      have grown : n.next? b = some (n.wholeDigit (b.toNat - 48)) := by
        simp only [Numeral.next?, signed, if_neg pos, digit, if_true]
      have part : (n.wholeDigit (b.toNat - 48)).part = .whole := by
        rw [Numeral.wholeDigit]
        split <;> rfl
      exact reaches_digits_of_next? grown rest (by simp [part]) (by simp [part])

/-- After the whole part its fraction is read, if there is one. -/
theorem IsFraction.reaches {n : Numeral} {bs : List UInt8} (fraction : IsFraction bs)
    (stands : n.part ∈ [.zero, .whole]) : n.Reaches bs [.zero, .whole, .decimals] := by
  cases fraction with
  | none => exact ⟨n, rfl, List.mem_append_left [Numeral.Part.decimals] stands⟩
  | @digits b bs digit rest =>
      have digit : (48 ≤ b && b ≤ 57) = true := digit
      have point : n.next? 46 = some { n with part := .point, cut := false } := by
        simp only [List.mem_cons, List.not_mem_nil, or_false] at stands
        rcases stands with here | here <;> simp [Numeral.next?, here]
      refine .cons point ?_
      generalize isPoint : ({ n with part := .point, cut := false } : Numeral) = m
      have here : m.part = .point := by rw [← isPoint]
      -- A digit must follow the point; from then on there may be any number of them.
      have grown : m.next? b = some (m.decimalDigit (b.toNat - 48)) := by
        simp only [Numeral.next?, here, digit, if_true]
      have part : (m.decimalDigit (b.toNat - 48)).part = .decimals := by
        rw [Numeral.decimalDigit]
        split <;> rfl
      exact reaches_digits_of_next? grown rest (by simp [part]) (by simp [part])

/-- After these its exponent is read, if there is one. -/
theorem IsExponent.reaches {n : Numeral} {bs : List UInt8} (exponent : IsExponent bs)
    (stands : n.part ∈ [.zero, .whole, .decimals]) :
    n.Reaches bs [.zero, .whole, .decimals, .exponent] := by
  cases exponent with
  | none => exact ⟨n, rfl, List.mem_append_left [Numeral.Part.exponent] stands⟩
  | @digits mark b sign bs isMark isSign digit rest =>
      have digit : (48 ≤ b && b ≤ 57) = true := digit
      have marked : n.next? mark = some { n with part := .exponentMark } := by
        simp only [List.mem_cons, List.not_mem_nil, or_false] at stands
        rcases stands with here | here | here <;> rcases isMark with rfl | rfl <;>
          simp [Numeral.next?, here]
      refine .cons marked ?_
      generalize isMark : ({ n with part := .exponentMark } : Numeral) = m
      have here : m.part = .exponentMark := by rw [← isMark]
      -- The first digit stands after a sign or right after the mark.
      have first : ∀ k : Numeral, k.part = .exponentMark ∨ k.part = .exponentSign →
          k.next? b = some { k with part := .exponent, exponent := b.toNat - 48 } := by
        have plus : b ≠ 43 := by
          rintro rfl
          exact absurd digit (by decide)
        have minus : b ≠ 45 := by
          rintro rfl
          exact absurd digit (by decide)
        rintro k (here | here)
        · simp only [Numeral.next?, here, if_neg plus, if_neg minus, digit, if_true]
        · simp only [Numeral.next?, here, digit, if_true]
      have digits : ∀ k : Numeral, k.part = .exponentMark ∨ k.part = .exponentSign →
          k.Reaches (b :: bs) [.zero, .whole, .decimals, .exponent] := fun k due =>
        reaches_digits_of_next? (first k due) rest (by simp) (by simp)
      rcases isSign with rfl | rfl | rfl
      · exact digits m (.inl here)
      · refine .cons (m := { m with part := .exponentSign }) ?_ (digits _ (.inr rfl))
        simp [Numeral.next?, here]
      · refine .cons (m := { m with part := .exponentSign, exponentNegative := true }) ?_
          (digits _ (.inr rfl))
        simp [Numeral.next?, here]

/-- A whole number with its sign, if it has one. -/
theorem IsWhole.opens {sign bs : List UInt8} (whole : IsWhole bs)
    (isSign : sign = [] ∨ sign = [45]) : Opens (sign ++ bs) [.zero, .whole] := by
  rcases isSign with rfl | rfl
  · cases whole with
    | zero => exact ⟨48, [], _, rfl, rfl, _, rfl, by simp⟩
    | @digits b bs digit pos rest =>
        obtain ⟨last, read, same⟩ := reaches_digits
          (n := ⟨.whole, false, b.toNat - 48, false, 0, 0, false⟩) rest (by simp)
        refine ⟨b, bs, _, rfl, start?_digit digit pos, last, read, ?_⟩
        exact List.mem_cons_of_mem _ same
  · exact ⟨45, bs, _, rfl, rfl, whole.reaches rfl⟩

/-- A number may end after a digit. -/
theorem number?_of_mem {n : Numeral} (stands : n.part ∈ [.zero, .whole, .decimals, .exponent]) :
    ∃ v, n.number? none = some v := by
  simp only [List.mem_cons, List.not_mem_nil, or_false] at stands
  rcases stands with here | here | here | here <;> simp only [Numeral.number?, here] <;>
    exact ⟨_, rfl⟩

/-- The grammar spells every number. -/
theorem IsNumeral.spells {bs : List UInt8} (numeral : IsNumeral bs) :
    ∃ n, Spells (.value (.number n)) bs := by
  obtain ⟨sign, whole, fraction, exponent, isSign, isWhole, isFraction, isExponent, rfl⟩ := numeral
  have opens : Opens ((sign ++ whole) ++ (fraction ++ exponent))
      [.zero, .whole, .decimals, .exponent] :=
    (isWhole.opens isSign).append fun n stands =>
      (isFraction.reaches stands).append fun n stands => isExponent.reaches stands
  obtain ⟨b, rest, first, same, start, last, read, stands⟩ := opens
  obtain ⟨v, ends⟩ := number?_of_mem stands
  rw [← List.append_assoc, same]
  exact ⟨v, .number start read ends⟩

end Json

end Playgrounds
