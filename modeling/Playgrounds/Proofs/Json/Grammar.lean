import Playgrounds.Json.Scan

/-!
# The grammar of JSON

Which bytes spell which `Node`, said without the scanner: white space may stand between the parts,
a string may escape any of its characters, and containers nest to any depth. The scanner reads
whatever the grammar spells.

* `Body` — the bytes between the quotes of a string.
* `Spells` — a value, the items of an array, or the members of an object.
* `scan_of_spells` — the scanner finds the value that a text spells.
-/

namespace Playgrounds.Json

open Scan

/-- Nothing but white space. -/
def Blank (w : List UInt8) : Prop :=
  ∀ b ∈ w, isSpace b = true

/-- The bytes that take a string from one spelling to another. -/
inductive Body : Spelling → List UInt8 → Spelling → Prop where
  | nil (s : Spelling) : Body s [] s
  | plain {s t : Spelling} {b : UInt8} {bs : List UInt8} (quote : b ≠ 34) (slash : b ≠ 92)
    (printable : ¬ b < 32) (rest : Body (s.push b) bs t) : Body s (b :: bs) t
  | escape {s t : Spelling} {b c : UInt8} {bs : List UInt8} (letter : escaped? b = some c)
    (rest : Body (s.push c) bs t) : Body s (92 :: b :: bs) t
  | unit {s t : Spelling} {a b c d : UInt8} {va vb vc vd : Nat} {bs : List UInt8}
    (ha : Hex.value? a = some va) (hb : Hex.value? b = some vb) (hc : Hex.value? c = some vc)
    (hd : Hex.value? d = some vd)
    (rest : Body (s.pushUnit (16 * (16 * (16 * va + vb) + vc) + vd)) bs t) :
    Body s (92 :: 117 :: a :: b :: c :: d :: bs) t

/-- What bytes may spell: a value, or what follows the opening bracket of a container that is not
empty, its closing bracket included. -/
inductive Part where
  | value (v : Node)
  | items (vs : List Node)
  | members (ms : List (Node × Node))

/-- The bytes spell this part. -/
inductive Spells : Part → List UInt8 → Prop where
  | null : Spells (.value .null) [110, 117, 108, 108]
  | yes : Spells (.value (.flag true)) [116, 114, 117, 101]
  | no : Spells (.value (.flag false)) [102, 97, 108, 115, 101]
  | number {b : UInt8} {bs : List UInt8} {first last : Numeral} {n : Number}
    (start : Numeral.start? b = some first) (rest : bs.foldlM Numeral.next? first = some last)
    (ends : last.number? none = some n) : Spells (.value (.number n)) (b :: bs)
  | string {bs : List UInt8} {t : Spelling} (body : Body .empty bs t) :
    Spells (.value t.close) (34 :: (bs ++ [34]))
  | emptyArray {w : List UInt8} (blank : Blank w) :
    Spells (.value (.array [] true)) (91 :: (w ++ [93]))
  | array {vs : List Node} {bs : List UInt8} (items : Spells (.items vs) bs) :
    Spells (.value (.array vs true)) (91 :: bs)
  | emptyObject {w : List UInt8} (blank : Blank w) :
    Spells (.value (.object [] true)) (123 :: (w ++ [125]))
  | object {ms : List (Node × Node)} {bs : List UInt8} (members : Spells (.members ms) bs) :
    Spells (.value (.object ms true)) (123 :: bs)
  | lastItem {v : Node} {w bs w' : List UInt8} (before : Blank w) (item : Spells (.value v) bs)
    (after : Blank w') : Spells (.items [v]) (w ++ (bs ++ (w' ++ [93])))
  | item {v : Node} {vs : List Node} {w bs w' rest : List UInt8} (before : Blank w)
    (item : Spells (.value v) bs) (after : Blank w') (more : Spells (.items vs) rest) :
    Spells (.items (v :: vs)) (w ++ (bs ++ (w' ++ 44 :: rest)))
  | lastMember {k : Spelling} {v : Node} {w kbs w₁ w₂ bs w' : List UInt8} (before : Blank w)
    (key : Body .empty kbs k) (beforeColon : Blank w₁) (afterColon : Blank w₂)
    (value : Spells (.value v) bs) (after : Blank w') :
    Spells (.members [(k.close, v)])
      (w ++ 34 :: (kbs ++ 34 :: (w₁ ++ 58 :: (w₂ ++ (bs ++ (w' ++ [125]))))))
  | member {k : Spelling} {v : Node} {ms : List (Node × Node)}
    {w kbs w₁ w₂ bs w' rest : List UInt8} (before : Blank w) (key : Body .empty kbs k)
    (beforeColon : Blank w₁) (afterColon : Blank w₂) (value : Spells (.value v) bs)
    (after : Blank w') (more : Spells (.members ms) rest) :
    Spells (.members ((k.close, v) :: ms))
      (w ++ 34 :: (kbs ++ 34 :: (w₁ ++ 58 :: (w₂ ++ (bs ++ (w' ++ 44 :: rest))))))

/-! ## Blanks -/

/-- Whether white space leaves the scanner as it is. -/
def Expect.isPatient : Expect → Bool
  | .value | .firstItem | .firstKey | .key | .colon | .next | .over _ _ => true
  | _ => false

theorem next_of_isSpace {e : Expect} {fs : List Frame} {b : UInt8} (patient : e.isPatient = true)
    (space : isSpace b = true) : Scan.next ⟨e, fs⟩ b = ⟨e, fs⟩ := by
  cases e <;> simp_all [Scan.next, Expect.isPatient]

/-- White space between the parts of a text changes nothing about the scanner. -/
theorem foldl_blank {e : Expect} {fs : List Frame} {w : List UInt8} (blank : Blank w)
    (patient : e.isPatient = true) : w.foldl Scan.next ⟨e, fs⟩ = ⟨e, fs⟩ := by
  induction w with
  | nil => rfl
  | cons b w ih =>
      rw [List.foldl_cons, next_of_isSpace patient (blank b List.mem_cons_self)]
      exact ih fun c hc => blank c (List.mem_cons_of_mem _ hc)

/-- A value that has been handed over is followed by white space, or is at fault. -/
theorem isPatient_deliver (v : Node) (fs : List Frame) :
    (deliver v fs).expect.isPatient = true := by
  rcases fs with _ | ⟨f, fs⟩
  · rfl
  · cases f <;> rfl

theorem foldl_blank_deliver {w : List UInt8} (blank : Blank w) (v : Node) (fs : List Frame) :
    w.foldl Scan.next (deliver v fs) = deliver v fs :=
  foldl_blank blank (isPatient_deliver v fs)

/-! ## Where a value ends

A number ends only at the byte after it. Up to that byte the scanner has not handed it over, yet
what it does with a byte that may follow a value is what it would do had it been handed over. -/

/-- The bytes that may follow a value. -/
def MayFollow (b : UInt8) : Prop :=
  isSpace b = true ∨ b = 44 ∨ b = 93 ∨ b = 125

/-- Two scanners that go the same way wherever a value ends. -/
structure Alike (σ τ : Scan) : Prop where
  next : ∀ b, MayFollow b → σ.next b = τ.next b
  finish : σ.finish = τ.finish

theorem Alike.refl (σ : Scan) : Alike σ σ :=
  ⟨fun _ _ => rfl, rfl⟩

/-- No byte that may follow a value is part of a number. -/
theorem mayFollow_range {b : UInt8} (h : MayFollow b) :
    ¬ (48 ≤ b && b ≤ 57) ∧ b ≠ 43 ∧ b ≠ 45 ∧ b ≠ 46 ∧ b ≠ 48 ∧ b ≠ 69 ∧ b ≠ 101 := by
  have cases : b = 32 ∨ b = 9 ∨ b = 10 ∨ b = 13 ∨ b = 44 ∨ b = 93 ∨ b = 125 := by
    simpa [MayFollow, isSpace, or_assoc] using h
  rcases cases with rfl | rfl | rfl | rfl | rfl | rfl | rfl <;> decide

/-- No number goes on with a byte that may follow a value. -/
theorem next?_of_mayFollow {b : UInt8} (h : MayFollow b) (n : Numeral) : n.next? b = none := by
  obtain ⟨digit, plus, minus, point, zero, upper, lower⟩ := mayFollow_range h
  unfold Numeral.next?
  cases n.part <;> simp only [digit, plus, minus, point, zero, upper, lower] <;> rfl

/-- A number comes to the same whether such a byte follows or nothing at all. -/
theorem number?_of_mayFollow {b : UInt8} (h : MayFollow b) (n : Numeral) :
    n.number? (some b) = n.number? none := by
  have digit := (mayFollow_range h).1
  unfold Numeral.number?
  cases n.part with
  | zero => exact if_neg digit
  | minus | point | exponentMark | exponentSign | whole | decimals | exponent => rfl

/-- After a value that ends with its last byte the scanner goes on as after any other. -/
theorem afterScalar_eq (v : Node) (b : UInt8) (fs : List Frame) :
    afterScalar v b fs = (deliver v fs).next b := by
  rcases fs with _ | ⟨f, fs⟩
  · rfl
  · cases f <;> rfl

/-- A number that may end here stands for its value handed over. -/
theorem alike_number {n : Numeral} {v : Number} (ends : n.number? none = some v)
    (fs : List Frame) : Alike ⟨.number n, fs⟩ (deliver (.number v) fs) := by
  refine ⟨?_, ?_⟩
  · intro b h
    rw [← afterScalar_eq]
    simp only [Scan.next, next?_of_mayFollow h, number?_of_mayFollow h, ends]
  · simp only [finish, ends]
    rcases fs with _ | ⟨f, fs⟩
    · rfl
    · cases f <;> rfl

/-- Scanners that go the same way are in the same place once the value has ended. -/
theorem Alike.foldl {σ τ : Scan} (alike : Alike σ τ) {b : UInt8} {w bs : List UInt8}
    (blank : Blank w) (h : MayFollow b) :
    (w ++ b :: bs).foldl Scan.next σ = (w ++ b :: bs).foldl Scan.next τ := by
  cases w with
  | nil => rw [List.nil_append, List.foldl_cons, List.foldl_cons, alike.next b h]
  | cons c w =>
      have space : MayFollow c := .inl (blank c List.mem_cons_self)
      rw [List.cons_append, List.foldl_cons, List.foldl_cons, alike.next c space]

/-! ## Strings and numbers -/

/-- The scanner follows the spelling of a string byte by byte. -/
theorem foldl_body {isKey : Bool} {s t : Spelling} {bs : List UInt8} (fs : List Frame)
    (body : Body s bs t) :
    bs.foldl Scan.next ⟨.string isKey s .plain, fs⟩ = ⟨.string isKey t .plain, fs⟩ := by
  induction body with
  | nil => rfl
  | plain quote slash printable rest ih =>
      rw [List.foldl_cons, ← ih]
      simp [Scan.next, inString, quote, slash, printable]
  | @escape s t b c bs letter rest ih =>
      have notUnit : b ≠ 117 := by
        rintro rfl
        simp [escaped?] at letter
      rw [List.foldl_cons, List.foldl_cons, ← ih]
      simp [Scan.next, inString, notUnit, letter]
  | unit ha hb hc hd rest ih =>
      rw [← ih]
      simp [Scan.next, inString, ha, hb, hc, hd]

/-- A whole string is handed over as what it spells. -/
theorem foldl_string {t : Spelling} {bs : List UInt8} (fs : List Frame) (body : Body .empty bs t) :
    (bs ++ [34]).foldl Scan.next ⟨.string false .empty .plain, fs⟩ = deliver t.close fs := by
  rw [List.foldl_append, foldl_body fs body]
  rfl

/-- A whole key leaves its colon due. -/
theorem foldl_key {t : Spelling} {kbs bs : List UInt8} (ms : List (Node × Node)) (fs : List Frame)
    (body : Body .empty kbs t) :
    (kbs ++ 34 :: bs).foldl Scan.next ⟨.string true .empty .plain, .object ms :: fs⟩
      = bs.foldl Scan.next ⟨.colon, .entry ms t.close :: fs⟩ := by
  rw [List.foldl_append, foldl_body _ body]
  rfl

/-- The scanner follows the bytes of a number. -/
theorem foldl_numeral {first last : Numeral} {bs : List UInt8} (fs : List Frame)
    (rest : bs.foldlM Numeral.next? first = some last) :
    bs.foldl Scan.next ⟨.number first, fs⟩ = ⟨.number last, fs⟩ := by
  induction bs generalizing first with
  | nil =>
      cases rest
      rfl
  | cons b bs ih =>
      obtain ⟨n, grown, rest⟩ := Option.bind_eq_some_iff.mp rest
      rw [List.foldl_cons, ← ih rest]
      simp [Scan.next, grown]

/-! ## Values -/

/-- A byte that begins a number begins nothing else. -/
theorem openValue_of_start? {b : UInt8} {n : Numeral} (start : Numeral.start? b = some n) :
    isSpace b = false ∧ b ≠ 93 ∧ ∀ fs, openValue b fs = ⟨.number n, fs⟩ := by
  -- Neither a sign nor a digit is any of the bytes that are looked for before a number is.
  have others : isSpace b = false ∧ b ≠ 93 ∧ b ≠ 34 ∧ b ≠ 91 ∧ b ≠ 123 ∧ b ≠ 110 ∧ b ≠ 116
      ∧ b ≠ 102 := by
    have ranges : b = 45 ∨ b = 48 ∨ (49 ≤ b && b ≤ 57) = true := by
      unfold Numeral.start? at start
      split at start
      · exact .inl ‹_›
      split at start
      · exact .inr (.inl ‹_›)
      split at start
      · exact .inr (.inr ‹_›)
      · exact nomatch start
    rcases ranges with rfl | rfl | digit
    · decide
    · decide
    · refine ⟨?_, ?_, ?_, ?_, ?_, ?_, ?_, ?_⟩
      · cases space : isSpace b with
        | false => rfl
        | true =>
            have blanks : ((b = 32 ∨ b = 9) ∨ b = 10) ∨ b = 13 := by simpa [isSpace] using space
            rcases blanks with ((rfl | rfl) | rfl) | rfl <;> exact absurd digit (by decide)
      all_goals
        rintro rfl
        exact absurd digit (by decide)
  obtain ⟨space, closing, h₁, h₂, h₃, h₄, h₅, h₆⟩ := others
  refine ⟨space, closing, ?_⟩
  intro fs
  simp [openValue, h₁, h₂, h₃, h₄, h₅, h₆, start]

/-- The first byte of a value: it is no blank, and it does not close an array. -/
theorem head_of_spells {v : Node} {bs : List UInt8} (spelled : Spells (.value v) bs) :
    ∃ b rest, bs = b :: rest ∧ isSpace b = false ∧ b ≠ 93 := by
  cases spelled with
  | @number b bs first last n start _ _ =>
      obtain ⟨space, closing, _⟩ := openValue_of_start? start
      exact ⟨b, bs, rfl, space, closing⟩
  | null | yes | no | string | emptyArray | array | emptyObject | object =>
      exact ⟨_, _, rfl, by decide, by decide⟩

/-- The first item of an array is read as any other value is. -/
theorem foldl_firstItem {v : Node} {bs : List UInt8} (spelled : Spells (.value v) bs)
    (fs : List Frame) (more : List UInt8) :
    (bs ++ more).foldl Scan.next ⟨.firstItem, fs⟩ = (bs ++ more).foldl Scan.next ⟨.value, fs⟩ := by
  obtain ⟨b, rest, rfl, space, open_⟩ := head_of_spells spelled
  rw [List.cons_append, List.foldl_cons, List.foldl_cons]
  simp [Scan.next, space, open_]

/-- What the scanner makes of a part, whichever containers are open around it. -/
def Part.IsScanned : Part → List UInt8 → Prop
  | .value v, bs => ∀ fs, Alike (bs.foldl Scan.next ⟨.value, fs⟩) (deliver v fs)
  | .items vs, bs => ∀ us fs,
      bs.foldl Scan.next ⟨.value, .array us :: fs⟩ = deliver (.array (us.reverse ++ vs) true) fs ∧
      bs.foldl Scan.next ⟨.firstItem, .array us :: fs⟩
        = deliver (.array (us.reverse ++ vs) true) fs
  | .members ms, bs => ∀ us fs,
      bs.foldl Scan.next ⟨.key, .object us :: fs⟩ = deliver (.object (us.reverse ++ ms) true) fs ∧
      bs.foldl Scan.next ⟨.firstKey, .object us :: fs⟩
        = deliver (.object (us.reverse ++ ms) true) fs

/-- An item, and whatever follows it in the array. -/
theorem foldl_item {v : Node} {w bs w' rest : List UInt8} {b : UInt8} {us : List Node}
    {fs : List Frame} {e : Expect} (awaits : e = .value ∨ e = .firstItem) (before : Blank w)
    (spelled : Spells (.value v) bs) (scanned : Part.IsScanned (.value v) bs) (after : Blank w')
    (h : MayFollow b) :
    (w ++ (bs ++ (w' ++ b :: rest))).foldl Scan.next ⟨e, .array us :: fs⟩
      = (b :: rest).foldl Scan.next ⟨.next, .array (v :: us) :: fs⟩ := by
  have patient : e.isPatient = true := by rcases awaits with rfl | rfl <;> rfl
  -- Only a closing bracket would be read otherwise than in front of a later item.
  have start : (bs ++ (w' ++ b :: rest)).foldl Scan.next ⟨e, .array us :: fs⟩
      = (bs ++ (w' ++ b :: rest)).foldl Scan.next ⟨.value, .array us :: fs⟩ := by
    rcases awaits with rfl | rfl
    · rfl
    · exact foldl_firstItem spelled _ _
  rw [List.foldl_append, foldl_blank before patient, start, List.foldl_append,
    (scanned _).foldl after h, List.foldl_append, foldl_blank_deliver after]
  rfl

/-- The key of a member, its value, and whatever follows it in the object. -/
theorem foldl_member {k : Spelling} {v : Node} {w kbs w₁ w₂ bs w' rest : List UInt8} {b : UInt8}
    {us : List (Node × Node)} {fs : List Frame} {e : Expect} (awaits : e = .key ∨ e = .firstKey)
    (before : Blank w) (key : Body .empty kbs k) (beforeColon : Blank w₁) (afterColon : Blank w₂)
    (scanned : Part.IsScanned (.value v) bs) (after : Blank w') (h : MayFollow b) :
    (w ++ 34 :: (kbs ++ 34 :: (w₁ ++ 58 :: (w₂ ++ (bs ++ (w' ++ b :: rest)))))).foldl Scan.next
        ⟨e, .object us :: fs⟩
      = (b :: rest).foldl Scan.next ⟨.next, .object ((k.close, v) :: us) :: fs⟩ := by
  -- The first name of an object and a later one are awaited in the same way.
  have patient : e.isPatient = true := by rcases awaits with rfl | rfl <;> rfl
  have quote : Scan.next ⟨e, .object us :: fs⟩ 34
      = ⟨.string true .empty .plain, .object us :: fs⟩ := by
    rcases awaits with rfl | rfl <;> rfl
  have colon : Scan.next ⟨.colon, .entry us k.close :: fs⟩ 58
      = ⟨.value, .entry us k.close :: fs⟩ := rfl
  rw [List.foldl_append, foldl_blank before patient, List.foldl_cons, quote, foldl_key us fs key,
    List.foldl_append, foldl_blank beforeColon rfl, List.foldl_cons, colon, List.foldl_append,
    foldl_blank afterColon rfl, List.foldl_append, (scanned _).foldl after h, List.foldl_append,
    foldl_blank_deliver after]
  rfl

/-- The scanner reads every part as the grammar spells it. -/
theorem isScanned_of_spells {p : Part} {bs : List UInt8} (spelled : Spells p bs) :
    p.IsScanned bs := by
  -- By how the part is spelled. What is open around it, and read of it before, is left general.
  induction spelled with
  | null | yes | no => exact fun fs => Alike.refl _
  | @number b bs first last n start rest ends =>
      intro fs
      obtain ⟨space, _, opens⟩ := openValue_of_start? start
      rw [List.foldl_cons]
      simp only [Scan.next, space, Bool.false_eq_true, if_false, opens, foldl_numeral fs rest]
      exact alike_number ends fs
  | string body =>
      intro fs
      show Alike (List.foldl Scan.next ⟨.string false .empty .plain, fs⟩ _) _
      rw [foldl_string fs body]
      exact Alike.refl _
  | emptyArray blank =>
      intro fs
      show Alike (List.foldl Scan.next ⟨.firstItem, .array [] :: fs⟩ _) _
      rw [List.foldl_append, foldl_blank blank rfl]
      exact Alike.refl _
  | array items ih =>
      intro fs
      show Alike (List.foldl Scan.next ⟨.firstItem, .array [] :: fs⟩ _) _
      rw [(ih [] fs).2]
      exact Alike.refl _
  | emptyObject blank =>
      intro fs
      show Alike (List.foldl Scan.next ⟨.firstKey, .object [] :: fs⟩ _) _
      rw [List.foldl_append, foldl_blank blank rfl]
      exact Alike.refl _
  | object members ih =>
      intro fs
      show Alike (List.foldl Scan.next ⟨.firstKey, .object [] :: fs⟩ _) _
      rw [(ih [] fs).2]
      exact Alike.refl _
  | lastItem before item after ih =>
      intro us fs
      have closes : MayFollow 93 := .inr (.inr (.inl rfl))
      refine ⟨?_, ?_⟩
      · rw [foldl_item (.inl rfl) before item ih after closes]
        simp [Scan.next, afterValue, isSpace]
      · rw [foldl_item (.inr rfl) before item ih after closes]
        simp [Scan.next, afterValue, isSpace]
  | @item v vs w bs w' rest before item after more ih ihMore =>
      intro us fs
      have comma : MayFollow 44 := .inr (.inl rfl)
      -- The items so far are held in reverse.
      have goesOn := (ihMore (v :: us) fs).1
      rw [List.reverse_cons, List.append_assoc] at goesOn
      refine ⟨?_, ?_⟩
      · rw [foldl_item (.inl rfl) before item ih after comma]
        exact goesOn
      · rw [foldl_item (.inr rfl) before item ih after comma]
        exact goesOn
  | lastMember before key beforeColon afterColon value after ih =>
      intro us fs
      have closes : MayFollow 125 := .inr (.inr (.inr rfl))
      refine ⟨?_, ?_⟩
      · rw [foldl_member (.inl rfl) before key beforeColon afterColon ih after closes]
        simp [Scan.next, afterValue, isSpace]
      · rw [foldl_member (.inr rfl) before key beforeColon afterColon ih after closes]
        simp [Scan.next, afterValue, isSpace]
  | @member k v ms w kbs w₁ w₂ bs w' rest before key beforeColon afterColon value after more ih
      ihMore =>
      intro us fs
      have comma : MayFollow 44 := .inr (.inl rfl)
      have goesOn := (ihMore ((k.close, v) :: us) fs).1
      rw [List.reverse_cons, List.append_assoc] at goesOn
      refine ⟨?_, ?_⟩
      · rw [foldl_member (.inl rfl) before key beforeColon afterColon ih after comma]
        exact goesOn
      · rw [foldl_member (.inr rfl) before key beforeColon afterColon ih after comma]
        exact goesOn

/-- The scanner finds the value that a text spells, and nothing after it but white space. -/
theorem scan_of_spells {v : Node} {w bs w' : List UInt8} (before : Blank w)
    (spelled : Spells (.value v) bs) (after : Blank w') : scan (w ++ (bs ++ w')) = (v, true) := by
  have alike := isScanned_of_spells spelled []
  unfold scan
  rw [List.foldl_append, foldl_blank before rfl, List.foldl_append]
  -- A number at the very end is handed over by the end of the text, else by the byte after it.
  cases w' with
  | nil => exact alike.finish
  | cons b w' =>
      have space : MayFollow b := .inl (after b List.mem_cons_self)
      rw [List.foldl_cons, alike.next b space, ← List.foldl_cons, foldl_blank_deliver after]
      rfl

end Playgrounds.Json
