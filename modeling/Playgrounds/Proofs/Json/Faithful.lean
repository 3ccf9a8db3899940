import Playgrounds.Json.Format
import Playgrounds.Proofs.Instant.RoundTrip
import Playgrounds.Proofs.Json.Writing

/-!
# Faithful formats

A format is faithful if it reads back whatever it writes. Single values are, and so are lists of
them and values that may be absent.

* `Format.Faithful` — the notion.
* `Format.Faithful.read_write` — a faithful format undoes its own text.
* `Format.rewrite`, `Format.Settles` — a text that is read and written again, and what is to be
  expected of it: the first writing settles the text, and no value is lost.
-/

namespace Playgrounds.Json

/-! ## Results of reading -/

theorem bind_eq_ok_iff {ε α β : Type} {x : Except ε α} {f : α → Except ε β} {b : β} :
    x.bind f = .ok b ↔ ∃ a, x = .ok a ∧ f a = .ok b := by
  cases x <;> simp [Except.bind]

theorem map_eq_ok_iff {ε α β : Type} {x : Except ε α} {f : α → β} {b : β} :
    x.map f = .ok b ↔ ∃ a, x = .ok a ∧ f a = b := by
  cases x <;> simp [Except.map]

/-! ## Faithful formats -/

namespace Format

variable {α β : Type}

/-- The format reads back what it writes. -/
def Faithful (f : Format α) : Prop :=
  ∀ a, f.ofNode (f.toValue a).node = .ok a

/-- A faithful format undoes its own text. -/
theorem Faithful.read_write {f : Format α} (faithful : f.Faithful) (a : α) :
    f.read (Text.bytes (f.write a)) = .ok a := by
  have first : f.readFirst (Text.bytes (f.write a)) = .ok a := by
    rw [readFirst, write, scan_writing]
    exact faithful a
  rw [read, first, write, scan_writing]
  rfl

/-- Different values have different texts. -/
theorem Faithful.write_inj {f : Format α} (faithful : f.Faithful) {a b : α} :
    f.write a = f.write b ↔ a = b := by
  constructor
  · intro same
    have read := faithful.read_write a
    rw [same, faithful.read_write b] at read
    exact (Except.ok.inj read).symm
  · exact congrArg f.write

/-! ## Writing again what was read -/

/-- Reads a text, and writes the value that it spells. -/
def rewrite (f : Format α) (b : List UInt8) : Except Fault (List UInt8) :=
  (f.read b).map fun a => Text.bytes (f.write a)

/-- Writing again what was read gives what is written of some value that was read. -/
theorem rewrite_eq_ok_iff {f : Format α} {b c : List UInt8} :
    f.rewrite b = .ok c ↔ ∃ a, f.read b = .ok a ∧ Text.bytes (f.write a) = c :=
  map_eq_ok_iff

theorem Faithful.rewrite_write {f : Format α} (faithful : f.Faithful) (a : α) :
    f.rewrite (Text.bytes (f.write a)) = .ok (Text.bytes (f.write a)) :=
  rewrite_eq_ok_iff.mpr ⟨a, faithful.read_write a, rfl⟩

/-- Writing again what was read loses no value, and settles the text: a second time changes
nothing, and the texts that it leaves alone are those that are written. -/
structure Settles (f : Format α) : Prop where
  /-- The value of a text is that of the text written for it. -/
  read_write : ∀ b a, f.read b = .ok a → f.read (Text.bytes (f.write a)) = .ok a
  /-- Every value is that of some text. -/
  exists_read : ∀ a, ∃ b, f.read b = .ok a
  /-- A second rewriting changes nothing. -/
  rewrite_rewrite : ∀ b, (f.rewrite b).bind f.rewrite = f.rewrite b
  /-- The settled texts are the written ones. -/
  rewrite_eq_self_iff : ∀ b, f.rewrite b = .ok b ↔ ∃ a, b = Text.bytes (f.write a)
  /-- Texts that settle alike have the same value. -/
  read_eq_of_rewrite_eq : ∀ b b' c, f.rewrite b = .ok c → f.rewrite b' = .ok c →
    f.read b = f.read b'

/-- **Writing again settles at once**: a second time changes nothing more. -/
theorem Faithful.settles {f : Format α} (faithful : f.Faithful) : f.Settles where
  read_write := fun _ a _ => faithful.read_write a
  exists_read := fun a => ⟨_, faithful.read_write a⟩
  rewrite_rewrite := by
    intro b
    cases read : f.rewrite b with
    | error e => rfl
    | ok c =>
        obtain ⟨a, -, rfl⟩ := rewrite_eq_ok_iff.mp read
        exact faithful.rewrite_write a
  rewrite_eq_self_iff := by
    intro b
    constructor
    · intro settled
      obtain ⟨a, -, same⟩ := rewrite_eq_ok_iff.mp settled
      exact ⟨a, same.symm⟩
    · rintro ⟨a, rfl⟩
      exact faithful.rewrite_write a
  read_eq_of_rewrite_eq := by
    intro b b' c first second
    obtain ⟨a, read, rfl⟩ := rewrite_eq_ok_iff.mp first
    obtain ⟨a', read', same⟩ := rewrite_eq_ok_iff.mp second
    -- Two values that are written alike are one, as each is what is read back.
    have back := faithful.read_write a'
    rw [same, faithful.read_write a] at back
    rw [read, read', back]

/-! ## Single values -/

theorem faithful_text : text.Faithful :=
  fun _ => rfl

theorem faithful_word : word.Faithful :=
  fun _ => rfl

theorem faithful_flag : flag.Faithful :=
  fun _ => rfl

theorem faithful_instant : instant.Faithful := by
  intro t
  simp [instant, Value.node, Instant.read?_text]

/-- Null is left for the value that is absent. -/
theorem Faithful.nullable {f : Format α} (faithful : f.Faithful)
    (never : ∀ a, (f.toValue a).node ≠ .null) : f.nullable.Faithful := by
  intro a
  cases a with
  | none => rfl
  | some a =>
      have read := faithful a
      have never := never a
      simp only [Format.nullable]
      generalize (f.toValue a).node = n at read never
      cases n with
      | null => exact absurd rfl never
      | _ => simp only [read, Except.map]

/-- A faithful format stays so under another name for its values. -/
theorem Faithful.along {f : Format α} (faithful : f.Faithful) {toInner : β → α} {ofInner : α → β}
    (inverse : ∀ b, ofInner (toInner b) = b) : (f.along toInner ofInner).Faithful := by
  intro b
  show (f.ofNode (f.toValue (toInner b)).node).map ofInner = .ok b
  rw [faithful (toInner b), Except.map, inverse]

theorem itemNodes_map (f : Format α) (as : List α) :
    Value.itemNodes (as.map f.toValue) = as.map fun a => (f.toValue a).node := by
  induction as with
  | nil => rfl
  | cons a as ih => rw [List.map_cons, Value.itemNodes, ih, List.map_cons]

/-- A list is written faithfully if its items are. -/
theorem Faithful.list {f : Format α} (faithful : f.Faithful) : f.list.Faithful := by
  have items : ∀ as : List α, readItems f (as.map fun a => (f.toValue a).node) = .ok as := by
    intro as
    induction as with
    | nil => rfl
    | cons a as ih =>
        rw [List.map_cons, readItems, faithful a]
        simp [Except.bind, Except.map, ih]
  intro as
  simp only [Format.list, Value.node, itemNodes_map, items]
  rfl

/-- A choice is read back where no two choices share a name. -/
theorem faithful_choice {all : List α} {name : α → String} (complete : ∀ a, a ∈ all)
    (distinct : ∀ a b, name a = name b → a = b) : (choice all name).Faithful := by
  intro a
  simp only [choice, Value.node]
  cases found : all.find? (name · == name a) with
  | none =>
      have missing := List.find?_eq_none.mp found a (complete a)
      simp at missing
  | some b =>
      have same : name b = name a := by simpa using List.find?_some found
      rw [distinct b a same]
      rfl

end Format

end Playgrounds.Json
