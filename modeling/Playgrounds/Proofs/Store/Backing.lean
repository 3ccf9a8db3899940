import Playgrounds.Proofs.Store.Contents
import Playgrounds.Store.Backing

/-!
# What either store has of the playgrounds

In memory or on a server, a playground that was written is read under its id from then on, and
whatever is read under other ids stays as it was. Nothing else that can be asked of a store makes it
answer with a playground under the id of another.

* `Backing.playground` — what is read under an id.
* `Backing.IsQuiet` — no refusal is armed.
* `Backing.IsQuiet.read`, `Backing.IsQuiet.put` — what reading and writing make of what is read.
* `Backing.IsReached` — the stores that operations lead to; they are sound, `Backing.IsSound`, and a
  sound store has every playground under its own id.
-/

namespace Playgrounds.Store

open Std

namespace Server

variable {s s' : Server}

/-- The record of a playground is told by what its key holds, and by nothing else. -/
theorem playground_congr (quiet : s.IsQuiet) (quiet' : s'.IsQuiet) {id : String}
    (same : s'.entries[Key.ofPlayground id]? = s.entries[Key.ofPlayground id]?) :
    s'.playground id = s.playground id := by
  rw [playground, playground, (Dialogue.talk_of_isQuiet quiet _).1,
    (Dialogue.talk_of_isQuiet quiet' _).1, Keyed.dialogue, Keyed.run_get, Keyed.run_get, same]

/-- A playground that is written under its key is read. -/
theorem playground_of_text (quiet : s.IsQuiet) {p : Playground}
    (found : s.entries[Key.ofPlayground p.id]? = some (.text (Playground.format.write p))) :
    s.playground p.id = .ok p := by
  rw [playground, (Dialogue.talk_of_isQuiet quiet _).1, Keyed.dialogue, Keyed.run_get, found]
  simp only [Playground.faithful_format.read_write]
  rfl

/-- A playground that could be written lies under its key, and no other playground is touched. -/
theorem getElem?_playgroundPut (quiet : s.IsQuiet) {p : Playground}
    (written : (s.talk (Keyed.dialogue (.playgroundPut p))).1.1 = .ok ()) (id : String) :
    (s.talk (Keyed.dialogue (.playgroundPut p))).2.entries[Key.ofPlayground id]?
      = if p.id = id then some (.text (Playground.format.write p))
        else s.entries[Key.ofPlayground id]? := by
  have apart : ∀ id, Key.ofPlayground id ≠ Key.playgroundIds := fun id =>
    Place.key_ne (p := .playground id) (q := .playgroundIds) Place.noConfusion
  have own : Key.ofPlayground p.id = Key.ofPlayground id ↔ p.id = id := by
    show (Place.playground p.id).key = (Place.playground id).key ↔ p.id = id
    rw [Place.key_inj, Place.playground.injEq]
  obtain ⟨answer, -, entries⟩ :=
    Dialogue.talk_of_isQuiet quiet (Keyed.dialogue (.playgroundPut p))
  have ran : (Keyed.put _ (Key.ofPlayground p.id) Key.playgroundIds p.id p).run s.orders s.entries
      = _ := Keyed.run_put Playground.format p (apart p.id) s.entries
  rw [answer, Keyed.dialogue, ran] at written
  rw [entries, Keyed.dialogue, ran]
  -- Had the ids not been a set, the transaction would have been refused.
  cases set : s.entries.set? Key.playgroundIds with
  | none =>
      rw [set] at written
      cases written
  | some ids =>
      simp only [KeySpace.getElem?_putSet, if_neg (apart id).symm, getElem?_insert_eq, own]

end Server

namespace Backing

variable {b : Backing} {α : Type}

/-- What is read of the playground with an id. -/
def playground (b : Backing) (id : String) : Outcome Playground :=
  (b.run (.playgroundGet id)).1.1

/-- The store does what it is asked: if it is on a server, no refusal is armed. -/
def IsQuiet : Backing → Prop
  | memory _ => True
  | server s => s.IsQuiet

/-- To read changes nothing of what is read. -/
theorem IsQuiet.read (quiet : b.IsQuiet) (op : Operation α) (reads : ¬op.IsWrite) :
    (b.run op).2.IsQuiet ∧ (b.run op).2.playground = b.playground := by
  cases b with
  | memory t =>
      -- In memory only writes change the tables.
      have same : (t.run op).2 = t := by
        cases op with
        | sessionGet | sessions | instanceGet | instancesOf | playgroundGet | playgrounds => rfl
        | sessionPut | sessionDelete | instancePut | instanceDelete | playgroundPut =>
            exact absurd trivial reads
      refine ⟨trivial, ?_⟩
      show (memory (t.run op).2).playground = _
      rw [same]
  | server s =>
      obtain ⟨-, quiet', entries⟩ := Dialogue.talk_of_isQuiet quiet (Keyed.dialogue op)
      rw [Keyed.run_snd_of_not_isWrite reads] at entries
      refine ⟨quiet', funext fun id => ?_⟩
      show Server.playground _ id = Server.playground s id
      exact Server.playground_congr quiet quiet' (by rw [entries])

/-- **A playground that could be written is what is read under its id.** -/
theorem IsQuiet.put (quiet : b.IsQuiet) {p : Playground}
    (written : (b.run (.playgroundPut p)).1.1 = .ok ()) :
    (b.run (.playgroundPut p)).2.IsQuiet ∧
      (b.run (.playgroundPut p)).2.playground = Function.update b.playground p.id (.ok p) := by
  cases b with
  | memory t =>
      refine ⟨trivial, funext fun id => ?_⟩
      show Tables.find (t.playgrounds.insert p.id p) .playgroundRecord id = _
      rw [Tables.find, getElem?_insert_eq, Function.update_apply]
      by_cases own : p.id = id
      · rw [if_pos own, if_pos own.symm]
      · rw [if_neg own, if_neg (Ne.symm own)]
        rfl
  | server s =>
      obtain ⟨-, quiet', -⟩ :=
        Dialogue.talk_of_isQuiet quiet (Keyed.dialogue (.playgroundPut p))
      have written : (s.talk (Keyed.dialogue (.playgroundPut p))).1.1 = .ok () := written
      have entry := Server.getElem?_playgroundPut quiet written
      refine ⟨quiet', funext fun id => ?_⟩
      show Server.playground _ id = _
      rw [Function.update_apply]
      by_cases own : p.id = id
      · subst own
        rw [if_pos rfl]
        exact Server.playground_of_text quiet' ((entry p.id).trans (if_pos rfl))
      · rw [if_neg (Ne.symm own)]
        exact Server.playground_congr quiet quiet' ((entry id).trans (if_neg own))

/-! ## Stores that operations lead to -/

/-- The stores that operations lead to from an empty one, in memory or on a server. -/
inductive IsReached : Backing → Prop where
  | memory : IsReached (.memory .empty)
  | server (orders : Nat → Listing) : IsReached (.server (.new orders))
  | run {b : Backing} {α : Type} (op : Operation α) (before : IsReached b) :
    IsReached (b.run op).2

/-- Every playground lies under its own id, or comes from an operation that put it there. -/
def IsSound : Backing → Prop
  | memory t => UnderOwn Playground.id t.playgrounds
  | server s => s.IsFrom fun _ => True

/-- **One more operation keeps a store sound.** -/
theorem IsSound.run (sound : b.IsSound) (op : Operation α) : (b.run op).2.IsSound := by
  cases b with
  | memory t =>
      have sound : UnderOwn Playground.id t.playgrounds := sound
      cases op with
      | playgroundPut p => exact sound.insert rfl
      | sessionGet | sessionPut | sessionDelete | sessions | instanceGet | instancePut
      | instanceDelete | instancesOf | playgroundGet | playgrounds => exact sound
  | server s => exact Server.IsFrom.talk sound op trivial

/-- **A store that operations lead to is sound.** -/
theorem IsReached.isSound (reached : b.IsReached) : b.IsSound := by
  induction reached with
  | memory => exact all_empty
  | server orders => exact ⟨rfl, isKept_empty⟩
  | run op _ ih => exact ih.run op

/-- A sound store is quiet. -/
theorem IsSound.isQuiet (sound : b.IsSound) : b.IsQuiet := by
  cases b with
  | memory t => trivial
  | server s => exact Server.IsFrom.quiet sound

/-- A playground is read under its own id. -/
theorem IsSound.own (sound : b.IsSound) {id : String} {p : Playground}
    (read : b.playground id = .ok p) : p.id = id := by
  cases b with
  | memory t =>
      have read : Tables.find t.playgrounds .playgroundRecord id = .ok p := read
      rw [Tables.find] at read
      split at read
      next q found =>
          cases read
          exact sound id p found
      next => cases read
  | server s =>
      have read : s.playground id = .ok p := read
      rcases Server.IsFrom.playground_cases sound id with absent | ⟨q, -, own, found⟩
      · cases absent.symm.trans read
      · cases found.symm.trans read
        exact own

end Backing

end Playgrounds.Store
