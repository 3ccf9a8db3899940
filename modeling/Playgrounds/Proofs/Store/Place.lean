import Playgrounds.Proofs.Store.Table
import Playgrounds.Store.Keyed
import Mathlib.Logic.Function.Basic

/-!
# The places of a key space

Every key that the store uses belongs to a `Place`: an index, a record, or the index of a session's
instances. Two places never share a key, as long as no session id ends like the key of such an
index; ids that do not are `Plain`, and a place of a session carries the proof that its id is.

* `Place.key_injective` — different places have different keys.
* `Shows` — what a key space holds, place by place, and that it holds nothing else.
* `Commits` — what a transaction makes of that, all its commands being accepted.
-/

namespace Playgrounds.Store

open Std

/-! ## Plain ids -/

/-- A session id that does not end like the key of an index of instances. -/
def Plain (id : String) : Prop :=
  ∀ s, id ≠ s ++ ":instances"

/-- A short id is plain. -/
theorem plain_of_length {id : String} (short : id.length < 10) : Plain id := by
  rintro s rfl
  rw [String.length_append, show ":instances".length = 10 from rfl] at short
  omega

/-! ## Places -/

/-- Where the store keeps something. -/
inductive Place where
  | sessionIds
  | playgroundIds
  | session (id : { id : String // Plain id })
  | instances (sessionId : String)
  | instance (name : String)
  | playground (id : String)
deriving DecidableEq

namespace Place

/-- The key of a place. -/
def key : Place → String
  | sessionIds => Key.sessionIds
  | playgroundIds => Key.playgroundIds
  | session id => Key.ofSession id
  | instances id => Key.instancesOf id
  | .instance name => Key.ofInstance name
  | playground id => Key.ofPlayground id

/-- The word between the first two colons of a place's key. -/
def word : Place → String
  | sessionIds => "session_ids"
  | playgroundIds => "playground_ids"
  | session _ | instances _ => "session"
  | .instance _ => "instance"
  | playground _ => "playground"

/-- After their common beginning, keys begin with the word for what they hold. -/
theorem takeWhile_key (p : Place) :
    (p.key.toList.drop 7).takeWhile (· ≠ ':') = p.word.toList := by
  cases p with
  | sessionIds =>
      show ("pgroad:session_ids".toList.drop 7).takeWhile (· ≠ ':') = "session_ids".toList
      simp
  | playgroundIds =>
      show ("pgroad:playground_ids".toList.drop 7).takeWhile (· ≠ ':') = "playground_ids".toList
      simp
  | session id =>
      show (("pgroad:session:" ++ id.val).toList.drop 7).takeWhile (· ≠ ':') = "session".toList
      simp
  | instances id =>
      show (("pgroad:session:" ++ id ++ ":instances").toList.drop 7).takeWhile (· ≠ ':')
        = "session".toList
      simp
  | «instance» name =>
      show (("pgroad:instance:" ++ name).toList.drop 7).takeWhile (· ≠ ':') = "instance".toList
      simp
  | playground id =>
      show (("pgroad:playground:" ++ id).toList.drop 7).takeWhile (· ≠ ':') = "playground".toList
      simp

/-- Keys of different kinds of places differ in that word. -/
theorem word_eq {p q : Place} (same : p.key = q.key) : p.word = q.word := by
  rw [← String.toList_inj, ← takeWhile_key, ← takeWhile_key, same]

/-- The record of a session with a plain id has the key of no index. -/
theorem key_session_ne (id : { id : String // Plain id }) (s : String) :
    (session id).key ≠ (instances s).key := by
  intro same
  have written : Key.instancesOf s = "pgroad:session:" ++ (s ++ ":instances") :=
    String.append_assoc
  exact id.2 s ((String.append_right_inj _).mp (same.trans written))

/-- Different places have different keys. -/
theorem key_injective {p q : Place} (same : p.key = q.key) : p = q := by
  have words := word_eq same
  -- Places whose words differ are different; the two kinds under one word are told apart below.
  cases p <;> cases q <;> try (simp [word] at words; done)
  case sessionIds.sessionIds | playgroundIds.playgroundIds => rfl
  case session.session =>
      exact congrArg session (Subtype.ext ((String.append_right_inj _).mp same))
  case session.instances id s => exact absurd same (key_session_ne id s)
  case instances.session s id => exact absurd same.symm (key_session_ne id s)
  case instances.instances =>
      exact congrArg instances
        ((String.append_right_inj _).mp ((String.append_left_inj _).mp same))
  case instance.instance => exact congrArg Place.instance ((String.append_right_inj _).mp same)
  case playground.playground => exact congrArg playground ((String.append_right_inj _).mp same)

@[simp] theorem key_inj {p q : Place} : p.key = q.key ↔ p = q :=
  ⟨key_injective, congrArg key⟩

/-- Different places have different keys. -/
theorem key_ne {p q : Place} (other : p ≠ q) : p.key ≠ q.key :=
  fun same => other (key_injective same)

/-- The record of a session lies at a place of its own if the id is plain, and where the index of
another session is otherwise. -/
theorem exists_ofSession (id : String) : ∃ p : Place, p.key = Key.ofSession id ∧
    ((∃ plain, p = session ⟨id, plain⟩) ∨ ∃ s, id = s ++ ":instances" ∧ p = instances s) := by
  by_cases plain : Plain id
  · exact ⟨session ⟨id, plain⟩, rfl, .inl ⟨plain, rfl⟩⟩
  · obtain ⟨s, rfl⟩ : ∃ s, id = s ++ ":instances" := by
      simpa [Plain] using plain
    exact ⟨instances s, String.append_assoc, .inr ⟨s, rfl, rfl⟩⟩

end Place

/-! ## The keys of instances and of their indexes -/

theorem ofInstance_inj {a b : String} : Key.ofInstance a = Key.ofInstance b ↔ a = b := by
  show (Place.instance a).key = (Place.instance b).key ↔ a = b
  rw [Place.key_inj, Place.instance.injEq]

theorem instancesOf_inj {a b : String} : Key.instancesOf a = Key.instancesOf b ↔ a = b := by
  show (Place.instances a).key = (Place.instances b).key ↔ a = b
  rw [Place.key_inj, Place.instances.injEq]

theorem ofInstance_ne_instancesOf (name sessionId : String) :
    Key.ofInstance name ≠ Key.instancesOf sessionId :=
  Place.key_ne (p := .instance name) (q := .instances sessionId) Place.noConfusion

theorem ofInstance_ne_sessionIds (name : String) : Key.ofInstance name ≠ Key.sessionIds :=
  Place.key_ne (p := .instance name) (q := .sessionIds) Place.noConfusion

theorem instancesOf_ne_sessionIds (sessionId : String) :
    Key.instancesOf sessionId ≠ Key.sessionIds :=
  Place.key_ne (p := .instances sessionId) (q := .sessionIds) Place.noConfusion

/-- The record of a session has the key of no place but those of records and of indexes. -/
theorem ofSession_ne_key (id : String) {p : Place} (record : ∀ id, p ≠ .session id)
    (index : ∀ s, p ≠ .instances s) : Key.ofSession id ≠ p.key := by
  obtain ⟨q, same, (⟨plain, rfl⟩ | ⟨s, -, rfl⟩)⟩ := Place.exists_ofSession id
  · rw [← same]
    exact Place.key_ne fun h => record _ h.symm
  · rw [← same]
    exact Place.key_ne fun h => index s h.symm

theorem ofInstance_ne_ofSession (name id : String) : Key.ofInstance name ≠ Key.ofSession id :=
  (ofSession_ne_key id (p := .instance name) nofun nofun).symm

theorem ofSession_ne_sessionIds (id : String) : Key.ofSession id ≠ Key.sessionIds :=
  ofSession_ne_key id (p := .sessionIds) nofun nofun

theorem ofSession_inj {a b : String} : Key.ofSession a = Key.ofSession b ↔ a = b :=
  String.append_right_inj _

/-- The record of a session has the key of an index exactly if its id ends like that. -/
theorem ofSession_eq_instancesOf_iff {id s : String} :
    Key.ofSession id = Key.instancesOf s ↔ id = s ++ ":instances" := by
  rw [← ofSession_inj (b := s ++ ":instances")]
  show _ = "pgroad:session:" ++ s ++ ":instances" ↔ _ = "pgroad:session:" ++ (s ++ ":instances")
  rw [String.append_assoc]

/-- Where an id is plain, the key of its session is not that of an index. -/
theorem instancesOf_ne_ofSession (sessionId : String) {id : String} (plain : Plain id) :
    Key.instancesOf sessionId ≠ Key.ofSession id :=
  fun same => plain sessionId (ofSession_eq_instancesOf_iff.mp same.symm)

/-! ## What a key space shows -/

/-- What a key holds whose set is this one. -/
def setEntry (s : ExtTreeSet String) : Option Entry :=
  if s.isEmpty then none else some (.set s)

/-- A set is an entry unless it is empty. -/
theorem setEntry_eq_some {s : ExtTreeSet String} {e : Entry} :
    setEntry s = some e ↔ s ≠ ∅ ∧ e = .set s := by
  unfold setEntry
  by_cases empty : s.isEmpty = true
  · rw [if_pos empty]
    simp [ExtTreeSet.isEmpty_iff.mp empty]
  · rw [if_neg empty]
    have some : s ≠ ∅ := fun e => empty (ExtTreeSet.isEmpty_iff.mpr e)
    simp [some, eq_comm]

/-- What each place holds. -/
abbrev View := Place → Option Entry

/-- The key space holds this at each place, and nothing under any other key. -/
structure Shows (k : KeySpace) (v : View) : Prop where
  place : ∀ p : Place, k[p.key]? = v p
  owned : ∀ key e, k[key]? = some e → ∃ p : Place, p.key = key

variable {k : KeySpace} {v w : View} {p : Place}

/-- An empty key space shows nothing. -/
theorem shows_empty : Shows ∅ fun _ => none := by
  refine ⟨fun _ => ExtTreeMap.getElem?_empty, ?_⟩
  intro key e found
  exact nomatch ExtTreeMap.getElem?_empty.symm.trans found

/-- What is put in a place is shown there, and nowhere else. -/
theorem Shows.insert (h : Shows k v) (p : Place) (e : Entry) :
    Shows (k.insert p.key e) (Function.update v p (some e)) := by
  refine ⟨?_, ?_⟩
  · intro q
    rw [getElem?_insert_eq, Function.update_apply, h.place]
    simp only [Place.key_inj, eq_comm]
  · intro key e' found
    rw [getElem?_insert_eq] at found
    split at found
    · exact ⟨p, ‹_›⟩
    · exact h.owned key e' found

/-- What is erased is shown no more. -/
theorem Shows.erase (h : Shows k v) (p : Place) :
    Shows (k.erase p.key) (Function.update v p none) := by
  refine ⟨?_, ?_⟩
  · intro q
    rw [getElem?_erase_eq, Function.update_apply, h.place]
    simp only [Place.key_inj, eq_comm]
  · intro key e' found
    rw [getElem?_erase_eq] at found
    split at found
    · exact nomatch found
    · exact h.owned key e' found

/-- A set that is put in a place is shown there, unless it is empty. -/
theorem Shows.putSet (h : Shows k v) (p : Place) (s : ExtTreeSet String) :
    Shows (k.putSet p.key s) (Function.update v p (setEntry s)) := by
  unfold KeySpace.putSet setEntry
  split
  · exact h.erase p
  · exact h.insert p (.set s)

/-- A set is found at its place, be it empty or not. -/
theorem Shows.set? (h : Shows k v) {s : ExtTreeSet String} (set : v p = setEntry s) :
    k.set? p.key = some s := by
  rw [KeySpace.set?, h.place, set, setEntry]
  by_cases empty : s.isEmpty = true
  · rw [if_pos empty, ExtTreeSet.isEmpty_iff.mp empty]
  · rw [if_neg empty]

/-- A record is answered as it is shown, and nothing changes. -/
theorem Shows.run_get (h : Shows k v) (order : Listing) (p : Place) :
    KeySpace.run order (.get p.key) k = (match v p with
      | none => .text none
      | some (.text s) => .text (some s)
      | some (.set _) => .error .wrongKind, k) := by
  rw [KeySpace.run, h.place]
  rcases v p with _ | ⟨_ | _⟩ <;> rfl

/-- The members of a set are named in the order of the day, and nothing changes. -/
theorem Shows.run_members (h : Shows k v) (order : Listing) {s : ExtTreeSet String}
    (set : v p = setEntry s) :
    KeySpace.run order (.members p.key) k = (.members (order.names s), k) := by
  rw [KeySpace.run, h.set? set]

/-! ## Transactions -/

/-- A transaction whose commands are all accepted, and which leads from one view to another. -/
def Commits (cs : List Command) (v w : View) : Prop :=
  ∀ orders k, Shows k v → Keyed.firstRefusal (KeySpace.runAll orders cs k).1 = none ∧
    Shows (KeySpace.runAll orders cs k).2 w

theorem Commits.of_eq (same : v = w) : Commits [] v w :=
  fun _ _ h => ⟨rfl, same ▸ h⟩

variable {cs : List Command}

/-- A text is written, and then the rest is run. -/
theorem Commits.set {text : String}
    (rest : Commits cs (Function.update v p (some (.text text))) w) :
    Commits (.set p.key text :: cs) v w :=
  fun orders _ h => rest orders _ (h.insert p (.text text))

theorem Commits.delete (rest : Commits cs (Function.update v p none) w) :
    Commits (.delete p.key :: cs) v w :=
  fun orders _ h => rest orders _ (h.erase p)

/-- A member is added to a set, and then the rest is run. -/
theorem Commits.addMember {s : ExtTreeSet String} {member : String} (set : v p = setEntry s)
    (rest : Commits cs (Function.update v p (setEntry (s.insert member))) w) :
    Commits (.addMember p.key member :: cs) v w := by
  intro orders k h
  simp only [KeySpace.runAll, KeySpace.run, h.set? set]
  exact rest orders _ (h.putSet p _)

/-- A member is taken out of a set, and then the rest is run. -/
theorem Commits.removeMember {s : ExtTreeSet String} {member : String} (set : v p = setEntry s)
    (rest : Commits cs (Function.update v p (setEntry (s.erase member))) w) :
    Commits (.removeMember p.key member :: cs) v w := by
  intro orders k h
  simp only [KeySpace.runAll, KeySpace.run, h.set? set]
  exact rest orders _ (h.putSet p _)

/-- The records of some instances are removed. -/
theorem Commits.deleteInstances {names : List String}
    (rest : Commits cs (fun p => if p ∈ names.map Place.instance then none else v p) w) :
    Commits (names.map (fun name => .delete (Key.ofInstance name)) ++ cs) v w := by
  -- What the first removal leaves is what the others start from.
  induction names generalizing v with
  | nil => exact rest
  | cons name names ih =>
      refine Commits.delete (p := .instance name) (ih ?_)
      have same : (fun p => if p ∈ names.map Place.instance then none
            else Function.update v (.instance name) none p)
          = fun p => if p ∈ (name :: names).map Place.instance then none else v p := by
        funext p
        by_cases here : p = .instance name
        · simp [here]
        · simp [here]
      rw [same]
      exact rest

end Playgrounds.Store
