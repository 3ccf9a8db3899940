import Playgrounds.Proofs.Store.Contents

/-!
# Records that others have spoilt

Somebody else may remove records from a store server, or write any text in their place. The indexes
then name records that are gone or cannot be read. A listing passes over those and over no others;
only a reader who asks for such a record by its id is told of it.

* `Edit`, `Server.edit` — what others may do to a record.
* `KeySpace.IsOrderly` — indexes hold sets and records hold texts, whatever texts; runs of
  operations lead to such a key space, and edits keep it so.
* `Server.listed` — the records that an index names and that can be read, in the order in which the
  server will name them.
* `IsWith` — a list and one more entry in it; sorting keeps the two apart.
* `readable_records_stay_listed` — what a server answers after any operations and any edits.
-/

namespace Playgrounds.Store

open Std Json

/-! ## Edits -/

/-- The place is that of a single record. -/
def Place.IsRecord : Place → Prop
  | .session _ | .instance _ | .playground _ => True
  | .sessionIds | .playgroundIds | .instances _ => False

/-- What somebody else does to a record: it is removed, or a text is written in its place. -/
structure Edit where
  place : Place
  isRecord : place.IsRecord
  text : Option String

namespace Edit

/-- The command that makes the edit. -/
def command (e : Edit) : Command :=
  match e.text with
  | none => .delete e.place.key
  | some text => .set e.place.key text

/-- The record becomes what the edit says, and nothing else changes. -/
theorem getElem?_run (e : Edit) (order : Listing) (k : KeySpace) (key : String) :
    (KeySpace.run order e.command k).2[key]?
      = if e.place.key = key then e.text.map .text else k[key]? := by
  obtain ⟨place, isRecord, text⟩ := e
  cases text with
  | none => exact getElem?_erase_eq k place.key key
  | some text => exact getElem?_insert_eq k place.key key (.text text)

end Edit

/-- The server after an edit. -/
def Server.edit (s : Server) (e : Edit) : Server :=
  (s.exec e.command).2

/-- The server after some edits. -/
def Server.edited (s : Server) (edits : List Edit) : Server :=
  edits.foldl edit s

section

variable {s : Server} (quiet : s.IsQuiet) (e : Edit)

include quiet

theorem Server.isQuiet_edit : (s.edit e).IsQuiet := by
  rw [edit, exec, perform_of_isQuiet (s := s.receive e.command.words) quiet]
  exact quiet

/-- An edit changes what is under one key. -/
theorem Server.getElem?_edit (key : String) : (s.edit e).entries[key]?
    = if e.place.key = key then e.text.map .text else s.entries[key]? := by
  rw [edit, exec, perform_of_isQuiet (s := s.receive e.command.words) quiet]
  exact e.getElem?_run (s.orders 0) s.entries key

/-- An edit asks for no members. -/
theorem Server.orders_edit : (s.edit e).orders = s.orders := by
  rw [edit, exec, perform_of_isQuiet (s := s.receive e.command.words) quiet]
  obtain ⟨place, isRecord, text⟩ := e
  cases text <;> rfl

end

/-! ## What an index leads to -/

namespace Server

variable {α : Type}

/-- The ids that an index names, in the order in which the server will list them. -/
def named (s : Server) (index : String) : List String :=
  (s.orders 0).names ((s.entries.set? index).getD ∅)

/-- The records that an index names and that can be read. -/
def listed (format : Format α) (index : String) (keyOf : String → String) (s : Server) : List α :=
  (s.named index).filterMap fun id => s.entries.readable? format (keyOf id)

/-- The entry of a listing that comes from a key, if one does. -/
def listedAt? (format : Format α) (index : String) (keyOf : String → String) (key : String)
    (s : Server) : Option α :=
  if ∃ id ∈ s.named index, keyOf id = key then s.entries.readable? format key else none

/-- No name is read twice, in whatever order they come. -/
theorem nodup_named (s : Server) (index : String) : (s.named index).Nodup :=
  ((s.orders 0).perm _).nodup_iff.mpr ((toList_pairwise_lt _).imp fun lt => Std.ne_of_lt lt)

end Server

/-! ## A list and one more entry -/

section

variable {α : Type}

/-- The list is `others` with at most one more entry, `own`, somewhere in it. -/
def IsWith (others : List α) (own : Option α) (l : List α) : Prop :=
  ∃ front back, others = front ++ back ∧ l = front ++ own.toList ++ back

theorem isWith_none (l : List α) : IsWith l none l :=
  ⟨l, [], (List.append_nil l).symm, by simp⟩

/-- What comes of one id stands between what comes of the ids before and after it. -/
theorem isWith_filterMap {β : Type} (f : β → Option α) (front : List β) (b : β) (back : List β) :
    IsWith (front.filterMap f ++ back.filterMap f) (f b) ((front ++ b :: back).filterMap f) := by
  refine ⟨_, _, rfl, ?_⟩
  rw [List.filterMap_append, List.filterMap_cons, List.append_assoc]
  cases f b <;> rfl

variable {le : α → α → Bool} (trans : ∀ a b c, le a b = true → le b c = true → le a c = true)
  (total : ∀ a b, (le a b || le b a) = true)

include trans

/-- A further element finds its place among the others whether or not the entry is there. -/
theorem IsWith.orderedInsert {others l : List α} {own : Option α} (isWith : IsWith others own l)
    (ordered : l.Pairwise (le · ·)) (a : α) :
    IsWith (others.orderedInsert (le · ·) a) own (l.orderedInsert (le · ·) a) := by
  obtain ⟨front, back, rfl, rfl⟩ := isWith
  cases own with
  | none =>
      rw [Option.toList_none, List.append_nil]
      exact isWith_none _
  | some x =>
      induction front with
      | nil =>
          obtain ⟨least, -⟩ := List.pairwise_cons.mp ordered
          by_cases low : le a x = true
          · refine ⟨[a], back, ?_, by simp [low]⟩
            -- What is no greater than the entry is no greater than what follows it.
            cases back with
            | nil => rfl
            | cons b back =>
                have lower : le a b = true := trans _ _ _ low (least b List.mem_cons_self)
                simp [lower]
          · exact ⟨[], back.orderedInsert (le · ·) a, rfl, by simp [low]⟩
      | cons b front ih =>
          obtain ⟨-, ordered⟩ := List.pairwise_cons.mp ordered
          by_cases low : le a b = true
          · exact ⟨a :: b :: front, back, by simp [low], by simp [low]⟩
          · obtain ⟨front', back', others, whole⟩ := ih ordered
            refine ⟨b :: front', back', by simp [low, others], ?_⟩
            simp only [Option.toList_some, List.append_assoc, List.cons_append,
              List.nil_append] at whole ⊢
            simp [low, whole]

include total

/-- What comes first before sorting is put before its equals. -/
theorem mergeSort_cons_eq_orderedInsert (a : α) (l : List α) :
    (a :: l).mergeSort le = (l.mergeSort le).orderedInsert (le · ·) a := by
  obtain ⟨lower, upper, sorted, rest, below⟩ := List.mergeSort_cons trans total a l
  have ordered := List.pairwise_mergeSort trans total (a :: l)
  rw [sorted, List.pairwise_append] at ordered
  have above : ∀ b ∈ upper, le a b = true := (List.pairwise_cons.mp ordered.2.1).1
  rw [sorted, rest]
  clear sorted rest ordered
  induction lower with
  | nil =>
      cases upper with
      | nil => rfl
      | cons b upper => simp [above b List.mem_cons_self]
  | cons b lower ih =>
      have high : le a b = false := by simpa using below b List.mem_cons_self
      simp [high, ih fun c hc => below c (List.mem_cons_of_mem _ hc)]

/-- Sorting leaves the others as they are without the entry. -/
theorem IsWith.mergeSort {others l : List α} {own : Option α} (isWith : IsWith others own l) :
    IsWith (others.mergeSort le) own (l.mergeSort le) := by
  obtain ⟨front, back, rfl, rfl⟩ := isWith
  induction front with
  | nil =>
      cases own with
      | none => exact isWith_none _
      | some x =>
          obtain ⟨lower, upper, sorted, rest, -⟩ := List.mergeSort_cons trans total x back
          exact ⟨lower, upper, rest, by simpa using sorted⟩
  | cons a front ih =>
      simp only [List.cons_append, mergeSort_cons_eq_orderedInsert trans total]
      exact ih.orderedInsert trans (List.pairwise_mergeSort trans total _) a

end

/-! ## Orderly key spaces -/

/-- Every index holds a set or nothing, every record a text or nothing, and no session in the index
of sessions has an id that ends like the key of an index of instances. -/
structure KeySpace.IsOrderly (k : KeySpace) : Prop where
  index : ∀ p : Place, ¬ p.IsRecord → ∃ names, k.set? p.key = some names
  record : ∀ p : Place, p.IsRecord → ∀ names, k[p.key]? ≠ some (.set names)
  plain : ∀ ids, k.set? Key.sessionIds = some ids → ∀ id ∈ ids, Plain id

/-- Runs of operations on plain sessions lead to an orderly key space. -/
theorem isOrderly_after (orders : Nat → Listing) {ops : List AnyOperation}
    (plain : ∀ op ∈ ops, op.2.IsPlain) : (Server.after orders ops).entries.IsOrderly := by
  have keeps := keeps_after orders plain
  refine ⟨?_, ?_, ?_⟩
  · intro p isIndex
    cases p with
    | sessionIds | playgroundIds | instances => exact ⟨_, keeps.shows.set? rfl⟩
    | session | «instance» | playground => exact absurd trivial isIndex
  · intro p isRecord names
    rw [keeps.shows.place]
    cases p with
    | sessionIds | playgroundIds | instances => exact isRecord.elim
    | session | «instance» | playground => simp [Holdings.view]
  · intro ids held id named
    -- The ids in the set are those of the sessions, which are plain.
    have set := keeps.shows.set? (p := .sessionIds) rfl
    cases Option.some.inj (held.symm.trans set)
    obtain ⟨session, found⟩ := (mem_ids _).mp named
    have own : session.id = id := keeps.tidy.session id session found
    exact own ▸ keeps.tidy.plain id session found

namespace KeySpace.IsOrderly

variable {s : Server}

/-- An edit changes no index. -/
theorem set?_edit (quiet : s.IsQuiet) (e : Edit) {p : Place} (isIndex : ¬ p.IsRecord) :
    (s.edit e).entries.set? p.key = s.entries.set? p.key := by
  have other : e.place.key ≠ p.key := Place.key_ne fun same => isIndex (same ▸ e.isRecord)
  exact set?_congr (by rw [Server.getElem?_edit quiet, if_neg other])

/-- An edit leaves an orderly key space orderly: it touches records only. -/
theorem edit (orderly : s.entries.IsOrderly) (quiet : s.IsQuiet) (e : Edit) :
    (s.edit e).entries.IsOrderly := by
  refine ⟨?_, ?_, ?_⟩
  · intro p isIndex
    rw [set?_edit quiet e isIndex]
    exact orderly.index p isIndex
  · intro p isRecord names
    rw [Server.getElem?_edit quiet]
    split
    · simp
    · exact orderly.record p isRecord names
  · rw [show Key.sessionIds = Place.sessionIds.key from rfl, set?_edit quiet e id]
    exact orderly.plain

end KeySpace.IsOrderly

/-- Whatever was done and whatever was edited, the server is quiet and its key space orderly. -/
theorem isOrderly_edited (orders : Nat → Listing) {ops : List AnyOperation}
    (plain : ∀ op ∈ ops, op.2.IsPlain) (edits : List Edit) :
    ((Server.after orders ops).edited edits).IsQuiet ∧
      ((Server.after orders ops).edited edits).entries.IsOrderly := by
  induction edits using List.reverseRecOn with
  | nil => exact ⟨(keeps_after orders plain).quiet, isOrderly_after orders plain⟩
  | append_singleton edits e ih =>
      obtain ⟨quiet, orderly⟩ := ih
      rw [Server.edited, List.foldl_append]
      exact ⟨Server.isQuiet_edit quiet e, orderly.edit quiet e⟩

/-! ## What clients are told -/

section

variable {α : Type} {s : Server}

/-- What a reader of one record is told, by what its key holds. -/
inductive IsReading (format : Format α) (kind : RecordKind) (id : String) :
    Option Entry → Outcome α → Prop where
  | gone : IsReading format kind id none (.error (.notFound kind id))
  | readable {text : String} {a : α} (read : format.read (Text.bytes text) = .ok a) :
    IsReading format kind id (some (.text text)) (.ok a)
  | unreadable {text : String} {fault : Json.Fault}
    (read : format.read (Text.bytes text) = .error fault) :
    IsReading format kind id (some (.text text)) (.error (.unreadable fault))

/-- Two listings differ in one entry at most, which is `own` in the one and `own'` in the other. -/
def DifferIn (own own' : Option α) (listing listing' : Outcome (List α)) : Prop :=
  ∃ others l l', listing = .ok l ∧ listing' = .ok l' ∧ IsWith others own l ∧ IsWith others own' l'

/-- Two listings still differ in one entry after both are sorted. -/
theorem DifferIn.map_mergeSort {own own' : Option α} {listing listing' : Outcome (List α)}
    (differ : DifferIn own own' listing listing') {le : α → α → Bool}
    (trans : ∀ a b c, le a b = true → le b c = true → le a c = true)
    (total : ∀ a b, (le a b || le b a) = true) :
    DifferIn own own' (listing.map (·.mergeSort le)) (listing'.map (·.mergeSort le)) := by
  obtain ⟨others, l, l', rfl, rfl, isWith, isWith'⟩ := differ
  exact ⟨_, _, _, rfl, rfl, isWith.mergeSort trans total, isWith'.mergeSort trans total⟩

namespace KeySpace.IsOrderly

/-- A record is read as the text that it is, if it is there. -/
theorem isReading_get (orderly : s.entries.IsOrderly) (format : Format α) (kind : RecordKind)
    (id : String) {p : Place} (isRecord : p.IsRecord) :
    IsReading format kind id s.entries[p.key]?
      ((Keyed.get format kind id p.key).run s.orders s.entries).1 := by
  have noSet := orderly.record p isRecord
  rw [Keyed.run_get]
  generalize s.entries[p.key]? = held at noSet
  rcases held with _ | ⟨text | names⟩
  · exact .gone
  · cases read : format.read (Text.bytes text) with
    | ok a =>
        simp only [read]
        exact .readable read
    | error fault =>
        simp only [read]
        exact .unreadable read
  · exact absurd rfl (noSet names)

/-- An edit of a record that an index names changes what comes of that record, and no more. -/
theorem differIn_listed (quiet : s.IsQuiet) (e : Edit) (format : Format α) {p : Place}
    (isIndex : ¬ p.IsRecord) {keyOf : String → String}
    (distinct : ∀ a b, keyOf a = keyOf b → a = b) :
    DifferIn (s.listedAt? format p.key keyOf e.place.key)
      ((s.edit e).listedAt? format p.key keyOf e.place.key)
      (.ok (s.listed format p.key keyOf)) (.ok ((s.edit e).listed format p.key keyOf)) := by
  have named : (s.edit e).named p.key = s.named p.key := by
    rw [Server.named, Server.named, set?_edit quiet e isIndex, Server.orders_edit quiet]
  have unchanged : ∀ id, keyOf id ≠ e.place.key →
      (s.edit e).entries.readable? format (keyOf id) = s.entries.readable? format (keyOf id) := by
    intro id other
    refine readable?_congr format ?_
    rw [Server.getElem?_edit quiet, if_neg other.symm]
  rw [Server.listedAt?, Server.listedAt?, Server.listed, Server.listed, named]
  by_cases here : ∃ id ∈ s.named p.key, keyOf id = e.place.key
  · have ⟨id, member, same⟩ := here
    rw [if_pos here, if_pos here, ← same]
    have once := s.nodup_named p.key
    obtain ⟨front, back, split⟩ := List.append_of_mem member
    rw [split] at once ⊢
    -- The index names the record once, so that what stands around it is about other records.
    have others : ∀ other ∈ front ++ back, keyOf other ≠ e.place.key := by
      intro other around equal
      have isId : other = id := distinct _ _ (equal.trans same.symm)
      exact (List.nodup_middle.mp once).notMem (isId ▸ around)
    have front_eq : front.filterMap (fun id => (s.edit e).entries.readable? format (keyOf id))
        = front.filterMap fun id => s.entries.readable? format (keyOf id) :=
      List.filterMap_congr fun other h => unchanged other (others other (List.mem_append_left _ h))
    have back_eq : back.filterMap (fun id => (s.edit e).entries.readable? format (keyOf id))
        = back.filterMap fun id => s.entries.readable? format (keyOf id) :=
      List.filterMap_congr fun other h => unchanged other (others other (List.mem_append_right _ h))
    refine ⟨_, _, _, rfl, rfl, isWith_filterMap _ front id back, ?_⟩
    rw [← front_eq, ← back_eq]
    exact isWith_filterMap _ front id back
  · rw [if_neg here, if_neg here]
    have same : (s.named p.key).filterMap
          (fun id => (s.edit e).entries.readable? format (keyOf id))
        = (s.named p.key).filterMap fun id => s.entries.readable? format (keyOf id) :=
      List.filterMap_congr fun id h => unchanged id fun equal => here ⟨id, h, equal⟩
    rw [same]
    exact ⟨_, _, _, rfl, rfl, isWith_none _, isWith_none _⟩

end KeySpace.IsOrderly

end

namespace Server

/-- The sessions as a client is told. -/
def sessions (s : Server) : Outcome (List Session) :=
  (s.talk (Keyed.dialogue .sessions)).1.1

/-- The playgrounds as a client is told. -/
def playgrounds (s : Server) : Outcome (List Playground) :=
  (s.talk (Keyed.dialogue .playgrounds)).1.1

/-- Every listing succeeds, and consists of the records that its index names and that can be read;
the instances of a session come by name. -/
structure ListsReadable (s : Server) : Prop where
  sessions : s.sessions = .ok (s.listed Session.format Key.sessionIds Key.ofSession)
  playgrounds : s.playgrounds
    = .ok (s.listed Playground.format Key.playgroundIds Key.ofPlayground)
  instances : ∀ sessionId, s.instances sessionId = .ok
    ((s.listed Instance.format (Key.instancesOf sessionId) Key.ofInstance).mergeSort
      fun a b => decide (a.name ≤ b.name))

/-- Who asks for a single record is told whether it is gone or cannot be read, and an instance that
cannot be read is not removed. -/
structure TellsOfEach (s : Server) : Prop where
  session : ∀ id, Plain id →
    IsReading Session.format .sessionRecord id s.entries[Key.ofSession id]? (s.session id)
  record : ∀ name,
    IsReading Instance.format .instanceRecord name s.entries[Key.ofInstance name]? (s.record name)
  playground : ∀ id,
    IsReading Playground.format .playgroundRecord id s.entries[Key.ofPlayground id]?
      (s.playground id)
  removal : ∀ name fault, s.record name = .error (.unreadable fault) →
    (s.talk (Keyed.dialogue (.instanceDelete name))).1.1 = .error (.unreadable fault) ∧
      (s.talk (Keyed.dialogue (.instanceDelete name))).2.entries = s.entries

/-- An edit changes the record under its key, and in every listing at most the entry that comes from
there. -/
structure KeepsOthers (s : Server) (e : Edit) : Prop where
  entries : ∀ key, (s.edit e).entries[key]?
    = if e.place.key = key then e.text.map .text else s.entries[key]?
  sessions : DifferIn
    (s.listedAt? Session.format Key.sessionIds Key.ofSession e.place.key)
    ((s.edit e).listedAt? Session.format Key.sessionIds Key.ofSession e.place.key)
    s.sessions (s.edit e).sessions
  playgrounds : DifferIn
    (s.listedAt? Playground.format Key.playgroundIds Key.ofPlayground e.place.key)
    ((s.edit e).listedAt? Playground.format Key.playgroundIds Key.ofPlayground e.place.key)
    s.playgrounds (s.edit e).playgrounds
  instances : ∀ sessionId, DifferIn
    (s.listedAt? Instance.format (Key.instancesOf sessionId) Key.ofInstance e.place.key)
    ((s.edit e).listedAt? Instance.format (Key.instancesOf sessionId) Key.ofInstance
      e.place.key)
    (s.instances sessionId) ((s.edit e).instances sessionId)

variable {s : Server}

/-- Each listing is of the records that can be read, and of no others. -/
theorem listsReadable (quiet : s.IsQuiet) (orderly : s.entries.IsOrderly) : s.ListsReadable := by
  -- The index is there, and under the key of each record is no set.
  have loads : ∀ {α : Type} (format : Format α) (keyOf : String → String) {index : String}
      {names : ExtTreeSet String}, s.entries.set? index = some names →
      (∀ id ∈ names, ∀ names, s.entries[keyOf id]? ≠ some (.set names)) →
      ((Keyed.loadIndexed format index keyOf).run s.orders s.entries).1
        = .ok (s.listed format index keyOf) := by
    intro α format keyOf index names set texts
    rw [Keyed.run_loadIndexed format keyOf set texts, listed, named, set, Option.getD_some]
  refine ⟨?_, ?_, fun sessionId => ?_⟩
  · obtain ⟨ids, set⟩ := orderly.index .sessionIds id
    rw [Server.sessions, (Dialogue.talk_of_isQuiet quiet _).1, Keyed.dialogue]
    exact loads Session.format Key.ofSession set fun id named =>
      orderly.record (.session ⟨id, orderly.plain ids set id named⟩) trivial
  · obtain ⟨ids, set⟩ := orderly.index .playgroundIds id
    rw [Server.playgrounds, (Dialogue.talk_of_isQuiet quiet _).1, Keyed.dialogue]
    exact loads Playground.format Key.ofPlayground set fun id _ =>
      orderly.record (.playground id) trivial
  · obtain ⟨names, set⟩ := orderly.index (.instances sessionId) id
    rw [Server.instances, (Dialogue.talk_of_isQuiet quiet _).1, Keyed.dialogue]
    refine (congrArg Prod.fst (Dialogue.run_bind_done _ _ s.orders s.entries)).trans ?_
    have read := loads Instance.format Key.ofInstance set fun name _ =>
      orderly.record (.instance name) trivial
    exact congrArg (Except.map _) read

/-- Each record is told of as it is: read, missing, or not to be read. -/
theorem tellsOfEach (quiet : s.IsQuiet) (orderly : s.entries.IsOrderly) : s.TellsOfEach := by
  refine ⟨?_, ?_, ?_, ?_⟩
  · intro id plain
    rw [Server.session, (Dialogue.talk_of_isQuiet quiet _).1]
    exact orderly.isReading_get _ _ id (p := .session ⟨id, plain⟩) trivial
  · intro name
    rw [Server.record, (Dialogue.talk_of_isQuiet quiet _).1]
    exact orderly.isReading_get _ _ name (p := .instance name) trivial
  · intro id
    rw [Server.playground, (Dialogue.talk_of_isQuiet quiet _).1]
    exact orderly.isReading_get _ _ id (p := .playground id) trivial
  · intro name fault unread
    rw [Server.record, (Dialogue.talk_of_isQuiet quiet _).1, Keyed.dialogue] at unread
    obtain ⟨answer, -, entries⟩ :=
      Dialogue.talk_of_isQuiet quiet (Keyed.dialogue (.instanceDelete name))
    -- To remove an instance is to read it first; what cannot be read is not removed.
    obtain ⟨orders', ran⟩ := Dialogue.run_bind (Keyed.get Instance.format .instanceRecord name
      (Key.ofInstance name)) _ s.orders s.entries
    rw [answer, entries, Keyed.dialogue, ran, unread, Keyed.run_get]
    exact ⟨rfl, rfl⟩

/-- An edit changes the listings by the one record that it touches. -/
theorem keepsOthers (quiet : s.IsQuiet) (orderly : s.entries.IsOrderly) (e : Edit) :
    s.KeepsOthers e := by
  have before := listsReadable quiet orderly
  have after := listsReadable (isQuiet_edit quiet e) (orderly.edit quiet e)
  refine ⟨getElem?_edit quiet e, ?_, ?_, fun sessionId => ?_⟩
  · rw [before.sessions, after.sessions]
    exact KeySpace.IsOrderly.differIn_listed quiet e Session.format (p := .sessionIds) id
      fun _ _ => ofSession_inj.mp
  · rw [before.playgrounds, after.playgrounds]
    exact KeySpace.IsOrderly.differIn_listed quiet e Playground.format (p := .playgroundIds) id
      fun _ _ => (String.append_right_inj _).mp
  · have differ := KeySpace.IsOrderly.differIn_listed quiet e Instance.format
      (p := .instances sessionId) id (fun _ _ => ofInstance_inj.mp)
    rw [before.instances, after.instances]
    -- Names are ordered whatever they are, so that sorting does no more than insert the entry.
    refine differ.map_mergeSort ?_ ?_
    · intro a b c
      simpa using String.le_trans
    · intro a b
      simpa using String.le_total a.name b.name

end Server

/-- **WHAT CAN BE READ STAYS LISTED.** After any operations on plain sessions and whatever others
have removed or written in place of records since, every listing succeeds with exactly those records
that its index names and that can be read. One more edit changes no other entry. The edited record
itself is reported as absent or unreadable to whoever asks for it, and an instance that cannot be
read is not removed. -/
theorem readable_records_stay_listed (orders : Nat → Listing) (ops : List AnyOperation)
    (plain : ∀ op ∈ ops, op.2.IsPlain) (edits : List Edit) :
    let s := (Server.after orders ops).edited edits
    s.ListsReadable ∧ s.TellsOfEach ∧ ∀ e, s.KeepsOthers e := by
  obtain ⟨quiet, orderly⟩ := isOrderly_edited orders plain edits
  exact ⟨Server.listsReadable quiet orderly, Server.tellsOfEach quiet orderly,
    Server.keepsOthers quiet orderly⟩

/-- The record of a session is overwritten and that of its instance removed. -/
theorem readable_records_stay_listed_sample :
    (∀ op ∈ ([⟨Unit, .sessionPut sampleSession⟩, ⟨Unit, .instancePut sampleInstance⟩] :
        List AnyOperation), op.2.IsPlain) ∧
      let s := (Server.after alphabetically
          [⟨Unit, .sessionPut sampleSession⟩, ⟨Unit, .instancePut sampleInstance⟩]).edited
        [⟨.session ⟨"s", plain_sample⟩, trivial, some "garbage"⟩, ⟨.instance "n", trivial, none⟩]
      s.ListsReadable ∧ s.TellsOfEach ∧ ∀ e, s.KeepsOthers e := by
  have plain : ∀ op ∈ ([⟨Unit, .sessionPut sampleSession⟩, ⟨Unit, .instancePut sampleInstance⟩] :
      List AnyOperation), op.2.IsPlain := by
    intro op member
    simp only [List.mem_cons, List.not_mem_nil, or_false] at member
    rcases member with rfl | rfl <;> rintro id ⟨⟩ <;> exact plain_sample
  exact ⟨plain, readable_records_stay_listed alphabetically _ plain _⟩

end Playgrounds.Store
