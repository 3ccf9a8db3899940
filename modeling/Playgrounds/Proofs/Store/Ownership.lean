import Mathlib.Data.List.Induction
import Playgrounds.Proofs.Store.Simulation

/-!
# Whose instances a session has

An instance belongs to the session that its record has. On a server that is written down twice: in
the record, and in the index of the session. Writing an instance under another session adds its name
to the index of the new one and leaves it in the index of the old one, where listing and removing
the old session still find it.

* `Holdings.Covers` — an instance is always named in the index of its own session.
* `Server.OwnsExactly` — listing and removing a session keep to the instances that belong to it.
* `ownsExactly_iff` — they do exactly as long as no instance has been moved.
-/

namespace Playgrounds.Store

open Std

/-! ## What clients see -/

namespace Server

/-- The record of an instance as a client reads it. -/
def record (s : Server) (name : String) : Outcome Instance :=
  (s.talk (Keyed.dialogue (.instanceGet name))).1.1

/-- Listing a session yields the instances that belong to it, each once, and removing it removes
their records and no other record of an instance. -/
structure OwnsExactly (s : Server) (sessionId : String) : Prop where
  listing : ∃ is, (s.talk (Keyed.dialogue (.instancesOf sessionId))).1.1 = .ok is ∧ is.Nodup ∧
    ∀ i : Instance, i ∈ is ↔ s.record i.name = .ok i ∧ i.sessionId = sessionId
  removal : ∀ name i, (s.talk (Keyed.dialogue (.sessionDelete sessionId))).2.record name = .ok i ↔
    s.record name = .ok i ∧ i.sessionId ≠ sessionId

/-- The index of a session names an instance. -/
def IsIndexed (s : Server) (sessionId name : String) : Prop :=
  ∃ members, s.entries[Key.instancesOf sessionId]? = some (.set members) ∧ name ∈ members

/-- The index of a session names an instance that belongs to another. -/
def Misfiles (s : Server) (sessionId name : String) : Prop :=
  s.IsIndexed sessionId name ∧ ∃ i, s.record name = .ok i ∧ i.sessionId ≠ sessionId

/-- A run writes an instance under another session than its record has at that time. -/
def Moves (orders : Nat → Listing) (ops : List AnyOperation) : Prop :=
  ∃ before op rest, ops = before ++ op :: rest ∧
    ∃ i ∈ op.2.written?, ∃ old, (after orders before).record i.name = .ok old ∧
      old.sessionId ≠ i.sessionId

end Server

/-! ## No instance is missing from its index -/

namespace Holdings

variable {h : Holdings}

/-- Every instance is named in the index of its session. -/
def Covers (h : Holdings) : Prop :=
  AllAt (fun name (i : Instance) => name ∈ h.index i.sessionId) h.tables.instances

/-- An instance that is written gets into its index. -/
theorem Covers.putInstance (covers : h.Covers) (i : Instance) : (h.putInstance i).Covers := by
  intro name j found
  rw [mem_index_putInstance]
  rw [getElem?_putInstance] at found
  split at found
  · cases found
    exact .inl ⟨rfl, ‹_›⟩
  · exact .inr (covers name j found)

/-- A name leaves an index only together with its record. -/
theorem Covers.dropInstance (covers : h.Covers) (name sessionId : String) :
    (h.dropInstance name sessionId).Covers := by
  intro other j found
  rw [mem_index_dropInstance]
  rw [getElem?_dropInstance] at found
  split at found
  · exact nomatch found
  · exact ⟨covers other j found, fun same => absurd same.2 ‹_›⟩

/-- A session that is removed takes along every record whose name its index has. -/
theorem Covers.dropSession (covers : h.Covers) (id : String) :
    (h.dropSession id (h.index id).toList).Covers := by
  intro name j found
  rw [mem_index_dropSession]
  rw [getElem?_dropSession] at found
  split at found
  · exact nomatch found
  · rename_i notNamed
    have named : name ∈ h.index j.sessionId := covers name j found
    refine ⟨named, ?_⟩
    rintro rfl
    exact notNamed (ExtTreeSet.mem_toList.mpr named)

/-- **No operation takes a name out of the index of its record.** -/
theorem Covers.run {α : Type} (covers : h.Covers) (op : Operation α) : (h.run op).2.Covers := by
  cases op with
  | instancePut i => exact covers.putInstance i
  | sessionDelete id => exact covers.dropSession id
  | instanceDelete name =>
      rw [Holdings.run]
      split
      · exact covers.dropInstance name _
      · exact covers
  | sessionGet | sessionPut | sessions | instanceGet | instancesOf | playgroundPut | playgroundGet
  | playgrounds => exact covers

/-- **After any run the index of each session has the names of all its instances.** -/
theorem covers_after (ops : List AnyOperation) : (after ops).Covers := by
  have run : ∀ {h : Holdings}, h.Covers → (ops.foldl (fun h op => (h.run op.2).2) h).Covers := by
    induction ops with
    | nil => exact id
    | cons op rest ih => exact fun covers => ih (covers.run op.2)
  exact run all_empty

/-- The index of a session names no instance that belongs to another. -/
def FilesOnly (h : Holdings) (sessionId : String) : Prop :=
  ∀ name ∈ h.index sessionId, ∀ i, h.tables.instances[name]? = some i → i.sessionId = sessionId

/-- No instance is listed twice. -/
theorem nodup_listed (tidy : h.tables.IsTidy) (sessionId : String) :
    (h.listed sessionId).Nodup := by
  refine (listed_pairwise tidy sessionId).imp ?_
  rintro i j less rfl
  exact String.lt_irrefl _ less

/-- What is listed is named by the index and has a record. -/
theorem mem_listed (tidy : h.tables.IsTidy) {sessionId : String} {i : Instance} :
    i ∈ h.listed sessionId ↔ i.name ∈ h.index sessionId ∧ h.tables.instances[i.name]? = some i := by
  rw [listed, List.mem_filterMap]
  constructor
  · rintro ⟨name, named, found⟩
    cases tidy.instance name i found
    exact ⟨ExtTreeSet.mem_toList.mp named, found⟩
  · rintro ⟨named, found⟩
    exact ⟨i.name, ExtTreeSet.mem_toList.mpr named, found⟩

end Holdings

/-! ## One state -/

variable {s : Server} {h : Holdings}

/-- An instance is read as the tables have it. -/
theorem Keeps.record_eq (keeps : Keeps s h) (name : String) :
    s.record name = Tables.find h.tables.instances .instanceRecord name := by
  have read := keeps.step (.instanceGet name) fun _ h => nomatch h
  exact read.1.eq fun _ _ => id

theorem Keeps.record_ok_iff (keeps : Keeps s h) (name : String) (i : Instance) :
    s.record name = .ok i ↔ h.tables.instances[name]? = some i := by
  rw [keeps.record_eq, Tables.find]
  cases h.tables.instances[name]? with
  | none => simp
  | some j => simp

/-- The instances of a session are listed as the holdings have them. -/
theorem Keeps.listing (keeps : Keeps s h) {sessionId : String} (plain : Plain sessionId) :
    (s.talk (Keyed.dialogue (.instancesOf sessionId))).1.1 = .ok (h.listed sessionId) := by
  have read := keeps.step (.instancesOf sessionId) (by rintro id ⟨⟩; exact plain)
  exact read.1.eq fun _ _ => id

/-- Once a session is removed, the instances are gone that its index named. -/
theorem Keeps.record_removal (keeps : Keeps s h) {sessionId : String} (plain : Plain sessionId)
    (name : String) (i : Instance) :
    (s.talk (Keyed.dialogue (.sessionDelete sessionId))).2.record name = .ok i ↔
      name ∉ h.index sessionId ∧ h.tables.instances[name]? = some i := by
  obtain ⟨-, -, keeps'⟩ := keeps.step (.sessionDelete sessionId) (by rintro id ⟨⟩; exact plain)
  rw [keeps'.record_ok_iff]
  show (h.dropSession sessionId (h.index sessionId).toList).tables.instances[name]? = some i ↔ _
  rw [Holdings.getElem?_dropSession]
  split
  · rename_i named
    simp [ExtTreeSet.mem_toList.mp named]
  · rename_i notNamed
    rw [ExtTreeSet.mem_toList] at notNamed
    simp [notNamed]

/-- A client can tell whether the index of a session has a name. -/
theorem Keeps.isIndexed_iff (keeps : Keeps s h) (sessionId name : String) :
    s.IsIndexed sessionId name ↔ name ∈ h.index sessionId := by
  have shown : s.entries[Key.instancesOf sessionId]? = setEntry (h.index sessionId) :=
    keeps.shows.place (.instances sessionId)
  rw [Server.IsIndexed, shown]
  constructor
  · rintro ⟨members, found, named⟩
    obtain ⟨_, same⟩ := setEntry_eq_some.mp found
    cases same
    exact named
  · intro named
    refine ⟨h.index sessionId, setEntry_eq_some.mpr ⟨?_, rfl⟩, named⟩
    intro empty
    rw [empty] at named
    exact ExtTreeSet.not_mem_empty named

/-- An index misfiles a name exactly if it has the name of an instance of another session. -/
theorem Keeps.misfiles_iff (keeps : Keeps s h) (sessionId name : String) :
    s.Misfiles sessionId name ↔ name ∈ h.index sessionId ∧
      ∃ i, h.tables.instances[name]? = some i ∧ i.sessionId ≠ sessionId := by
  simp only [Server.Misfiles, keeps.isIndexed_iff, keeps.record_ok_iff]

/-- Listing and removing a session are right exactly if its index is. -/
theorem Keeps.ownsExactly_iff_filesOnly (keeps : Keeps s h) (covers : h.Covers) {sessionId : String}
    (plain : Plain sessionId) : s.OwnsExactly sessionId ↔ h.FilesOnly sessionId := by
  constructor
  · rintro ⟨⟨is, listed, -, belongs⟩, -⟩ name named i found
    rw [keeps.listing plain] at listed
    cases keeps.tidy.instance name i found
    have mem : i ∈ is := by
      rw [← Except.ok.inj listed, Holdings.mem_listed keeps.tidy]
      exact ⟨named, found⟩
    exact ((belongs i).mp mem).2
  · intro files
    refine ⟨⟨h.listed sessionId, keeps.listing plain, ?_, ?_⟩, ?_⟩
    · exact Holdings.nodup_listed keeps.tidy sessionId
    · intro i
      rw [Holdings.mem_listed keeps.tidy, keeps.record_ok_iff]
      constructor
      · rintro ⟨named, found⟩
        exact ⟨found, files i.name named i found⟩
      · rintro ⟨found, rfl⟩
        exact ⟨covers i.name i found, found⟩
    · intro name i
      rw [keeps.record_removal plain, keeps.record_ok_iff]
      constructor
      · rintro ⟨notNamed, found⟩
        refine ⟨found, ?_⟩
        rintro rfl
        -- The index has all the instances of its session, so none of them is left.
        exact notNamed (covers name i found)
      · rintro ⟨found, other⟩
        exact ⟨fun named => other (files name named i found), found⟩

/-! ## Runs -/

theorem Holdings.after_append (ops more : List AnyOperation) :
    after (ops ++ more) = more.foldl (fun h op => (h.run op.2).2) (after ops) :=
  List.foldl_append

/-- Once an instance is written under another session, the index of the old one is wrong. -/
theorem Holdings.not_filesOnly_of_move {h : Holdings} (covers : h.Covers) {i old : Instance}
    (found : h.tables.instances[i.name]? = some old) (moved : old.sessionId ≠ i.sessionId) :
    ¬ (h.putInstance i).FilesOnly old.sessionId := by
  intro files
  have named : i.name ∈ (h.putInstance i).index old.sessionId :=
    (h.mem_index_putInstance i).mpr (.inr (covers i.name old found))
  have written : (h.putInstance i).tables.instances[i.name]? = some i := by
    rw [getElem?_putInstance, if_pos rfl]
  exact moved (files i.name named i written).symm

/-- As long as a run moves no instance, every index is that of the records. -/
theorem Holdings.eq_ofTables_of_not_moves {orders : Nat → Listing} {ops : List AnyOperation}
    (plain : ∀ op ∈ ops, op.2.IsPlain) (stays : ¬ Server.Moves orders ops) :
    after ops = ofTables (after ops).tables := by
  -- From the end of the run: whether its last operation moves an instance is a matter of what the
  -- server holds right before.
  induction ops using List.reverseRecOn with
  | nil => exact empty_eq_ofTables
  | append_singleton ops op ih =>
      have plain' : ∀ op ∈ ops, op.2.IsPlain := fun other h =>
        plain other (List.mem_append_left _ h)
      have stays' : ¬ Server.Moves orders ops := by
        rintro ⟨before, other, rest, rfl, moved⟩
        exact stays ⟨before, other, rest ++ [op], by simp, moved⟩
      have permitted : (after ops).tables.Permits op.2 := by
        refine ⟨plain op (List.mem_append_right _ List.mem_cons_self), ?_⟩
        intro i written old found
        by_contra moved
        refine stays ⟨ops, op, [], rfl, i, written, old, ?_, moved⟩
        exact ((keeps_after orders plain').record_ok_iff i.name old).mpr found
      have kept := run_ofTables op.2 permitted
      rw [← ih plain' stays'] at kept
      show after (ops ++ [op]) = _
      rw [after_append, List.foldl_cons, List.foldl_nil, kept]
      rfl

/-- Indexes that agree with the records misfile nothing. -/
theorem Holdings.filesOnly_ofTables (t : Tables) (sessionId : String) :
    (ofTables t).FilesOnly sessionId := by
  intro name named i found
  obtain ⟨j, record, same⟩ := Tables.mem_owned.mp named
  rw [show t.instances[name]? = some i from found] at record
  cases record
  exact same

/-- **OWNERSHIP, AND WHERE IT FAILS.** After any run, listing and removing a session keep to the
instances that belong to it exactly if its index names no instance of another session. They do so
for every session throughout a run exactly if the run never moves an instance. What always holds is
half of it: the listing has every instance of the session, each once, and the removal removes their
records. -/
theorem ownsExactly_iff (orders : Nat → Listing) (ops : List AnyOperation)
    (plain : ∀ op ∈ ops, op.2.IsPlain) :
    (∀ sessionId, Plain sessionId → ((Server.after orders ops).OwnsExactly sessionId ↔
      ∀ name, ¬ (Server.after orders ops).Misfiles sessionId name)) ∧
    ((∀ before, before <+: ops → ∀ sessionId, Plain sessionId →
      (Server.after orders before).OwnsExactly sessionId) ↔ ¬ Server.Moves orders ops) ∧
    ∀ sessionId, Plain sessionId →
      (∃ is, ((Server.after orders ops).talk (Keyed.dialogue (.instancesOf sessionId))).1.1
          = .ok is ∧ is.Nodup ∧ ∀ i : Instance, (Server.after orders ops).record i.name = .ok i →
            i.sessionId = sessionId → i ∈ is) ∧
      ∀ name i, ((Server.after orders ops).talk
          (Keyed.dialogue (.sessionDelete sessionId))).2.record name = .ok i →
        (Server.after orders ops).record name = .ok i ∧ i.sessionId ≠ sessionId := by
  have keeps := keeps_after orders plain
  have covers := Holdings.covers_after ops
  refine ⟨?_, ⟨?_, ?_⟩, ?_⟩
  -- one state
  · intro sessionId plainId
    rw [keeps.ownsExactly_iff_filesOnly covers plainId]
    constructor
    · intro files name misfiled
      obtain ⟨named, i, found, other⟩ := (keeps.misfiles_iff sessionId name).mp misfiled
      exact other (files name named i found)
    · intro none name named i found
      by_contra other
      exact none name ((keeps.misfiles_iff sessionId name).mpr ⟨named, i, found, other⟩)
  -- Right after a move the old session has an instance that is no longer its own.
  · rintro owns ⟨before, ⟨_, op⟩, rest, rfl, i, written, old, record, moved⟩
    have plainBefore : ∀ op ∈ before, op.2.IsPlain := fun other h =>
      plain other (List.mem_append_left _ h)
    have keepsBefore := keeps_after orders plainBefore
    have found := (keepsBefore.record_ok_iff i.name old).mp record
    have plainOld : Plain old.sessionId := keepsBefore.tidy.plainOwner i.name old found
    cases op with
    | instancePut j =>
        cases written
        have initial : before ++ [⟨Unit, .instancePut i⟩]
            <+: before ++ ⟨Unit, .instancePut i⟩ :: rest := ⟨rest, by simp⟩
        have owns := owns _ initial old.sessionId plainOld
        have keepsAfter := keeps_after orders fun op h => plain op (initial.subset h)
        rw [keepsAfter.ownsExactly_iff_filesOnly (Holdings.covers_after _) plainOld,
          Holdings.after_append] at owns
        exact Holdings.not_filesOnly_of_move (Holdings.covers_after before) found moved owns
    | _ => exact nomatch written
  -- Without a move, what the server has is the image of its tables all along.
  · rintro stays before ⟨rest, rfl⟩ sessionId plainId
    have plainBefore : ∀ op ∈ before, op.2.IsPlain := fun other h =>
      plain other (List.mem_append_left _ h)
    have staysBefore : ¬ Server.Moves orders before := by
      rintro ⟨first, op, more, rfl, moved⟩
      exact stays ⟨first, op, more ++ rest, by simp, moved⟩
    rw [(keeps_after orders plainBefore).ownsExactly_iff_filesOnly (Holdings.covers_after before)
      plainId, Holdings.eq_ofTables_of_not_moves plainBefore staysBefore]
    exact Holdings.filesOnly_ofTables _ sessionId
  -- what holds even with moves
  · intro sessionId plainId
    refine ⟨⟨_, keeps.listing plainId, ?_, ?_⟩, ?_⟩
    · exact Holdings.nodup_listed keeps.tidy sessionId
    · intro i record same
      have found := (keeps.record_ok_iff i.name i).mp record
      rw [Holdings.mem_listed keeps.tidy]
      exact ⟨same ▸ covers i.name i found, found⟩
    · intro name i after
      obtain ⟨notNamed, found⟩ := (keeps.record_removal plainId name i).mp after
      refine ⟨(keeps.record_ok_iff name i).mpr found, ?_⟩
      rintro rfl
      exact notNamed (covers name i found)

/-! ## A run that moves an instance -/

/-- The sample instance is written under its own session, then under another. -/
def movingRun : List AnyOperation :=
  [⟨Unit, .instancePut sampleInstance⟩,
    ⟨Unit, .instancePut { sampleInstance with sessionId := "t" }⟩]

/-- The ids in that run are plain. -/
theorem plain_movingRun : ∀ op ∈ movingRun, op.2.IsPlain := by
  rintro op (_ | ⟨_, _ | ⟨_, h⟩⟩)
  · rintro id ⟨⟩
    exact plain_sample
  · rintro id ⟨⟩
    exact plain_of_length (by decide)
  · exact nomatch h

/-- After the move the session still has an instance that belongs to the other. -/
theorem not_ownsExactly_movingRun :
    Plain "s" ∧ (∀ op ∈ movingRun, op.2.IsPlain) ∧
      ¬ (Server.after alphabetically movingRun).OwnsExactly "s" := by
  refine ⟨plain_sample, plain_movingRun, ?_⟩
  rw [(keeps_after alphabetically plain_movingRun).ownsExactly_iff_filesOnly
    (Holdings.covers_after _) plain_sample]
  have covers := Holdings.covers_after [⟨Unit, .instancePut sampleInstance⟩]
  exact Holdings.not_filesOnly_of_move (i := { sampleInstance with sessionId := "t" }) covers
    (show _ = some sampleInstance from rfl) (by decide)

theorem ownsExactly_iff_movingRun :
    (∀ op ∈ movingRun, op.2.IsPlain) ∧ ¬ ∀ before, before <+: movingRun → ∀ sessionId,
      Plain sessionId → (Server.after alphabetically before).OwnsExactly sessionId := by
  refine ⟨plain_movingRun, fun owns => ?_⟩
  refine (ownsExactly_iff alphabetically movingRun plain_movingRun).2.1.mp owns
    ⟨[⟨Unit, .instancePut sampleInstance⟩], _, [], rfl, _, rfl, sampleInstance, ?_, by decide⟩
  have plain : ∀ op ∈ [(⟨Unit, .instancePut sampleInstance⟩ : AnyOperation)], op.2.IsPlain :=
    fun op h => plain_movingRun op (List.mem_cons.mpr (.inl (List.mem_singleton.mp h)))
  exact ((keeps_after alphabetically plain).record_ok_iff _ _).mpr rfl

end Playgrounds.Store
