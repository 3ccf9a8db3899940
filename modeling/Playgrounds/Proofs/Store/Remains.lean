import Playgrounds.Proofs.Store.Interference

/-!
# What remains of an operation that fails

The commands of a transaction are run whether or not others are refused. A refusal comes only where
the record of a session lies under the key of the index of another, so the record of an instance is
written or removed while its index, which cannot be reached, is left as it is.

* `Server.Blocks` — the record of a session is in the way of an operation.
* `Operation.remains` — what is done of an operation that is blocked.
* `failed_write_remains` — when an operation that fails leaves the key space as it was.
-/

namespace Playgrounds.Store

open Std Json

variable {α : Type}

namespace Server

/-- The record of a session lies under the key of the index of this one. -/
def IsTaken (s : Server) (sessionId : String) : Prop :=
  ∃ t, s.session (sessionId ++ ":instances") = .ok t

/-- The operation needs an index whose key is taken. -/
def Blocks (s : Server) : Operation α → Prop
  | .sessionDelete id => s.IsTaken id
  | .instancePut i => s.IsTaken i.sessionId
  | .instanceDelete name => ∃ i, s.record name = .ok i ∧ s.IsTaken i.sessionId
  | _ => False

/-- If the operation fails then nothing has changed. -/
def LeavesNoTrace (s : Server) (op : Operation α) : Prop :=
  ∀ e, (s.talk (Keyed.dialogue op)).1.1 = .error e →
    (s.talk (Keyed.dialogue op)).2.entries = s.entries

/-- The record of an instance is not what the operation makes it. -/
def Spoils (s : Server) : Operation α → Prop
  | .instancePut i => s.record i.name ≠ .ok i
  | .instanceDelete name => ∃ i, s.record name = .ok i
  | _ => False

/-- What blocks an operation is an index whose place is taken. -/
theorem Blocks.exists_isTaken {s : Server} {op : Operation α} (blocks : s.Blocks op) :
    ∃ sessionId, s.IsTaken sessionId := by
  cases op with
  | sessionDelete id => exact ⟨id, blocks⟩
  | instancePut i => exact ⟨i.sessionId, blocks⟩
  | instanceDelete name =>
      obtain ⟨i, -, taken⟩ := blocks
      exact ⟨i.sessionId, taken⟩
  | sessionGet | sessionPut | sessions | instanceGet | instancesOf | playgroundPut | playgroundGet
  | playgrounds => exact blocks.elim

end Server

/-- What is done of an operation that cannot reach an index. -/
def Operation.remains : Operation α → KeySpace → KeySpace
  | .instancePut i, k => k.insert (Key.ofInstance i.name) (.text (Instance.format.write i))
  | .instanceDelete name, k => k.erase (Key.ofInstance name)
  | _, k => k

namespace Server.IsFrom

variable {done : AnyOperation → Prop} {s : Server} {op : Operation α}

/-- A place is taken by a session whose id ends like an index. -/
theorem put_of_isTaken (h : s.IsFrom done) {sessionId : String} (taken : s.IsTaken sessionId) :
    ∃ t : Session, done ⟨Unit, .sessionPut t⟩ ∧ t.id = sessionId ++ ":instances" := by
  obtain ⟨t, answer⟩ := taken
  rcases h.session_cases (sessionId ++ ":instances") with
    ⟨missing, -⟩ | ⟨t, put, own, -⟩ | ⟨other, -⟩
  · exact nomatch answer.symm.trans missing
  · exact ⟨t, put, own⟩
  · exact nomatch answer.symm.trans other

/-- A blocked operation is refused, and its first command is done all the same. -/
theorem run_of_blocks (h : s.IsFrom done) (blocks : s.Blocks op) :
    (Keyed.dialogue op).run s.orders s.entries
      = (.error (Keyed.refused .wrongKind), op.remains s.entries) ∧ op.IsWrite := by
  cases op with
  | sessionDelete id =>
      obtain ⟨ids, ran⟩ := h.kept.run_sessionDelete id
      have taken := (h.set?_eq_none_iff id).mpr blocks
      rw [ran, taken]
      exact ⟨rfl, trivial⟩
  | instancePut i =>
      have taken := (h.set?_eq_none_iff i.sessionId).mpr blocks
      rw [IsKept.run_instancePut, taken]
      exact ⟨rfl, trivial⟩
  | instanceDelete name =>
      -- The record says which index is needed; that one is blocked.
      obtain ⟨i, record, taken⟩ := blocks
      have taken := (h.set?_eq_none_iff i.sessionId).mpr taken
      rcases h.record_cases name with ⟨missing, -⟩ | ⟨j, -, -, found, text⟩
      · exact nomatch record.symm.trans missing
      cases record.symm.trans found
      rw [IsKept.run_instanceDelete_of_some text, taken]
      exact ⟨rfl, trivial⟩
  | sessionGet | sessionPut | sessions | instanceGet | instancesOf | playgroundPut | playgroundGet
  | playgrounds => exact blocks.elim

/-- An operation that writes succeeds unless it is blocked. -/
theorem run_of_not_blocks (h : s.IsFrom done) (write : op.IsWrite) (free : ¬ s.Blocks op) :
    ∃ a, ((Keyed.dialogue op).run s.orders s.entries).1 = .ok a := by
  cases op with
  | sessionPut t =>
      obtain ⟨ids, ran⟩ := h.kept.run_sessionPut t
      exact ⟨(), by rw [ran]⟩
  | playgroundPut p =>
      obtain ⟨ids, ran⟩ := h.kept.run_playgroundPut p
      exact ⟨(), by rw [ran]⟩
  | sessionDelete id =>
      obtain ⟨ids, ran⟩ := h.kept.run_sessionDelete id
      obtain ⟨names, set⟩ := Option.ne_none_iff_exists'.mp (mt (h.set?_eq_none_iff id).mp free)
      exact ⟨(), by rw [ran, set]⟩
  | instancePut i =>
      obtain ⟨names, set⟩ :=
        Option.ne_none_iff_exists'.mp (mt (h.set?_eq_none_iff i.sessionId).mp free)
      exact ⟨(), by rw [IsKept.run_instancePut, set]⟩
  | instanceDelete name =>
      rcases h.record_cases name with ⟨-, absent⟩ | ⟨i, -, -, record, text⟩
      · exact ⟨(), by rw [IsKept.run_instanceDelete_of_none absent]⟩
      have free : ¬ s.IsTaken i.sessionId := fun taken => free ⟨i, record, taken⟩
      obtain ⟨names, set⟩ :=
        Option.ne_none_iff_exists'.mp (mt (h.set?_eq_none_iff i.sessionId).mp free)
      exact ⟨(), by rw [IsKept.run_instanceDelete_of_some text, set]⟩
  | sessionGet | sessions | instanceGet | instancesOf | playgroundGet | playgrounds =>
      exact write.elim

/-- What a blocked operation does is nothing exactly if the record was so before. -/
theorem remains_eq_iff (h : s.IsFrom done) (op : Operation α) :
    op.remains s.entries = s.entries ↔ ¬ s.Spoils op := by
  cases op with
  | instancePut i =>
      show s.entries.insert _ _ = _ ↔ ¬ s.record i.name ≠ .ok i
      rw [not_not]
      constructor
      · intro same
        refine record_of_text h.quiet ?_
        rw [← same, getElem?_insert_eq, if_pos rfl]
      · intro record
        -- The same record was there already, or another, or none.
        rcases h.record_cases i.name with ⟨missing, -⟩ | ⟨j, -, -, found, text⟩
        · exact nomatch record.symm.trans missing
        cases record.symm.trans found
        refine ExtTreeMap.ext_getElem? fun key => ?_
        rw [getElem?_insert_eq]
        split
        next here => rw [← here, text]
        next => rfl
  | instanceDelete name =>
      show s.entries.erase _ = _ ↔ ¬ ∃ i, s.record name = .ok i
      constructor
      · rintro same ⟨i, record⟩
        rcases h.record_cases name with ⟨missing, -⟩ | ⟨j, -, -, -, text⟩
        · exact nomatch record.symm.trans missing
        rw [← same, getElem?_erase_eq, if_pos rfl] at text
        exact nomatch text
      · intro none
        rcases h.record_cases name with ⟨-, absent⟩ | ⟨i, -, -, record, -⟩
        · refine ExtTreeMap.ext_getElem? fun key => ?_
          rw [getElem?_erase_eq]
          split
          next here => rw [← here, absent]
          next => rfl
        · exact absurd ⟨i, record⟩ none
  | sessionGet | sessionPut | sessionDelete | sessions | instanceGet | instancesOf | playgroundPut
  | playgroundGet | playgrounds => exact iff_of_true rfl id

/-- An operation is blocked exactly if it is one that writes, and fails. -/
theorem blocks_iff (h : s.IsFrom done) (op : Operation α) :
    s.Blocks op ↔ op.IsWrite ∧ ∃ e, (s.talk (Keyed.dialogue op)).1.1 = .error e := by
  rw [(Dialogue.talk_of_isQuiet h.quiet _).1]
  constructor
  · intro blocks
    obtain ⟨ran, write⟩ := h.run_of_blocks blocks
    exact ⟨write, _, by rw [ran]⟩
  · rintro ⟨write, e, failed⟩
    by_contra free
    obtain ⟨a, succeeded⟩ := h.run_of_not_blocks write free
    exact nomatch succeeded.symm.trans failed

/-- An operation that fails has left the key space as it was, unless it was blocked after its first
command had changed it. -/
theorem leavesNoTrace_iff (h : s.IsFrom done) (op : Operation α) :
    s.LeavesNoTrace op ↔ ¬ (s.Blocks op ∧ s.Spoils op) := by
  obtain ⟨answer, -, entries⟩ := Dialogue.talk_of_isQuiet h.quiet (Keyed.dialogue op)
  rw [Server.LeavesNoTrace, answer, entries]
  by_cases blocks : s.Blocks op
  · rw [(h.run_of_blocks blocks).1, and_iff_right blocks, ← h.remains_eq_iff op]
    exact ⟨fun same => same _ rfl, fun same _ _ => same⟩
  · refine iff_of_true (fun e failed => ?_) (fun both => blocks both.1)
    by_cases write : op.IsWrite
    · obtain ⟨a, succeeded⟩ := h.run_of_not_blocks write blocks
      exact nomatch succeeded.symm.trans failed
    · exact Keyed.run_snd_of_not_isWrite write s.orders s.entries

end Server.IsFrom

/-- **A FAILED WRITE LEAVES THE RECORD.** After any run, an operation that writes fails exactly if
the record of a session lies where the index that it needs would; it is refused, and what remains is
its first command: the record of the instance is written or removed, and the index is not. So an
operation that fails leaves the key space as it was exactly if it is not blocked, or if the record
was already as the operation makes it. Where no session is written whose id ends in `:instances`, no
operation is blocked. -/
theorem failed_write_remains (orders : Nat → Listing) (ops : List AnyOperation)
    (op : Operation α) :
    let s := Server.after orders ops
    let result := s.talk (Keyed.dialogue op)
    (s.Blocks op ↔ op.IsWrite ∧ ∃ e, result.1.1 = .error e) ∧
    (s.Blocks op → result.1.1 = .error (Keyed.refused .wrongKind) ∧
      result.2.entries = op.remains s.entries) ∧
    (s.LeavesNoTrace op ↔ ¬ (s.Blocks op ∧ s.Spoils op)) ∧
    (s.Blocks op → ∃ t sessionId,
      ⟨Unit, .sessionPut t⟩ ∈ ops ∧ t.id = sessionId ++ ":instances") := by
  have h : (Server.after orders ops).IsFrom (· ∈ ops) := isFrom_after orders fun _ => id
  refine ⟨h.blocks_iff op, ?_, h.leavesNoTrace_iff op, ?_⟩
  · intro blocks
    obtain ⟨answer, -, entries⟩ := Dialogue.talk_of_isQuiet h.quiet (Keyed.dialogue op)
    rw [answer, entries, (h.run_of_blocks blocks).1]
    exact ⟨rfl, rfl⟩
  · intro blocks
    obtain ⟨sessionId, taken⟩ := blocks.exists_isTaken
    -- A place is only ever taken by a session that was written in this run.
    obtain ⟨t, put, own⟩ := h.put_of_isTaken taken
    exact ⟨t, sessionId, put, own⟩

/-- An instance of the session `x`. -/
def strayInstance : Instance := { sampleInstance with sessionId := "x" }

/-- Writing an instance of one session fails where the record of another is in the way, and the
record of the instance, which was absent, can be read afterwards. -/
theorem record_remains_of_refused :
    let s := Server.after alphabetically [lone "x:instances"]
    let result := s.talk (Keyed.dialogue (.instancePut strayInstance))
    result.1.1 = .error (Keyed.refused .wrongKind) ∧
      s.record "n" = .error (.notFound .instanceRecord "n") ∧
      result.2.record "n" = .ok strayInstance ∧ ¬ s.LeavesNoTrace (.instancePut strayInstance) := by
  intro s result
  have h : s.IsFrom (· ∈ [lone "x:instances"]) :=
    isFrom_after alphabetically fun _ => id
  have blocks : s.Blocks (.instancePut strayInstance) :=
    ⟨_, session_lone _ "x:instances"⟩
  have missing : s.record "n" = .error (.notFound .instanceRecord "n") := by
    rcases h.record_cases "n" with ⟨missing, -⟩ | ⟨j, put, -⟩
    · exact missing
    · exact nomatch List.mem_singleton.mp put
  obtain ⟨answer, quiet, entries⟩ :=
    Dialogue.talk_of_isQuiet h.quiet (Keyed.dialogue (.instancePut strayInstance))
  rw [(h.run_of_blocks blocks).1] at answer entries
  refine ⟨answer, missing, ?_, ?_⟩
  · refine Server.record_of_text (i := strayInstance) quiet ?_
    rw [entries, Operation.remains, getElem?_insert_eq, if_pos rfl]
  · rw [h.leavesNoTrace_iff, not_not]
    exact ⟨blocks, fun found => nomatch missing.symm.trans found⟩

end Playgrounds.Store
