import Playgrounds.Proofs.Worker.Cancellation

/-!
# What a request comes to

A request for a session that has a worker launches none, though that worker may be on its way out.

* `Timers.Serves` — after a request the session has a worker that has not been cancelled.
* `Timers.IsFree.serves` — a request for a free session is served.
* `Timers.served_unless_leaving` — a request is served unless the session's worker has been
  cancelled and has not ended; that worker is left as it is then, and a request after its end is
  served.
-/

namespace Playgrounds.Timers

open Custody

/-- After a request for its session, under this token, the session has a worker that has not been
cancelled. -/
def Serves (t : Timers) (i : Instance) (parent : Token) : Prop :=
  ∃ w, (t.run i parent).2.1.workers[i.sessionId]? = some w ∧
    (t.run i parent).2.1.registered? i.sessionId = some w.token ∧
    (t.run i parent).2.1.isCancelled w = false

section

variable {t : Timers} {i : Instance} {parent : Token}

/-- To ask for a worker launches one where the place is free. -/
theorem run_of_free (attached : i.sessionId.isEmpty = false) (free : t.IsFree i.sessionId)
    (parent : Token) : (t.run i parent).2.1 = t.launchFor i.sessionId parent := by
  obtain ⟨-, -, launched⟩ | ⟨detached | taken, -⟩ := run_cases t i parent
  · exact launched
  · exact nomatch attached.symm.trans detached
  · exact absurd free taken

/-- A request changes nothing if its session has a worker registered. -/
theorem run_of_registered {token : Token} (registered : t.registered? i.sessionId = some token)
    (parent : Token) : (t.run i parent).2.1 = t := by
  obtain ⟨-, free, -⟩ | ⟨-, same⟩ := run_cases t i parent
  · exact nomatch registered.symm.trans free.absent
  · exact same

theorem run_fst (attached : i.sessionId.isEmpty = false) (t : Timers) (parent : Token) :
    (t.run i parent).1 = .ok () := by
  simp [run, attached]

/-- A request for a free session is served: the token of the new worker is a new child of one that
has not been cancelled. -/
theorem IsFree.serves (free : t.IsFree i.sessionId) (attached : i.sessionId.isEmpty = false)
    (alive : t.staff.cancellations.covers parent = false)
    (unmade : ¬t.HasCancelled (.child parent t.issued)) : t.Serves i parent := by
  have launched := run_of_free attached free parent
  refine ⟨⟨.child parent t.issued, .fresh⟩, ?_, ?_, ?_⟩
  · rw [launched]
    exact Std.ExtTreeMap.getElem?_insert_self
  · rw [launched, free.registered?_launchFor, if_pos rfl]
  · rw [launched, ← Bool.not_eq_true, isCancelled, Cancellations.covers_iff,
      free.cancelled_launchFor]
    rintro ⟨u, line, cancelled⟩
    rcases List.mem_cons.mp line with rfl | line
    · exact unmade cancelled
    · refine absurd (Cancellations.covers_iff.mpr ⟨u, line, cancelled⟩) ?_
      rw [alive]
      exact Bool.false_ne_true

/-- A request for a session that has a worker is served by that worker or not at all. -/
theorem serves_iff_of_found {w : Worker} (found : t.workers[i.sessionId]? = some w)
    (registered : t.registered? i.sessionId = some w.token) :
    t.Serves i parent ↔ t.isCancelled w = false := by
  have same := run_of_registered registered parent
  rw [Serves, same]
  constructor
  · rintro ⟨v, found', -, uncancelled⟩
    obtain rfl := Option.some.inj (found'.symm.trans found)
    exact uncancelled
  · intro uncancelled
    exact ⟨w, found, registered, uncancelled⟩

end

/-- **WHAT A REQUEST COMES TO.** Whatever callers have done, short of a shutdown: a request for a
session, under a token that has not been cancelled, is answered well, and after it the session has a
worker registered. If it had none, that one is new, and has not been cancelled. If it had one, that
worker and all else is left as it was. So the request is served unless the session's worker has been
cancelled and has not ended, and it is if it is made again after that worker's turn. -/
theorem served_unless_leaving (limit : Option Nat) (ds : List Deed) (i : Instance) (parent : Token)
    (permitted : (start limit).PermitsAll (ds ++ [.run i parent])) (running : .shutDown ∉ ds)
    (attached : i.sessionId.isEmpty = false)
    (alive : (after limit ds).timers.staff.cancellations.covers parent = false) :
    let t := (after limit ds).timers
    (t.run i parent).1 = .ok () ∧
    (t.workers[i.sessionId]? = none →
      (t.run i parent).2.1.workers[i.sessionId]? = some ⟨.child parent t.issued, .fresh⟩) ∧
    (∀ w, t.workers[i.sessionId]? = some w →
      (t.run i parent).2.1 = t ∧ t.registered? i.sessionId = some w.token) ∧
    (t.Serves i parent ↔ ∀ w, t.workers[i.sessionId]? = some w → t.isCancelled w = false) ∧
    ∀ w, t.workers[i.sessionId]? = some w → t.isCancelled w = true →
      ∀ s : Service, s.timers = t →
        (s.workerTurn i.sessionId).timers.workers[i.sessionId]? = none ∧
        (s.workerTurn i.sessionId).timers.Serves i parent := by
  intro t
  obtain ⟨permitted, holds⟩ := permitsAll_concat.mp permitted
  have sound := sound_after permitted
  have opened : t.staff.roster.isClosed = false := by
    rw [← Bool.not_eq_true, (accounted_after permitted).isClosed_iff]
    exact running
  -- The token of the new worker has not been given out yet, and so is not cancelled.
  have unmade : ¬t.HasCancelled (.child parent t.issued) :=
    fun h => Nat.lt_irrefl _ (sound.cancelled_lt _ _ h)
  have free : t.workers[i.sessionId]? = none → t.IsFree i.sessionId := by
    intro absent
    refine ⟨?_, opened⟩
    rw [sound.registered_eq, absent]
    rfl
  refine ⟨run_fst attached t parent, ?_, ?_, ?_, ?_⟩
  · intro absent
    rw [run_of_free attached (free absent) parent]
    exact Std.ExtTreeMap.getElem?_insert_self
  · intro w found
    have registered := sound.registered_of_found found
    exact ⟨run_of_registered registered parent, registered⟩
  · cases found : t.workers[i.sessionId]? with
    | none =>
        refine iff_of_true ((free found).serves attached alive unmade) ?_
        exact fun w h => nomatch h
    | some w =>
        rw [serves_iff_of_found found (sound.registered_of_found found)]
        simp
  · intro w found cancelled s same
    -- The worker that is leaving is gone after its next turn, and then the place is free.
    have doomed : s.timers.Doomed i.sessionId w := by
      rw [same]
      exact sound.doomed found cancelled
    rw [Service.workerTurn_of_doomed doomed, same]
    refine ⟨Std.ExtTreeMap.getElem?_erase_self, ?_⟩
    exact IsFree.serves ⟨Std.ExtTreeMap.getElem?_erase_self, opened⟩ attached alive unmade

/-! ## A worker that is leaving -/

/-- An instance of the session `s`. -/
def leavingInstance : Instance :=
  ⟨"n", "s", "", "", "", .epoch⟩

/-- The worker of the session `s` is launched, begins, and is asked to end. -/
def leavingDeeds : List Deed :=
  [.run leavingInstance (.named "a"), .act "s" 0 .nothing, .cancel "s"]

/-- The deeds are permitted, as callers that have a name have a token from the start. -/
theorem permitsAll_leavingDeeds :
    (start none).PermitsAll (leavingDeeds ++ [.run leavingInstance (.named "b")]) := by
  decide +kernel

theorem shutDown_notMem_leavingDeeds : .shutDown ∉ leavingDeeds := by
  simp [leavingDeeds]

/-- A request that comes then is answered well, but it is not served: the worker that is registered
after it is cancelled, and with its next move the session has none. -/
theorem not_serves_leaving :
    ((start none).PermitsAll (leavingDeeds ++ [.run leavingInstance (.named "b")]) ∧
        .shutDown ∉ leavingDeeds ∧ leavingInstance.sessionId.isEmpty = false ∧
        (after none leavingDeeds).timers.staff.cancellations.covers (.named "b") = false ∧
        ((after none leavingDeeds).timers.run leavingInstance (.named "b")).1 = .ok ()) ∧
      ¬(after none leavingDeeds).timers.Serves leavingInstance (.named "b") ∧
      (((after none leavingDeeds).timers.run leavingInstance (.named "b")).2.1.act "s" 0
        .nothing).1.registered? "s" = none := by
  have attached : leavingInstance.sessionId.isEmpty = false := by decide
  have found : ((after none leavingDeeds).timers.run leavingInstance (.named "b")).2.1.workers["s"]?
      = some ⟨.child (.named "a") 0, .waiting 0⟩ := by
    decide +kernel
  have cancelled : ((after none leavingDeeds).timers.run leavingInstance
      (.named "b")).2.1.isCancelled ⟨.child (.named "a") 0, .waiting 0⟩ = true := by
    decide +kernel
  refine ⟨⟨permitsAll_leavingDeeds, shutDown_notMem_leavingDeeds, attached, by decide +kernel,
    run_fst attached _ _⟩, ?_, by decide +kernel⟩
  rintro ⟨w, found', -, uncancelled⟩
  obtain rfl := Option.some.inj (found.symm.trans found')
  exact absurd (cancelled.symm.trans uncancelled) Bool.true_eq_false.mp

/-- Made again after the worker's turn, the request is served. -/
theorem served_unless_leaving_again :
    (start none).PermitsAll (leavingDeeds ++ [.run leavingInstance (.named "b")]) ∧
      .shutDown ∉ leavingDeeds ∧ leavingInstance.sessionId.isEmpty = false ∧
      (after none leavingDeeds).timers.staff.cancellations.covers (.named "b") = false ∧
      ∀ s : Service, s.timers = (after none leavingDeeds).timers →
        (s.workerTurn "s").timers.Serves leavingInstance (.named "b") := by
  have attached : leavingInstance.sessionId.isEmpty = false := by decide
  have alive : (after none leavingDeeds).timers.staff.cancellations.covers (.named "b")
      = false := by decide +kernel
  have found : (after none leavingDeeds).timers.workers["s"]?
      = some ⟨.child (.named "a") 0, .waiting 0⟩ := by decide +kernel
  have cancelled : (after none leavingDeeds).timers.isCancelled
      ⟨.child (.named "a") 0, .waiting 0⟩ = true := by decide +kernel
  refine ⟨permitsAll_leavingDeeds, shutDown_notMem_leavingDeeds, attached, alive, ?_⟩
  intro s same
  exact ((served_unless_leaving none leavingDeeds leavingInstance (.named "b")
    permitsAll_leavingDeeds shutDown_notMem_leavingDeeds attached alive).2.2.2.2 _ found cancelled
    s same).2

end Playgrounds.Timers
