import Playgrounds.Proofs.Json.Faithful
import Playgrounds.Proofs.Store.Place
import Playgrounds.Store.Server

/-!
# Dialogues with a quiet server

A server is quiet while no refusal is armed. `Yields` says what a whole dialogue with a quiet server
comes to: the answer, what the key space shows afterwards, and that no record was passed over. One
rule for each part of a dialogue leads from the parts to the whole.
-/

namespace Playgrounds.Store

open Json

/-! ## One exchange -/

namespace Server

/-- No refusal is armed. -/
def IsQuiet (s : Server) : Prop :=
  s.armed = []

variable {s : Server}

theorem disarm?_of_isQuiet (quiet : s.IsQuiet) (name : String) : s.disarm? name = none := by
  rw [disarm?, show s.armed = [] from quiet]
  rfl

/-- A quiet server runs what it is told. -/
theorem perform_of_isQuiet (quiet : s.IsQuiet) (c : Command) :
    s.perform c = ((KeySpace.run (s.orders 0) c s.entries).1,
      { s with
        entries := (KeySpace.run (s.orders 0) c s.entries).2
        orders := c.later s.orders }) := by
  rw [perform, disarm?_of_isQuiet quiet]

/-- A quiet server runs the commands of a transaction on its key space. -/
theorem performAll_of_isQuiet (quiet : s.IsQuiet) (cs : List Command) :
    s.performAll cs = ((KeySpace.runAll s.orders cs s.entries).1,
      { s with
        entries := (KeySpace.runAll s.orders cs s.entries).2
        orders := Command.laterAll cs s.orders }) := by
  -- What the first command leaves is what the others start from, and it is as quiet as before.
  induction cs generalizing s with
  | nil => rfl
  | cons c cs ih =>
      have quiet' : { s with
          entries := (KeySpace.run (s.orders 0) c s.entries).2
          orders := c.later s.orders }.IsQuiet := quiet
      rw [performAll, perform_of_isQuiet quiet]
      simp only [ih quiet']
      rfl

/-- A command that only reads leaves all that the server holds. -/
theorem exec_of_isQuiet (quiet : s.IsQuiet) {c : Command} {r : Reply}
    (reads : KeySpace.run (s.orders 0) c s.entries = (r, s.entries)) :
    s.exec c = (r, { s.receive c.words with orders := c.later s.orders }) := by
  rw [exec, perform_of_isQuiet (s := s.receive c.words) quiet]
  simp only [receive, reads]

/-- Writing down what comes in leaves everything else. -/
theorem foldl_receive (lines : List (List String)) (s : Server) :
    lines.foldl receive s = { s with received := lines.reverse ++ s.received } := by
  induction lines generalizing s with
  | nil => rfl
  | cons line lines ih =>
      rw [List.foldl_cons, ih, receive, List.reverse_cons, List.append_assoc]
      rfl

/-- A transaction runs its commands; the server changes in nothing else that matters. -/
theorem transact_of_isQuiet (quiet : s.IsQuiet) (cs : List Command) :
    ∃ received, s.transact cs = (.ok (KeySpace.runAll s.orders cs s.entries).1,
      ⟨(KeySpace.runAll s.orders cs s.entries).2, s.armed, received,
        Command.laterAll cs s.orders⟩) := by
  refine ⟨((["MULTI"] :: cs.map Command.words) ++ [["EXEC"]]).reverse ++ s.received, ?_⟩
  have heard : { s with received :=
      ((["MULTI"] :: cs.map Command.words) ++ [["EXEC"]]).reverse ++ s.received }.IsQuiet := quiet
  simp only [transact, foldl_receive, disarm?_of_isQuiet heard, Option.or_none,
    performAll_of_isQuiet heard]

/-- A transaction whose commands are all accepted leads from one view to the other. -/
theorem transact_of_commits (quiet : s.IsQuiet) {v w : View} (shows : Shows s.entries v)
    {cs : List Command} (commits : Commits cs v w) :
    ∃ replies s', s.transact cs = (.ok replies, s') ∧ Keyed.firstRefusal replies = none ∧
      s'.IsQuiet ∧ Shows s'.entries w := by
  obtain ⟨accepted, shows⟩ := commits s.orders s.entries shows
  obtain ⟨received, answered⟩ := transact_of_isQuiet quiet cs
  exact ⟨_, _, answered, accepted, quiet, shows⟩

end Server

/-! ## Whole dialogues -/

/-- What a dialogue with a quiet server comes to: one of these results, and this view. Which of the
results it is depends on the order in which the server names members. -/
def Dialogue.Yields {α : Type} (d : Dialogue α) (v : View) (results : α → Prop) (w : View) : Prop :=
  ∀ s : Server, s.IsQuiet → Shows s.entries v →
    results (s.talk d).1.1 ∧ (s.talk d).1.2 = [] ∧ (s.talk d).2.IsQuiet ∧
      Shows (s.talk d).2.entries w

namespace Dialogue

variable {α β : Type} {v w u : View} {results : α → Prop}

theorem Yields.done {a : α} (here : results a) (v : View) :
    (Dialogue.done a).Yields v results v :=
  fun _ quiet shows => ⟨here, rfl, quiet, shows⟩

/-- A dialogue that yields one of some results yields one of any that are among others. -/
theorem Yields.mono {d : Dialogue α} {more : α → Prop} (yields : d.Yields v results w)
    (among : ∀ a, results a → more a) : d.Yields v more w := by
  intro s quiet shows
  obtain ⟨here, rest⟩ := yields s quiet shows
  exact ⟨among _ here, rest⟩

/-- A command that only reads. What it is answered may depend on the order. -/
theorem Yields.send {c : Command} {next : Reply → Dialogue α}
    (reads : ∀ order k, Shows k v → ∃ r, KeySpace.run order c k = (r, k) ∧
      (next r).Yields v results w) :
    (Dialogue.send c next).Yields v results w := by
  intro s quiet shows
  obtain ⟨r, answered, rest⟩ := reads (s.orders 0) s.entries shows
  rw [Server.talk, Server.exec_of_isQuiet quiet answered]
  exact rest _ quiet shows

/-- A transaction that commits is answered with success. -/
theorem Yields.transact {cs : List Command} (commits : Commits cs v w) :
    (Keyed.transact cs).Yields v (· = .ok ()) w := by
  intro s quiet shows
  obtain ⟨replies, s', answered, accepted, quiet', shows'⟩ :=
    Server.transact_of_commits quiet shows commits
  rw [Keyed.transact, Server.talk, answered]
  simp only [accepted]
  exact ⟨rfl, rfl, quiet', shows'⟩

/-- A dialogue in two parts is the first with the server, and then the second with what that has
made of it. -/
theorem talk_bind (d : Dialogue α) (f : α → Dialogue β) (s : Server) :
    s.talk (d.bind f) =
      ((((s.talk d).2.talk (f (s.talk d).1.1)).1.1,
          (s.talk d).1.2 ++ ((s.talk d).2.talk (f (s.talk d).1.1)).1.2),
        ((s.talk d).2.talk (f (s.talk d).1.1)).2) := by
  induction d generalizing s with
  | done a => rfl
  | send c next ih => exact ih (s.exec c).1 (s.exec c).2
  | transact cs next ih => exact ih (s.transact cs).1 (s.transact cs).2
  | report skipped next ih =>
      simp only [Dialogue.bind, Server.talk, ih]
      rfl

/-- One dialogue after another. -/
theorem Yields.bind {d : Dialogue α} {f : α → Dialogue β} {results' : β → Prop}
    (first : d.Yields v results w) (second : ∀ a, results a → (f a).Yields w results' u) :
    (d.bind f).Yields v results' u := by
  intro s quiet shows
  obtain ⟨here, silent, quiet, shows⟩ := first s quiet shows
  obtain ⟨here', silent', quiet, shows⟩ := second _ here _ quiet shows
  rw [talk_bind, silent, silent']
  exact ⟨here', rfl, quiet, shows⟩

/-! ## Reading records -/

/-- A record is read as it was written. -/
theorem Yields.get {format : Format α} (faithful : format.Faithful) {kind : RecordKind}
    {t : Table α} {id key : String} {p : Place} (same : p.key = key)
    (holds : v p = t[id]?.map fun a => .text (format.write a)) :
    (Keyed.get format kind id key).Yields v (· = Tables.find t kind id) v := by
  subst same
  refine Yields.send fun order k shows => ⟨_, shows.run_get order p, ?_⟩
  rw [holds]
  cases found : t[id]? with
  | none => exact .done (by rw [Tables.find, found]) _
  | some a =>
      simp only [Option.map_some, faithful.read_write]
      exact .done (by rw [Tables.find, found]; rfl) _

/-- All records of a list of ids are read, and none is passed over. -/
theorem Yields.load {format : Format α} (faithful : format.Faithful) {index : String}
    {keyOf : String → String} {find : String → Option α} {names : List String}
    (holds : ∀ id ∈ names, ∃ p : Place, p.key = keyOf id ∧
      v p = (find id).map fun a => .text (format.write a)) :
    (Keyed.load format index keyOf names).Yields v (· = .ok (names.filterMap find)) v := by
  induction names with
  | nil => exact .done rfl _
  | cons id names ih =>
      have ih := ih fun id h => holds id (List.mem_cons_of_mem _ h)
      obtain ⟨p, same, holds⟩ := holds id List.mem_cons_self
      refine Yields.send fun order k shows => ⟨_, same ▸ shows.run_get order p, ?_⟩
      -- A record that is not there is passed over without a word.
      cases found : find id with
      | none =>
          rw [holds, found, List.filterMap_cons_none found]
          exact ih
      | some a =>
          rw [holds, found, List.filterMap_cons_some found]
          simp only [Option.map_some, faithful.read_write]
          refine ih.bind fun rest here => .done ?_ _
          rw [here]
          rfl

/-- The records that an index names are all read, in whatever order it names them. -/
theorem Yields.loadIndexed {format : Format α} (faithful : format.Faithful)
    {keyOf : String → String} {find : String → Option α} {p : Place} {s : Std.ExtTreeSet String}
    (set : v p = setEntry s)
    (holds : ∀ id ∈ s, ∃ q : Place, q.key = keyOf id ∧
      v q = (find id).map fun a => .text (format.write a)) :
    (Keyed.loadIndexed format p.key keyOf).Yields v
      (fun result => ∃ names : List String,
        names.Perm s.toList ∧ result = .ok (names.filterMap find)) v := by
  refine Yields.send fun order k shows => ⟨_, shows.run_members order set, ?_⟩
  have all : ∀ id ∈ order.names s, ∃ q : Place, q.key = keyOf id ∧
      v q = (find id).map fun a => .text (format.write a) :=
    fun id named => holds id (Std.ExtTreeSet.mem_toList.mp ((order.perm s).mem_iff.mp named))
  exact (Yields.load faithful all).mono fun _ here => ⟨_, order.perm s, here⟩

end Dialogue

end Playgrounds.Store
