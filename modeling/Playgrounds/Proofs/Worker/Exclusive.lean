import Playgrounds.Proofs.Worker.Muster

/-!
# One worker a session

What the roster of workers promises, for every history of launches, endings, cancellations and
shutdowns: its entries are the standing workers, one for each session that has any. A worker that
goes takes its own entry along, though the roster is only told its session.
-/

namespace Playgrounds.Muster

variable {m : Muster}

/-! ## Open and closed -/

theorem isClosed_dismiss (m : Muster) (number : Nat) :
    (m.dismiss number).staff.roster.isClosed = m.staff.roster.isClosed := by
  unfold dismiss
  split <;> rfl

/-- Only a shutdown closes the roster. -/
theorem isClosed_step (m : Muster) (d : Deed) :
    (m.step d).staff.roster.isClosed = true
      ↔ m.staff.roster.isClosed = true ∨ d = .shutDown := by
  cases d with
  | ask session parent =>
      by_cases taken : session ∈ m.staff.roster.entries ∨ m.staff.roster.isClosed = true
      · rw [step_ask_of_taken parent taken]
        simp
      · rw [not_or, Bool.not_eq_true] at taken
        rw [step_ask_of_free parent taken.1 taken.2, Staff.enter_of_free parent taken.1 taken.2]
        simp
  | built number =>
      -- Whether the worker is still being built or not, the roster is left open or closed.
      rw [or_iff_left fun h => nomatch h]
      by_cases building : number ∈ m.unbuilt
      · rw [step_built_of_mem building]
        rfl
      · rw [step_built_of_notMem building]
  | buildBroke number =>
      rw [or_iff_left fun h => nomatch h]
      by_cases building : number ∈ m.unbuilt
      · rw [step_buildBroke_of_mem building, isClosed_dismiss]
      · rw [step_buildBroke_of_notMem building]
  | ends number =>
      rw [or_iff_left fun h => nomatch h]
      by_cases building : number ∈ m.unbuilt
      · rw [step_ends_of_mem building]
      · rw [step_ends_of_notMem building, isClosed_dismiss]
  | cancel session =>
      simp only [step, Staff.roster_cancel, reduceCtorEq, or_false]
  | cancelToken t => simp [step, Staff.cancelToken]
  | shutDown => simp [step, Staff.shutDown, Roster.close]

/-- The roster is closed once a shutdown has been called, and not before. -/
theorem isClosed_foldl (deeds : List Deed) (m : Muster) :
    (deeds.foldl step m).staff.roster.isClosed = true
      ↔ m.staff.roster.isClosed = true ∨ .shutDown ∈ deeds := by
  induction deeds generalizing m with
  | nil => simp
  | cons d rest ih =>
      rw [List.foldl_cons, ih, isClosed_step, List.mem_cons, or_assoc, eq_comm (a := d)]

theorem isClosed_after (deeds : List Deed) :
    (after deeds).staff.roster.isClosed = true ↔ .shutDown ∈ deeds := by
  have opened : ¬ empty.staff.roster.isClosed = true := Bool.false_ne_true
  rw [after, isClosed_foldl, or_iff_right opened]

/-! ## A worker goes -/

/-- The deed by which a standing worker goes drops its registration. -/
theorem Tracked.step_parting (t : m.Tracked) {w : Enlisted} (hw : w ∈ m.standing) :
    m.step (m.parting w) = m.drop w := by
  unfold parting
  by_cases building : w.number ∈ m.unbuilt
  · rw [if_pos building, step_buildBroke_of_mem building]
    exact t.dismiss_number hw
  · rw [if_neg building, step_ends_of_notMem building]
    exact t.dismiss_number hw

/-! ## A launch without a break -/

/-- Nobody is being built, or stands, under the number that comes next. -/
theorem Tracked.entered_unused (t : m.Tracked) :
    m.entered ∉ m.unbuilt ∧ ∀ w ∈ m.standing, w.number ≠ m.entered := by
  have unused : ∀ w ∈ m.standing, w.number ≠ m.entered :=
    fun w hw => Nat.ne_of_lt (t.number_lt w hw)
  refine ⟨?_, unused⟩
  intro h
  obtain ⟨w, hw, same⟩ := t.unbuilt_standing _ h
  exact unused w hw same

/-- A launch whose builder comes to a good end leaves what `Staff.launch` leaves, and answers as
it does. -/
theorem Tracked.ask_built (t : m.Tracked) (session : String) (parent : Token) :
    ((m.step (.ask session parent)).step (.built m.entered)).staff
        = (m.staff.launch session parent).2 ∧
      ((m.step (.ask session parent)).step (.built m.entered)).answers
        = (m.staff.launch session parent).1.isSome :: m.answers := by
  by_cases taken : session ∈ m.staff.roster.entries ∨ m.staff.roster.isClosed = true
  · rw [step_ask_of_taken parent taken, Staff.launch_of_taken parent taken,
      step_built_of_notMem (m := { m with answers := false :: m.answers }) t.entered_unused.1]
    exact ⟨rfl, rfl⟩
  · rw [not_or, Bool.not_eq_true] at taken
    rw [step_ask_of_free parent taken.1 taken.2, Staff.launch_of_free parent taken.1 taken.2,
      step_built_of_mem List.mem_cons_self]
    exact ⟨rfl, rfl⟩

/-- A launch whose builder breaks down at once leaves the entries and the workers as they were. -/
theorem Tracked.ask_buildBroke (t : m.Tracked) (session : String) (parent : Token) :
    ((m.step (.ask session parent)).step (.buildBroke m.entered)).staff.roster.entries
        = m.staff.roster.entries ∧
      ((m.step (.ask session parent)).step (.buildBroke m.entered)).standing = m.standing := by
  by_cases taken : session ∈ m.staff.roster.entries ∨ m.staff.roster.isClosed = true
  · rw [step_ask_of_taken parent taken,
      step_buildBroke_of_notMem (m := { m with answers := false :: m.answers }) t.entered_unused.1]
    exact ⟨rfl, rfl⟩
  · rw [not_or, Bool.not_eq_true] at taken
    have entering := t.enter parent taken.1 taken.2
    rw [step_ask_of_free parent taken.1 taken.2] at entering ⊢
    rw [step_buildBroke_of_mem List.mem_cons_self, entering.dismiss_number List.mem_cons_self,
      Staff.enter_of_free parent taken.1 taken.2]
    -- The session had no entry, so putting one in and taking it out changes nothing.
    refine ⟨?_, List.erase_cons_head _ _⟩
    show (m.staff.roster.entries.insert session _).erase session = m.staff.roster.entries
    refine Std.ExtTreeMap.ext_getElem? fun s => ?_
    by_cases same : session = s
    · subst same
      rw [Std.ExtTreeMap.getElem?_erase_self, Std.ExtTreeMap.getElem?_eq_none taken.1]
    · rw [Std.ExtTreeMap.getElem?_erase, if_neg (by simpa using same),
        Std.ExtTreeMap.getElem?_insert, if_neg (by simpa using same)]

/-! ## The roster at any time -/

/-- A session has no standing worker, and no shutdown has been called. -/
def Free (deeds : List Deed) (session : String) : Prop :=
  (∀ w ∈ (after deeds).standing, w.session ≠ session) ∧ .shutDown ∉ deeds

/-- Whether a session is free is told by the deeds alone. -/
theorem free_iff (deeds : List Deed) (session : String) :
    Free deeds session ↔ session ∉ (after deeds).staff.roster.entries ∧
      (after deeds).staff.roster.isClosed = false := by
  rw [Free, ← isClosed_after deeds, Bool.not_eq_true, (tracked_after deeds).mem_entries_iff]
  simp only [not_exists, not_and, ne_eq]

/-- A launch is told no, or enters a worker, by whether its session is free. -/
theorem launch_isSome_iff (deeds : List Deed) (session : String) (parent : Token) :
    ((after deeds).staff.launch session parent).1.isSome = true ↔ Free deeds session := by
  rw [free_iff]
  by_cases taken : session ∈ (after deeds).staff.roster.entries ∨
      (after deeds).staff.roster.isClosed = true
  · rw [Staff.launch_of_taken parent taken, ← Bool.not_eq_true, ← not_or]
    exact ⟨fun h => absurd h Bool.false_ne_true, fun h => absurd taken h⟩
  · rw [not_or, Bool.not_eq_true] at taken
    rw [Staff.launch_of_free parent taken.1 taken.2]
    exact ⟨fun _ => taken, fun _ => rfl⟩

theorem entered_mem_unbuilt_iff (deeds : List Deed) (session : String) (parent : Token) :
    (after deeds).entered ∈ ((after deeds).step (.ask session parent)).unbuilt
      ↔ Free deeds session := by
  rw [free_iff]
  by_cases taken : session ∈ (after deeds).staff.roster.entries ∨
      (after deeds).staff.roster.isClosed = true
  · rw [step_ask_of_taken parent taken, ← Bool.not_eq_true, ← not_or]
    exact ⟨fun h => absurd h (tracked_after deeds).entered_unused.1, fun h => absurd taken h⟩
  · rw [not_or, Bool.not_eq_true] at taken
    rw [step_ask_of_free parent taken.1 taken.2]
    exact ⟨fun _ => taken, fun _ => List.mem_cons_self⟩

theorem after_append (deeds more : List Deed) :
    after (deeds ++ more) = more.foldl step (after deeds) :=
  List.foldl_append

/-- **ONE WORKER A SESSION.** After every history the sessions on the roster are those of the
standing workers, no two of which share a session, and each is entered with its own token. A worker
that goes takes its own entry out and no other. A launch enters a worker exactly when its session
is free, and then answers that it did once the worker is built, whatever happens in between; one
whose builder breaks down leaves no entry. The launches counted are those that answered so. -/
theorem entries_are_the_standing (deeds : List Deed) :
    (∀ session, session ∈ (after deeds).staff.roster.entries
      ↔ ∃ w ∈ (after deeds).standing, w.session = session) ∧
    ((after deeds).standing.map (·.session)).Nodup ∧
    (∀ w ∈ (after deeds).standing, (after deeds).staff.roster.entries[w.session]? = some w.token) ∧
    (∀ v ∈ (after deeds).standing, ∀ w ∈ (after deeds).standing, v.token = w.token → v = w) ∧
    (∀ w ∈ (after deeds).standing,
      let gone := after (deeds ++ [(after deeds).parting w])
      gone.standing = (after deeds).standing.erase w ∧
      w.session ∉ gone.staff.roster.entries ∧
      ∀ session, session ≠ w.session →
        gone.staff.roster.entries[session]? = (after deeds).staff.roster.entries[session]?) ∧
    (∀ session parent,
      (after deeds).entered ∈ (after (deeds ++ [.ask session parent])).unbuilt
        ↔ Free deeds session) ∧
    (∀ n ∈ (after deeds).unbuilt,
      (after (deeds ++ [.built n])).answers = true :: (after deeds).answers) ∧
    (∀ session parent,
      let launch := (after deeds).staff.launch session parent
      let done := after (deeds ++ [.ask session parent, .built (after deeds).entered])
      (launch.1.isSome = true ↔ Free deeds session) ∧
      done.staff = launch.2 ∧ done.answers = launch.1.isSome :: (after deeds).answers) ∧
    (∀ session parent,
      let broken := after (deeds ++ [.ask session parent, .buildBroke (after deeds).entered])
      broken.staff.roster.entries = (after deeds).staff.roster.entries ∧
      broken.standing = (after deeds).standing) ∧
    (after deeds).staff.roster.launched = (after deeds).answers.count true := by
  have t := tracked_after deeds
  refine ⟨t.mem_entries_iff, t.sessions_nodup, t.entry, t.token_inj, ?_, ?_, ?_, ?_, ?_,
    t.launched_eq⟩
  -- a worker goes
  · intro w hw
    rw [after_append, List.foldl_cons, t.step_parting hw]
    refine ⟨rfl, ?_, ?_⟩
    · rw [List.foldl_nil, Std.ExtTreeMap.mem_iff_isSome_getElem?, t.getElem?_drop.1]
      exact Bool.false_ne_true
    · intro session apart
      show ((after deeds).staff.roster.entries.erase w.session)[session]? = _
      rw [Std.ExtTreeMap.getElem?_erase, if_neg (by simpa using apart.symm)]
  -- a launch, and the end of its builder some time later
  · intro session parent
    rw [after_append]
    exact entered_mem_unbuilt_iff deeds session parent
  · intro n building
    rw [after_append, List.foldl_cons, step_built_of_mem building]
    rfl
  -- a launch whose builder comes to an end at once
  · intro session parent
    rw [after_append]
    exact ⟨launch_isSome_iff deeds session parent, t.ask_built session parent⟩
  · intro session parent
    rw [after_append]
    exact t.ask_buildBroke session parent

end Playgrounds.Muster
