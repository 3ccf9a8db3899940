import Mathlib.Data.List.Nodup
import Playgrounds.Worker.Roster

/-!
# Who is at work, told one by one

The roster is told of sessions only: a worker that ends takes the entry of its session out without
a look at whose entry it is. `Muster` keeps the roster company and tells the workers apart, so that
it can be said that the entry taken out is always the worker's own.

* `Muster.Deed` — what may happen. A launch is more than one deed: the worker is entered, and its
  builder comes to an end some time later, well or not; anything may happen in between.
* `Muster.step`, `Muster.after` — one deed, and a whole history.
* `Muster.Tracked` — the invariant: each entry of the roster belongs to one standing worker.
-/

namespace Playgrounds

/-- A worker that was entered, and whose registration has not been dropped. -/
structure Enlisted where
  /-- How many workers were entered before it. -/
  number : Nat
  session : String
  token : Token
deriving DecidableEq

/-- A staff, and what can be told of it by someone who watched all along. -/
structure Muster where
  staff : Staff
  /-- The workers whose registration stands. -/
  standing : List Enlisted
  /-- The numbers of the standing workers whose builder has not come to an end. -/
  unbuilt : List Nat
  /-- How many workers have been entered. -/
  entered : Nat
  /-- What the launches answered that came to an answer, the latest first. -/
  answers : List Bool

namespace Muster

/-- What may happen to a staff. -/
inductive Deed where
  /-- A launch is asked for, and looks whether it may enter a worker. -/
  | ask (session : String) (parent : Token)
  /-- The builder of a worker is done; the worker is launched, and the launch answers. -/
  | built (number : Nat)
  /-- The builder of a worker breaks down, and with it the launch. -/
  | buildBroke (number : Nat)
  /-- A launched worker is over: it returned, obeyed its cancellation, broke down, or was thrown
  away at some point of its work. -/
  | ends (number : Nat)
  /-- The worker of a session is asked to end. -/
  | cancel (session : String)
  /-- Any token is cancelled. -/
  | cancelToken (t : Token)
  | shutDown
deriving DecidableEq

/-- Nobody was ever asked for. -/
def empty : Muster := ⟨.empty, [], [], 0, []⟩

/-- The registration of a worker is dropped. The staff is told its session, and nothing else. -/
def drop (m : Muster) (w : Enlisted) : Muster :=
  { m with
    staff := m.staff.leave w.session
    standing := m.standing.erase w
    unbuilt := m.unbuilt.erase w.number }

/-- The registration of the worker with this number is dropped, if it stands. -/
def dismiss (m : Muster) (number : Nat) : Muster :=
  match m.standing.find? (·.number == number) with
  | some w => m.drop w
  | none => m

/-- What comes of a deed. A deed of a worker that is not there, or not so far, does nothing. -/
def step (m : Muster) : Deed → Muster
  | .ask session parent =>
    match m.staff.enter session parent with
    | (some token, staff) =>
      { m with
        staff
        standing := ⟨m.entered, session, token⟩ :: m.standing
        unbuilt := m.entered :: m.unbuilt
        entered := m.entered + 1 }
    | (none, staff) => { m with staff, answers := false :: m.answers }
  | .built number =>
    if number ∈ m.unbuilt then
      { m with
        staff := m.staff.countLaunch
        unbuilt := m.unbuilt.erase number
        answers := true :: m.answers }
    else m
  | .buildBroke number => if number ∈ m.unbuilt then m.dismiss number else m
  | .ends number => if number ∈ m.unbuilt then m else m.dismiss number
  | .cancel session => { m with staff := (m.staff.cancel session).2 }
  | .cancelToken t => { m with staff := m.staff.cancelToken t }
  | .shutDown => { m with staff := m.staff.shutDown }

/-- What comes of a history of deeds. -/
def after (deeds : List Deed) : Muster :=
  deeds.foldl step empty

/-- How a standing worker goes: while it is being built its builder breaks down, and later on it
ends. -/
def parting (m : Muster) (w : Enlisted) : Deed :=
  if w.number ∈ m.unbuilt then .buildBroke w.number else .ends w.number

end Muster

/-! ## What the operations leave alone -/

namespace Cancellations

theorem issued_cancel (c : Cancellations) (t : Token) : (c.cancel t).issued = c.issued := by
  unfold cancel
  split <;> rfl

theorem issued_foldl_cancel (ts : List Token) (c : Cancellations) :
    (ts.foldl cancel c).issued = c.issued := by
  induction ts generalizing c with
  | nil => rfl
  | cons t rest ih =>
      rw [List.foldl_cons, ih, issued_cancel]

/-! Cancelling a token takes nothing back. -/

variable {c : Cancellations}

/-- A token that is cancelled is covered. -/
theorem covers_cancel_self (c : Cancellations) (t : Token) : (c.cancel t).covers t = true := by
  have here : t ∈ (c.cancel t).cancelled := by
    unfold cancel
    split
    next already => exact already
    next => exact List.mem_cons_self
  cases t with
  | dispatcher | named => simpa [covers] using here
  | child parent serial => simp [covers, here]

/-- What is covered stays covered. -/
theorem covers_cancel {u : Token} (covered : c.covers u = true) (t : Token) :
    (c.cancel t).covers u = true := by
  have kept : ∀ v ∈ c.cancelled, v ∈ (c.cancel t).cancelled := by
    intro v here
    unfold cancel
    split
    · exact here
    · exact List.mem_cons_of_mem _ here
  induction u with
  | dispatcher | named => simpa [covers] using kept _ (by simpa [covers] using covered)
  | child parent serial ih =>
      rw [covers, Bool.or_eq_true, decide_eq_true_iff] at covered ⊢
      exact covered.imp (kept _) ih

/-- Making a child cancels nothing. -/
theorem covers_child (c : Cancellations) (parent u : Token) :
    (c.child parent).2.covers u = c.covers u := by
  induction u with
  | dispatcher | named => rfl
  | child other serial ih => rw [covers, covers, ih, child]

theorem covers_foldl_cancel {u : Token} (covered : c.covers u = true) (ts : List Token) :
    (ts.foldl cancel c).covers u = true := by
  induction ts generalizing c with
  | nil => exact covered
  | cons t rest ih => exact ih (covers_cancel covered t)

/-- Of several tokens that are cancelled, each is covered. -/
theorem covers_foldl_cancel_of_mem {u : Token} {ts : List Token} (here : u ∈ ts) :
    (ts.foldl cancel c).covers u = true := by
  induction ts generalizing c with
  | nil => exact nomatch here
  | cons t rest ih =>
      rcases List.mem_cons.mp here with rfl | here
      · exact covers_foldl_cancel (covers_cancel_self c u) rest
      · exact ih here

end Cancellations

namespace Staff

theorem roster_cancel (s : Staff) (session : String) : (s.cancel session).2.roster = s.roster := by
  unfold cancel
  split <;> rfl

/-- To cancel a worker gives out no token. -/
theorem issued_cancel (s : Staff) (session : String) :
    (s.cancel session).2.cancellations.issued = s.cancellations.issued := by
  unfold cancel
  split
  · exact Cancellations.issued_cancel _ _
  · rfl

theorem covers_cancel {s : Staff} {u : Token} (covered : s.cancellations.covers u = true)
    (session : String) : (s.cancel session).2.cancellations.covers u = true := by
  unfold cancel
  split
  · exact Cancellations.covers_cancel covered _
  · exact covered

theorem issued_shutDown (s : Staff) :
    s.shutDown.cancellations.issued = s.cancellations.issued :=
  Cancellations.issued_foldl_cancel _ _

/-- A worker is entered exactly when its session has none and the roster is open. -/
theorem enter_of_free {s : Staff} {session : String} (parent : Token)
    (absent : session ∉ s.roster.entries) (opened : s.roster.isClosed = false) :
    s.enter session parent
      = (some (.child parent s.cancellations.issued),
        ⟨{ s.roster with
            entries := s.roster.entries.insert session (.child parent s.cancellations.issued)
            outstanding := s.roster.outstanding + 1 },
          { s.cancellations with issued := s.cancellations.issued + 1 }⟩) := by
  have free : s.roster.contains session = false := by
    rw [Roster.contains, ← Bool.not_eq_true, Std.ExtTreeMap.contains_iff_mem]
    exact absent
  simp [enter, Cancellations.child, Roster.admit?, free, opened]

/-- Nobody enters where the place is taken or the roster is closed. -/
theorem enter_of_taken {s : Staff} {session : String} (parent : Token)
    (taken : session ∈ s.roster.entries ∨ s.roster.isClosed = true) :
    s.enter session parent = (none, s) := by
  have refused : (s.roster.contains session || s.roster.isClosed) = true := by
    rw [Bool.or_eq_true, Roster.contains, Std.ExtTreeMap.contains_iff_mem]
    exact taken
  simp [enter, Roster.admit?, refused]

/-- A launch into a free place enters and is counted. -/
theorem launch_of_free {s : Staff} {session : String} (parent : Token)
    (absent : session ∉ s.roster.entries) (opened : s.roster.isClosed = false) :
    s.launch session parent
      = (some (.child parent s.cancellations.issued), (s.enter session parent).2.countLaunch) := by
  simp only [launch, enter_of_free parent absent opened]

/-- No launch succeeds where the place is taken or the roster is closed. -/
theorem launch_of_taken {s : Staff} {session : String} (parent : Token)
    (taken : session ∈ s.roster.entries ∨ s.roster.isClosed = true) :
    s.launch session parent = (none, s) := by
  simp only [launch, enter_of_taken parent taken]

end Staff

namespace Muster

variable {m : Muster}

/-- A launch that may enter a worker enters it, and has not answered yet. -/
theorem step_ask_of_free {session : String} (parent : Token)
    (absent : session ∉ m.staff.roster.entries) (opened : m.staff.roster.isClosed = false) :
    m.step (.ask session parent)
      = { staff := (m.staff.enter session parent).2
          standing := ⟨m.entered, session, .child parent m.staff.cancellations.issued⟩ :: m.standing
          unbuilt := m.entered :: m.unbuilt
          entered := m.entered + 1
          answers := m.answers } := by
  simp only [step, Staff.enter_of_free parent absent opened]

/-- A launch that may not enter a worker answers so at once. -/
theorem step_ask_of_taken {session : String} (parent : Token)
    (taken : session ∈ m.staff.roster.entries ∨ m.staff.roster.isClosed = true) :
    m.step (.ask session parent) = { m with answers := false :: m.answers } := by
  simp only [step, Staff.enter_of_taken parent taken]

/-- A worker that is built stops being built, and its launch succeeds. -/
theorem step_built_of_mem {n : Nat} (building : n ∈ m.unbuilt) :
    m.step (.built n)
      = { m with
          staff := m.staff.countLaunch
          unbuilt := m.unbuilt.erase n
          answers := true :: m.answers } :=
  if_pos building

theorem step_built_of_notMem {n : Nat} (built : n ∉ m.unbuilt) : m.step (.built n) = m :=
  if_neg built

theorem step_buildBroke_of_mem {n : Nat} (building : n ∈ m.unbuilt) :
    m.step (.buildBroke n) = m.dismiss n :=
  if_pos building

theorem step_buildBroke_of_notMem {n : Nat} (built : n ∉ m.unbuilt) :
    m.step (.buildBroke n) = m :=
  if_neg built

theorem step_ends_of_mem {n : Nat} (building : n ∈ m.unbuilt) : m.step (.ends n) = m :=
  if_pos building

/-- A worker that ends is dismissed. -/
theorem step_ends_of_notMem {n : Nat} (built : n ∉ m.unbuilt) :
    m.step (.ends n) = m.dismiss n :=
  if_neg built

/-! ## The invariant -/

/-- What the roster holds is what the standing workers account for. -/
structure Tracked (m : Muster) : Prop where
  /-- No two standing workers have the same session. -/
  sessions_nodup : (m.standing.map (·.session)).Nodup
  number_inj : ∀ v ∈ m.standing, ∀ w ∈ m.standing, v.number = w.number → v = w
  number_lt : ∀ w ∈ m.standing, w.number < m.entered
  unbuilt_nodup : m.unbuilt.Nodup
  unbuilt_standing : ∀ n ∈ m.unbuilt, ∃ w ∈ m.standing, w.number = n
  token_child : ∀ w ∈ m.standing, ∃ parent serial,
    w.token = .child parent serial ∧ serial < m.staff.cancellations.issued
  token_inj : ∀ v ∈ m.standing, ∀ w ∈ m.standing, v.token = w.token → v = w
  entry : ∀ w ∈ m.standing, m.staff.roster.entries[w.session]? = some w.token
  standing_of_mem : ∀ session ∈ m.staff.roster.entries, ∃ w ∈ m.standing, w.session = session
  outstanding_eq : m.staff.roster.outstanding = m.standing.length
  launched_eq : m.staff.roster.launched = m.answers.count true

/-- Nobody stands at first. -/
theorem tracked_empty : Tracked empty where
  sessions_nodup := List.nodup_nil
  number_inj := fun _ hv => nomatch hv
  number_lt := fun _ hw => nomatch hw
  unbuilt_nodup := List.nodup_nil
  unbuilt_standing := fun _ hn => nomatch hn
  token_child := fun _ hw => nomatch hw
  token_inj := fun _ hv => nomatch hv
  entry := fun _ hw => nomatch hw
  standing_of_mem := by
    intro session h
    exact absurd h Std.ExtTreeMap.not_mem_empty
  outstanding_eq := rfl
  launched_eq := rfl

namespace Tracked

theorem standing_nodup (t : m.Tracked) : m.standing.Nodup :=
  t.sessions_nodup.of_map

theorem eq_of_session (t : m.Tracked) {v w : Enlisted} (hv : v ∈ m.standing)
    (hw : w ∈ m.standing) (same : v.session = w.session) : v = w :=
  List.inj_on_of_nodup_map t.sessions_nodup hv hw same

/-- An entry stands for somebody who stands. -/
theorem mem_entries_iff (t : m.Tracked) (session : String) :
    session ∈ m.staff.roster.entries ↔ ∃ w ∈ m.standing, w.session = session := by
  constructor
  · exact t.standing_of_mem session
  · rintro ⟨w, hw, rfl⟩
    rw [Std.ExtTreeMap.mem_iff_isSome_getElem?, t.entry w hw]
    rfl

theorem mem_drop_standing (t : m.Tracked) {v w : Enlisted} :
    v ∈ (m.drop w).standing ↔ v ≠ w ∧ v ∈ m.standing :=
  t.standing_nodup.mem_erase_iff

/-- Dropping a registration takes out the entry of that worker, and of nobody else. -/
theorem getElem?_drop (t : m.Tracked) {w : Enlisted} :
    (m.drop w).staff.roster.entries[w.session]? = none ∧
      ∀ v ∈ (m.drop w).standing, w ∈ m.standing →
        (m.drop w).staff.roster.entries[v.session]? = some v.token := by
  refine ⟨Std.ExtTreeMap.getElem?_erase_self, ?_⟩
  intro v hv hw
  obtain ⟨other, hv⟩ := t.mem_drop_standing.mp hv
  -- Here it matters that the staff is told a session only: no two standing workers share one.
  have apart : w.session ≠ v.session := fun same => other (t.eq_of_session hw hv same).symm
  show (m.staff.roster.entries.erase w.session)[v.session]? = some v.token
  rw [Std.ExtTreeMap.getElem?_erase, if_neg (by simpa using apart)]
  exact t.entry v hv

/-- Somebody may go, with the entry. -/
theorem drop (t : m.Tracked) {w : Enlisted} (hw : w ∈ m.standing) : (m.drop w).Tracked where
  sessions_nodup := t.sessions_nodup.sublist (List.erase_sublist.map _)
  number_inj := fun v hv v' hv' =>
    t.number_inj v (t.mem_drop_standing.mp hv).2 v' (t.mem_drop_standing.mp hv').2
  number_lt := fun v hv => t.number_lt v (t.mem_drop_standing.mp hv).2
  unbuilt_nodup := t.unbuilt_nodup.erase _
  unbuilt_standing := by
    intro n hn
    obtain ⟨other, hn⟩ := t.unbuilt_nodup.mem_erase_iff.mp hn
    obtain ⟨v, hv, rfl⟩ := t.unbuilt_standing n hn
    exact ⟨v, t.mem_drop_standing.mpr ⟨fun same => other (same ▸ rfl), hv⟩, rfl⟩
  token_child := fun v hv => t.token_child v (t.mem_drop_standing.mp hv).2
  token_inj := fun v hv v' hv' =>
    t.token_inj v (t.mem_drop_standing.mp hv).2 v' (t.mem_drop_standing.mp hv').2
  entry := fun v hv => t.getElem?_drop.2 v hv hw
  standing_of_mem := by
    intro session h
    obtain ⟨apart, h⟩ := Std.ExtTreeMap.mem_erase.mp h
    obtain ⟨v, hv, rfl⟩ := t.standing_of_mem session h
    refine ⟨v, t.mem_drop_standing.mpr ⟨?_, hv⟩, rfl⟩
    -- The session of the one who goes has no entry any more.
    rintro rfl
    exact apart Std.ReflCmp.compare_self
  outstanding_eq := by
    show m.staff.roster.outstanding - 1 = (m.standing.erase w).length
    rw [List.length_erase_of_mem hw, t.outstanding_eq]
  launched_eq := t.launched_eq

/-- Whoever stands is found by number. -/
theorem find?_number (t : m.Tracked) {w : Enlisted} (hw : w ∈ m.standing) :
    m.standing.find? (·.number == w.number) = some w := by
  cases found : m.standing.find? (·.number == w.number) with
  | none =>
      have := List.find?_eq_none.mp found w hw
      simp at this
  | some v =>
      have same : v.number = w.number := by simpa using List.find?_some found
      rw [t.number_inj v (List.mem_of_find?_eq_some found) w hw same]

theorem dismiss_number (t : m.Tracked) {w : Enlisted} (hw : w ∈ m.standing) :
    m.dismiss w.number = m.drop w := by
  rw [dismiss, t.find?_number hw]

/-- **To dismiss somebody keeps the muster.** -/
theorem dismiss (t : m.Tracked) (number : Nat) : (m.dismiss number).Tracked := by
  unfold Muster.dismiss
  split
  next w found => exact t.drop (List.mem_of_find?_eq_some found)
  next => exact t

/-- A worker that is entered has a session without an entry, a number that comes next and a token
that was never issued. -/
theorem enter (t : m.Tracked) {session : String} (parent : Token)
    (absent : session ∉ m.staff.roster.entries) (opened : m.staff.roster.isClosed = false) :
    (m.step (.ask session parent)).Tracked := by
  have fresh : ∀ w ∈ m.standing, w.session ≠ session := by
    intro w hw same
    exact absent ((t.mem_entries_iff session).mpr ⟨w, hw, same⟩)
  -- Every token so far has a serial number below the next.
  have newToken : ∀ w ∈ m.standing, w.token ≠ .child parent m.staff.cancellations.issued := by
    intro w hw same
    obtain ⟨p, n, isChild, small⟩ := t.token_child w hw
    rw [isChild] at same
    injection same with _ same
    omega
  have newNumber : m.entered ∉ m.unbuilt := by
    intro h
    obtain ⟨w, hw, same⟩ := t.unbuilt_standing _ h
    have := t.number_lt w hw
    omega
  rw [step_ask_of_free parent absent opened, Staff.enter_of_free parent absent opened]
  refine ⟨?_, ?_, ?_, ?_, ?_, ?_, ?_, ?_, ?_, ?_, t.launched_eq⟩
  -- sessions
  · refine List.nodup_cons.mpr ⟨?_, t.sessions_nodup⟩
    intro h
    obtain ⟨w, hw, same⟩ := List.mem_map.mp h
    exact fresh w hw same
  -- numbers
  · intro v hv w hw same
    rcases List.mem_cons.mp hv with rfl | hv <;> rcases List.mem_cons.mp hw with rfl | hw
    · rfl
    · exact absurd same (Nat.ne_of_gt (t.number_lt w hw))
    · exact absurd same (Nat.ne_of_lt (t.number_lt v hv))
    · exact t.number_inj v hv w hw same
  · intro w hw
    rcases List.mem_cons.mp hw with rfl | hw
    · exact Nat.lt_succ_self _
    · exact Nat.lt_succ_of_lt (t.number_lt w hw)
  -- workers that are being built
  · exact List.nodup_cons.mpr ⟨newNumber, t.unbuilt_nodup⟩
  · intro n hn
    rcases List.mem_cons.mp hn with rfl | hn
    · exact ⟨_, List.mem_cons_self, rfl⟩
    · obtain ⟨w, hw, same⟩ := t.unbuilt_standing n hn
      exact ⟨w, List.mem_cons_of_mem _ hw, same⟩
  -- tokens
  · intro w hw
    rcases List.mem_cons.mp hw with rfl | hw
    · exact ⟨parent, _, rfl, Nat.lt_succ_self _⟩
    · obtain ⟨p, n, isChild, small⟩ := t.token_child w hw
      exact ⟨p, n, isChild, Nat.lt_succ_of_lt small⟩
  · intro v hv w hw same
    rcases List.mem_cons.mp hv with rfl | hv <;> rcases List.mem_cons.mp hw with rfl | hw
    · rfl
    · exact absurd same.symm (newToken w hw)
    · exact absurd same (newToken v hv)
    · exact t.token_inj v hv w hw same
  -- entries
  · intro w hw
    rcases List.mem_cons.mp hw with rfl | hw
    · exact Std.ExtTreeMap.getElem?_insert_self
    · show (m.staff.roster.entries.insert session _)[w.session]? = some w.token
      rw [Std.ExtTreeMap.getElem?_insert, if_neg (by simpa using (fresh w hw).symm)]
      exact t.entry w hw
  · intro s hs
    rcases Std.ExtTreeMap.mem_insert.mp hs with same | hs
    · exact ⟨_, List.mem_cons_self, by simpa using same⟩
    · obtain ⟨w, hw, same⟩ := t.standing_of_mem s hs
      exact ⟨w, List.mem_cons_of_mem _ hw, same⟩
  · exact congrArg (· + 1) t.outstanding_eq

/-- **One deed keeps the invariant.** -/
theorem step (t : m.Tracked) (d : Deed) : (m.step d).Tracked := by
  cases d with
  | ask session parent =>
      by_cases taken : session ∈ m.staff.roster.entries ∨ m.staff.roster.isClosed = true
      · rw [step_ask_of_taken parent taken]
        -- A launch is counted when the worker is built, and answered at the same time.
        exact { t with launched_eq := by simpa using t.launched_eq }
      · rw [not_or, Bool.not_eq_true] at taken
        exact t.enter parent taken.1 taken.2
  | built number =>
      by_cases building : number ∈ m.unbuilt
      · rw [step_built_of_mem building]
        exact { t with
          unbuilt_nodup := t.unbuilt_nodup.erase _
          unbuilt_standing := fun n hn => t.unbuilt_standing n (List.mem_of_mem_erase hn)
          launched_eq := by
            show m.staff.roster.launched + 1 = (true :: m.answers).count true
            rw [List.count_cons_self, t.launched_eq] }
      · rw [step_built_of_notMem building]
        exact t
  | buildBroke number =>
      by_cases building : number ∈ m.unbuilt
      · rw [step_buildBroke_of_mem building]
        exact t.dismiss number
      · rw [step_buildBroke_of_notMem building]
        exact t
  | ends number =>
      by_cases building : number ∈ m.unbuilt
      · rw [step_ends_of_mem building]
        exact t
      · rw [step_ends_of_notMem building]
        exact t.dismiss number
  | cancel session =>
      simp only [Muster.step]
      exact { t with
        token_child := by
          rw [Staff.issued_cancel]
          exact t.token_child
        entry := by
          rw [Staff.roster_cancel]
          exact t.entry
        standing_of_mem := by
          rw [Staff.roster_cancel]
          exact t.standing_of_mem
        outstanding_eq := by
          rw [Staff.roster_cancel]
          exact t.outstanding_eq
        launched_eq := by
          rw [Staff.roster_cancel]
          exact t.launched_eq }
  | cancelToken token =>
      exact { t with
        token_child := by
          show ∀ w ∈ m.standing, ∃ parent serial, w.token = .child parent serial ∧
            serial < (m.staff.cancellations.cancel token).issued
          rw [Cancellations.issued_cancel]
          exact t.token_child }
  | shutDown =>
      exact { t with
        token_child := by
          show ∀ w ∈ m.standing, ∃ parent serial, w.token = .child parent serial ∧
            serial < m.staff.shutDown.cancellations.issued
          rw [Staff.issued_shutDown]
          exact t.token_child }

/-- **The muster is kept by any deeds.** -/
theorem foldl (t : m.Tracked) (deeds : List Deed) : (deeds.foldl Muster.step m).Tracked := by
  induction deeds generalizing m with
  | nil => exact t
  | cons d rest ih => exact ih (t.step d)

end Tracked

/-- **The invariant holds after every history.** -/
theorem tracked_after (deeds : List Deed) : (after deeds).Tracked :=
  tracked_empty.foldl deeds

end Muster

end Playgrounds
