import Playgrounds.Proofs.Store.Table
import Playgrounds.Proofs.Worker.Exclusive

/-!
# Whom a shutdown waits for

A shutdown closes the roster and asks everyone to end, and then waits until nothing is held on to:
a launch holds on from the entry of its worker until it is over, and a launched worker until nothing
is left of it. `Attendance` keeps these holds beside a muster, so that a shutdown which runs between
the entry of a worker and its launch can be spoken of.

* `Attendance.Act` — what may happen: a deed, a hold that is let go, a shutdown that returns.
* `Attendance.Sound` — the invariant: each standing worker is held on to, and is asked to end once
  the roster is closed.
* `shutdown_joins_all` — what holds when a shutdown has returned, and ever after.
-/

namespace Playgrounds

/-- What a shutdown waits for. -/
inductive Hold where
  /-- A launch that has entered a worker. -/
  | launch (number : Nat)
  /-- A worker that has been launched. -/
  | worker (number : Nat)
deriving DecidableEq

/-- A muster, and the shutdowns that wait for it. -/
structure Attendance where
  muster : Muster
  holds : List Hold
  /-- How many shutdowns wait. -/
  waiting : Nat
  /-- How many shutdowns have returned. -/
  returned : Nat

namespace Attendance

/-- What may happen to a muster and to those who wait for it. -/
inductive Act where
  /-- A deed; of a shutdown it is the part that closes the roster and asks everyone to end. -/
  | deed (d : Muster.Deed)
  /-- A hold is let go. -/
  | letGo (h : Hold)
  /-- A shutdown that waits returns. -/
  | returns
deriving DecidableEq

/-- Nobody was ever asked for, and nobody waits. -/
def empty : Attendance := ⟨.empty, [], 0, 0⟩

/-- What a deed takes hold of. -/
def taken (m : Muster) : Muster.Deed → List Hold
  | .ask session parent =>
    if (m.staff.enter session parent).1.isSome then [.launch m.entered] else []
  | .built number => if number ∈ m.unbuilt then [.worker number] else []
  | _ => []

/-- A hold may be let go: the builder has come to an end, or the worker's registration has been
dropped. -/
def IsOver (m : Muster) : Hold → Prop
  | .launch number => number ∉ m.unbuilt
  | .worker number => ∀ w ∈ m.standing, w.number ≠ number

instance (m : Muster) (h : Hold) : Decidable (IsOver m h) :=
  match h with
  | .launch number => inferInstanceAs (Decidable (number ∉ m.unbuilt))
  | .worker number => inferInstanceAs (Decidable (∀ w ∈ m.standing, w.number ≠ number))

/-- What comes of an act. One that may not happen yet does nothing. -/
def step (a : Attendance) : Act → Attendance
  | .deed d =>
    { a with
      muster := a.muster.step d
      holds := taken a.muster d ++ a.holds
      waiting := if d = .shutDown then a.waiting + 1 else a.waiting }
  | .letGo h => if IsOver a.muster h then { a with holds := a.holds.erase h } else a
  | .returns =>
    if 0 < a.waiting ∧ a.muster.staff.roster.isClosed = true ∧ a.holds = [] then
      { a with waiting := a.waiting - 1, returned := a.returned + 1 }
    else a

/-- What comes of a history. -/
def after (acts : List Act) : Attendance :=
  acts.foldl step empty

end Attendance

/-! ## Everyone is asked to end -/

namespace Muster

variable {m : Muster}

/-- The worker has been asked to end. -/
def IsAsked (m : Muster) (w : Enlisted) : Prop :=
  m.staff.cancellations.covers w.token = true

/-- If the roster is closed then everyone who stands, launched or not, has been asked to end. -/
def AsksAll (m : Muster) : Prop :=
  m.staff.roster.isClosed = true → ∀ w ∈ m.standing, m.IsAsked w

/-- Nobody stands who did not before a worker was dismissed. -/
theorem standing_dismiss_subset (m : Muster) (number : Nat) :
    (m.dismiss number).standing ⊆ m.standing := by
  unfold dismiss
  split
  · exact List.erase_subset
  · exact List.Subset.refl _

theorem cancellations_dismiss (m : Muster) (number : Nat) :
    (m.dismiss number).staff.cancellations = m.staff.cancellations := by
  unfold dismiss
  split <;> rfl

/-- By a deed of leaving a worker goes, or nothing happens. -/
theorem step_of_leaving {d : Deed} {number : Nat}
    (leaving : d = .buildBroke number ∨ d = .ends number) :
    m.step d = m ∨ m.step d = m.dismiss number := by
  by_cases building : number ∈ m.unbuilt
  · rcases leaving with rfl | rfl
    · exact .inr (step_buildBroke_of_mem building)
    · exact .inl (step_ends_of_mem building)
  · rcases leaving with rfl | rfl
    · exact .inl (step_buildBroke_of_notMem building)
    · exact .inr (step_ends_of_notMem building)

theorem AsksAll.dismiss (all : m.AsksAll) (number : Nat) : (m.dismiss number).AsksAll := by
  intro closed w here
  rw [isClosed_dismiss] at closed
  rw [IsAsked, cancellations_dismiss]
  exact all closed w (standing_dismiss_subset m number here)

theorem AsksAll.leave (all : m.AsksAll) {d : Deed} {number : Nat}
    (leaving : d = .buildBroke number ∨ d = .ends number) : (m.step d).AsksAll := by
  rcases step_of_leaving leaving with same | gone
  · rw [same]
    exact all
  · rw [gone]
    exact all.dismiss number

/-- **Once the roster is closed, each deed leaves everybody asked to end.** -/
theorem AsksAll.step (all : m.AsksAll) (t : m.Tracked) (d : Deed) : (m.step d).AsksAll := by
  cases d with
  | ask session parent =>
      by_cases taken : session ∈ m.staff.roster.entries ∨ m.staff.roster.isClosed = true
      · rw [step_ask_of_taken parent taken]
        exact all
      · intro closed
        rcases (isClosed_step m _).mp closed with closed | other
        · exact absurd (.inr closed) taken
        · exact nomatch other
  | built number =>
      by_cases building : number ∈ m.unbuilt
      · rw [step_built_of_mem building]
        exact all
      · rw [step_built_of_notMem building]
        exact all
  | buildBroke number => exact all.leave (.inl rfl)
  | ends number => exact all.leave (.inr rfl)
  | cancel session =>
      intro closed w here
      have asked := all (by simpa only [Muster.step, Staff.roster_cancel] using closed) w here
      exact Staff.covers_cancel asked session
  | cancelToken token =>
      intro closed w here
      exact Cancellations.covers_cancel (all closed w here) token
  | shutDown =>
      -- Everyone who stands has an entry, so its token is among those that are cancelled.
      intro _ w here
      refine Cancellations.covers_foldl_cancel_of_mem ?_
      rw [Store.values_eq_map_snd]
      refine List.mem_map.mpr ⟨(w.session, w.token), ?_, rfl⟩
      exact Std.ExtTreeMap.mem_toList_iff_getElem?_eq_some.mpr (t.entry w here)

/-! ## Everyone can end -/

/-- How a standing worker comes to its end: it is launched if it has not been, and ends. -/
def course (m : Muster) (w : Enlisted) : List Deed :=
  if w.number ∈ m.unbuilt then [.built w.number, .ends w.number] else [.ends w.number]

/-- A worker that takes its course is gone in the end, and nobody else is. -/
theorem Tracked.standing_foldl_course (t : m.Tracked) {w : Enlisted} (here : w ∈ m.standing) :
    ((m.course w).foldl Muster.step m).standing = m.standing.erase w := by
  rw [course]
  split
  next building =>
      have t' := t.step (.built w.number)
      have built : w.number ∉ (m.step (.built w.number)).unbuilt := by
        rw [step_built_of_mem building]
        exact t.unbuilt_nodup.not_mem_erase
      have here' : w ∈ (m.step (.built w.number)).standing := by
        rw [step_built_of_mem building]
        exact here
      rw [List.foldl_cons, List.foldl_cons, step_ends_of_notMem built, t'.dismiss_number here',
        step_built_of_mem building]
      rfl
  next built =>
      rw [List.foldl_cons, step_ends_of_notMem built, t.dismiss_number here]
      rfl

/-- Something that goes on without anybody's asking. -/
def Deed.GoesOn : Deed → Prop
  | .built _ | .ends _ => True
  | _ => False

/-- **Everyone can end.** -/
theorem Tracked.exists_standing_eq_nil (t : m.Tracked) :
    ∃ deeds : List Deed, (∀ d ∈ deeds, d.GoesOn) ∧ (deeds.foldl Muster.step m).standing = [] := by
  induction standing : m.standing generalizing m with
  | nil => exact ⟨[], (fun _ h => nomatch h), standing⟩
  | cons w rest ih =>
      have gone := t.standing_foldl_course (w := w) (by rw [standing]; exact List.mem_cons_self)
      rw [standing, List.erase_cons_head] at gone
      obtain ⟨deeds, goOn, none⟩ := ih (t.foldl (m.course w)) gone
      refine ⟨m.course w ++ deeds, ?_, by rw [List.foldl_append, none]⟩
      intro d here
      rcases List.mem_append.mp here with here | here
      · unfold course at here
        split at here
        · rcases List.mem_pair.mp here with rfl | rfl <;> trivial
        · rw [List.mem_singleton.mp here]
          trivial
      · exact goOn d here

end Muster

/-! ## Everyone is held on to -/

namespace Attendance

variable {a : Attendance}

/-- Who stands is held on to, and a shutdown returned only when nothing was. -/
structure Sound (a : Attendance) : Prop where
  tracked : a.muster.Tracked
  asksAll : a.muster.AsksAll
  launching : ∀ n ∈ a.muster.unbuilt, .launch n ∈ a.holds
  working : ∀ w ∈ a.muster.standing, w.number ∉ a.muster.unbuilt → .worker w.number ∈ a.holds
  called : 0 < a.waiting ∨ 0 < a.returned → a.muster.staff.roster.isClosed = true
  letGo : 0 < a.returned → a.holds = []

theorem sound_empty : Sound empty where
  tracked := Muster.tracked_empty
  asksAll := fun _ _ here => nomatch here
  launching := fun _ here => nomatch here
  working := fun _ here => nomatch here
  called := fun h => absurd h (by decide)
  letGo := fun h => absurd h (by decide)

namespace Sound

/-- Whoever stands is held on to by its launch or by itself. -/
theorem holds_ne_nil (s : a.Sound) {w : Enlisted} (here : w ∈ a.muster.standing) :
    a.holds ≠ [] := by
  by_cases building : w.number ∈ a.muster.unbuilt
  · exact List.ne_nil_of_mem (s.launching w.number building)
  · exact List.ne_nil_of_mem (s.working w here building)

theorem unbuilt_eq_nil (s : a.Sound) (free : a.holds = []) : a.muster.unbuilt = [] := by
  refine List.eq_nil_iff_forall_not_mem.mpr fun n building => ?_
  have held := s.launching n building
  rw [free] at held
  exact nomatch held

theorem standing_eq_nil (s : a.Sound) (free : a.holds = []) : a.muster.standing = [] :=
  List.eq_nil_iff_forall_not_mem.mpr fun _ here => s.holds_ne_nil here free

/-- A registration is dropped, and nothing is let go of. -/
theorem dismiss (s : a.Sound) (number : Nat) :
    Sound { a with muster := a.muster.dismiss number } where
  tracked := s.tracked.dismiss number
  asksAll := s.asksAll.dismiss number
  launching := by
    intro n building
    refine s.launching n ?_
    revert building
    show n ∈ (a.muster.dismiss number).unbuilt → n ∈ a.muster.unbuilt
    unfold Muster.dismiss
    split
    · exact List.mem_of_mem_erase
    · exact id
  working := by
    intro w here built
    refine s.working w (Muster.standing_dismiss_subset _ number here) fun building => built ?_
    show w.number ∈ (a.muster.dismiss number).unbuilt
    revert here
    show w ∈ (a.muster.dismiss number).standing → _
    unfold Muster.dismiss
    split
    next v found =>
        -- The number that is taken out is that of the worker that goes, which is another one.
        intro here
        obtain ⟨other, here⟩ := s.tracked.mem_drop_standing.mp here
        refine (List.mem_erase_of_ne fun same => other ?_).mpr building
        exact s.tracked.number_inj w here v (List.mem_of_find?_eq_some found) same
    next => exact fun _ => building
  called := by
    rw [Muster.isClosed_dismiss]
    exact s.called
  letGo := s.letGo

/-- A shutdown that has been called for stays so. -/
theorem called_deed (s : a.Sound) (d : Muster.Deed)
    (h : 0 < (a.step (.deed d)).waiting ∨ 0 < a.returned) :
    (a.muster.step d).staff.roster.isClosed = true := by
  rw [Muster.isClosed_step]
  by_cases shut : d = .shutDown
  · exact .inr shut
  · simp only [Attendance.step, if_neg shut] at h
    exact .inl (s.called h)

/-- Nobody comes or goes, and nothing is taken hold of. -/
theorem keep (s : a.Sound) {d : Muster.Deed} (nothing : taken a.muster d = [])
    (standing : (a.muster.step d).standing = a.muster.standing)
    (unbuilt : (a.muster.step d).unbuilt = a.muster.unbuilt) : (a.step (.deed d)).Sound where
  tracked := s.tracked.step d
  asksAll := s.asksAll.step s.tracked d
  launching := by
    show ∀ n ∈ (a.muster.step d).unbuilt, _ ∈ taken a.muster d ++ a.holds
    rw [unbuilt, nothing]
    exact s.launching
  working := by
    show ∀ w ∈ (a.muster.step d).standing, w.number ∉ (a.muster.step d).unbuilt →
      _ ∈ taken a.muster d ++ a.holds
    rw [standing, unbuilt, nothing]
    exact s.working
  called := s.called_deed d
  letGo := by
    show 0 < a.returned → taken a.muster d ++ a.holds = []
    rw [nothing]
    exact s.letGo

/-- A worker goes, if it does. -/
theorem leave (s : a.Sound) {d : Muster.Deed} {number : Nat}
    (leaving : d = .buildBroke number ∨ d = .ends number) : (a.step (.deed d)).Sound := by
  have nothing : taken a.muster d = [] := by
    rcases leaving with rfl | rfl <;> rfl
  have notShut : d ≠ .shutDown := by
    rcases leaving with rfl | rfl <;> exact nofun
  rcases Muster.step_of_leaving leaving with same | gone
  · exact s.keep nothing (by rw [same]) (by rw [same])
  · have step : a.step (.deed d) = { a with muster := a.muster.dismiss number } := by
      rw [Attendance.step, gone, nothing, List.nil_append, if_neg notShut]
    rw [step]
    exact s.dismiss number

/-- A worker is entered, and its launch holds on to it. -/
theorem enter (s : a.Sound) {session : String} (parent : Token)
    (absent : session ∉ a.muster.staff.roster.entries)
    (opened : a.muster.staff.roster.isClosed = false) :
    (a.step (.deed (.ask session parent))).Sound := by
  -- The entry of a worker is what its launch holds on to from now on.
  have held : (a.step (.deed (.ask session parent))).holds
      = .launch a.muster.entered :: a.holds := by
    simp [Attendance.step, taken, Staff.enter_of_free parent absent opened]
  refine ⟨s.tracked.step (.ask session parent), s.asksAll.step s.tracked (.ask session parent),
    ?_, ?_, s.called_deed _, ?_⟩
  · rw [held]
    show ∀ n ∈ (a.muster.step _).unbuilt, _
    rw [Muster.step_ask_of_free parent absent opened]
    intro n building
    rcases List.mem_cons.mp building with rfl | building
    · exact List.mem_cons_self
    · exact List.mem_cons_of_mem _ (s.launching n building)
  · rw [held]
    show ∀ w ∈ (a.muster.step _).standing, w.number ∉ (a.muster.step _).unbuilt → _
    rw [Muster.step_ask_of_free parent absent opened]
    intro w here built
    rw [List.mem_cons, not_or] at built
    rcases List.mem_cons.mp here with rfl | here
    · exact absurd rfl built.1
    · exact List.mem_cons_of_mem _ (s.working w here built.2)
  · intro h
    exact absurd (s.called (.inr h)) (by rw [opened]; exact Bool.false_ne_true)

/-- A worker is launched, and is held on to from then on. -/
theorem build (s : a.Sound) {number : Nat} (building : number ∈ a.muster.unbuilt) :
    (a.step (.deed (.built number))).Sound := by
  have held : (a.step (.deed (.built number))).holds = .worker number :: a.holds := by
    simp [Attendance.step, taken, building]
  refine ⟨s.tracked.step (.built number), s.asksAll.step s.tracked (.built number), ?_, ?_,
    s.called_deed _, ?_⟩
  · rw [held]
    show ∀ n ∈ (a.muster.step _).unbuilt, _
    rw [Muster.step_built_of_mem building]
    exact fun n here => List.mem_cons_of_mem _ (s.launching n (List.mem_of_mem_erase here))
  · rw [held]
    show ∀ w ∈ (a.muster.step _).standing, w.number ∉ (a.muster.step _).unbuilt → _
    rw [Muster.step_built_of_mem building]
    intro w here built
    -- The worker itself is held on to from the moment at which it is built, before its launch lets
    -- go.
    by_cases same : w.number = number
    · exact same ▸ List.mem_cons_self
    · have built : w.number ∉ a.muster.unbuilt := mt (List.mem_erase_of_ne same).mpr built
      exact List.mem_cons_of_mem _ (s.working w here built)
  · intro h
    have free := s.launching number building
    rw [s.letGo h] at free
    exact nomatch free

/-- **One act keeps the invariant.** -/
theorem step (s : a.Sound) (act : Act) : (a.step act).Sound := by
  cases act with
  | letGo h =>
      rw [Attendance.step]
      split
      next may =>
          refine ⟨s.tracked, s.asksAll, ?_, ?_, s.called, ?_⟩
          · intro n building
            refine (List.mem_erase_of_ne ?_).mpr (s.launching n building)
            -- A hold is let go only when nobody needs it any more.
            rintro rfl
            exact may building
          · intro w here built
            refine (List.mem_erase_of_ne ?_).mpr (s.working w here built)
            rintro rfl
            exact may w here rfl
          · intro h
            show a.holds.erase _ = []
            rw [s.letGo h, List.erase_nil]
      next => exact s
  | returns =>
      rw [Attendance.step]
      split
      next may => exact { s with called := fun _ => may.2.1, letGo := fun _ => may.2.2 }
      next => exact s
  | deed d =>
      cases d with
      | ask session parent =>
          by_cases taken : session ∈ a.muster.staff.roster.entries ∨
              a.muster.staff.roster.isClosed = true
          · have same := Muster.step_ask_of_taken parent taken
            exact s.keep (by simp [Attendance.taken, Staff.enter_of_taken parent taken])
              (by rw [same]) (by rw [same])
          · rw [not_or, Bool.not_eq_true] at taken
            exact s.enter parent taken.1 taken.2
      | built number =>
          by_cases building : number ∈ a.muster.unbuilt
          · exact s.build building
          · have same := Muster.step_built_of_notMem building
            exact s.keep (if_neg building) (by rw [same]) (by rw [same])
      | buildBroke number => exact s.leave (.inl rfl)
      | ends number => exact s.leave (.inr rfl)
      | cancel session => exact s.keep rfl rfl rfl
      | cancelToken t => exact s.keep rfl rfl rfl
      | shutDown => exact s.keep rfl rfl rfl

/-- The invariant holds after any acts. -/
theorem foldl (s : a.Sound) (acts : List Act) : (acts.foldl Attendance.step a).Sound := by
  induction acts generalizing a with
  | nil => exact s
  | cons act rest ih => exact ih (s.step act)

/-! ## For good -/

/-- Once a shutdown has returned, nobody is entered and no launch comes to a good end. -/
theorem step_of_returned (s : a.Sound) (h : 0 < a.returned) (act : Act) :
    (a.step act).muster.entered = a.muster.entered ∧
      (a.step act).muster.answers.count true = a.muster.answers.count true := by
  -- After a return nothing is held, so that no worker is being built.
  have none : ∀ n, n ∉ a.muster.unbuilt := by
    rw [s.unbuilt_eq_nil (s.letGo h)]
    exact fun _ => List.not_mem_nil
  cases act with
  | letGo hold =>
      rw [Attendance.step]
      split <;> exact ⟨rfl, rfl⟩
  | returns =>
      rw [Attendance.step]
      split <;> exact ⟨rfl, rfl⟩
  | deed d =>
      show (a.muster.step d).entered = _ ∧ (a.muster.step d).answers.count true = _
      cases d with
      | ask session parent =>
          rw [Muster.step_ask_of_taken parent (.inr (s.called (.inr h)))]
          exact ⟨rfl, List.count_cons_of_ne Bool.false_ne_true⟩
      | built number =>
          rw [Muster.step_built_of_notMem (none number)]
          exact ⟨rfl, rfl⟩
      | buildBroke number =>
          rw [Muster.step_buildBroke_of_notMem (none number)]
          exact ⟨rfl, rfl⟩
      | ends number =>
          rw [Muster.step_ends_of_notMem (none number), Muster.dismiss]
          split <;> exact ⟨rfl, rfl⟩
      | cancel | cancelToken | shutDown => exact ⟨rfl, rfl⟩

end Sound

/-- What has returned has returned for good. -/
theorem returned_le_step (a : Attendance) (act : Act) : a.returned ≤ (a.step act).returned := by
  cases act with
  | deed d => exact Nat.le_refl _
  | letGo h =>
      rw [step]
      split <;> exact Nat.le_refl _
  | returns =>
      rw [step]
      split
      · exact Nat.le_succ _
      · exact Nat.le_refl _

/-- After a return nobody enters any more, and no launch succeeds. -/
theorem Sound.foldl_of_returned (s : a.Sound) (h : 0 < a.returned) (acts : List Act) :
    0 < (acts.foldl Attendance.step a).returned ∧
      (acts.foldl Attendance.step a).muster.entered = a.muster.entered ∧
      (acts.foldl Attendance.step a).muster.answers.count true
        = a.muster.answers.count true := by
  induction acts generalizing a with
  | nil => exact ⟨h, rfl, rfl⟩
  | cons act rest ih =>
      obtain ⟨entered, answers⟩ := s.step_of_returned h act
      rw [← entered, ← answers]
      exact ih (s.step act) (Nat.lt_of_lt_of_le h (a.returned_le_step act))

/-! ## A shutdown can return -/

/-- An act that nobody asks for. -/
def Act.GoesOn : Act → Prop
  | .deed d => d.GoesOn
  | .letGo _ | .returns => True

/-- Deeds that nobody attends to change the muster and nothing else. -/
theorem foldl_deeds (deeds : List Muster.Deed) (a : Attendance) :
    ((deeds.map .deed).foldl step a).muster = deeds.foldl Muster.step a.muster ∧
      a.waiting ≤ ((deeds.map .deed).foldl step a).waiting ∧
      ((deeds.map .deed).foldl step a).returned = a.returned := by
  induction deeds generalizing a with
  | nil => exact ⟨rfl, Nat.le_refl _, rfl⟩
  | cons d rest ih =>
      obtain ⟨muster, waiting, returned⟩ := ih (a.step (.deed d))
      refine ⟨muster, Nat.le_trans ?_ waiting, returned⟩
      show a.waiting ≤ if d = .shutDown then a.waiting + 1 else a.waiting
      split
      · exact Nat.le_succ _
      · exact Nat.le_refl _

/-- What is over is let go of. -/
theorem foldl_letGo (may : ∀ h, IsOver a.muster h) (holds : List Hold) :
    (holds.map .letGo).foldl step { a with holds } = { a with holds := [] } := by
  induction holds with
  | nil => rfl
  | cons h rest ih =>
      have gone : step { a with holds := h :: rest } (.letGo h) = { a with holds := rest } := by
        rw [step, if_pos (may h), List.erase_cons_head]
      rw [List.map_cons, List.foldl_cons, gone]
      exact ih

/-- Where nobody stands, every hold may be let go. -/
theorem Sound.isOver (s : a.Sound) (none : a.muster.standing = []) (h : Hold) :
    IsOver a.muster h := by
  cases h with
  | launch number =>
      intro building
      obtain ⟨w, here, -⟩ := s.tracked.unbuilt_standing number building
      rw [none] at here
      exact nomatch here
  | worker number =>
      show ∀ w ∈ a.muster.standing, _
      rw [none]
      exact fun _ here => nomatch here

/-- **A shutdown that has been called for can return.** -/
theorem Sound.exists_returns (s : a.Sound) (waits : 0 < a.waiting) :
    ∃ more : List Act, (∀ act ∈ more, act.GoesOn) ∧
      (more.foldl Attendance.step a).returned = a.returned + 1 := by
  obtain ⟨deeds, goOn, none⟩ := s.tracked.exists_standing_eq_nil
  obtain ⟨muster, waiting, returned⟩ := foldl_deeds deeds a
  have s' := s.foldl (deeds.map .deed)
  generalize result : (deeds.map Act.deed).foldl Attendance.step a = b
  rw [result] at muster waiting returned s'
  have waits' : 0 < b.waiting := Nat.lt_of_lt_of_le waits waiting
  -- Once everybody has ended, every hold may be let go, and then the shutdown may return.
  have may := s'.isOver (by rw [muster, none])
  refine ⟨deeds.map .deed ++ (b.holds.map .letGo ++ [.returns]), ?_, ?_⟩
  · intro act here
    rcases List.mem_append.mp here with here | here
    · obtain ⟨d, listed, rfl⟩ := List.mem_map.mp here
      exact goOn d listed
    · rcases List.mem_append.mp here with here | here
      · obtain ⟨h, -, rfl⟩ := List.mem_map.mp here
        trivial
      · rw [List.mem_singleton.mp here]
        trivial
  · rw [List.foldl_append, result, List.foldl_append, foldl_letGo may b.holds, ← returned]
    exact congrArg Attendance.returned (if_pos ⟨waits', s'.called (.inl waits'), rfl⟩)

theorem after_append (acts more : List Act) :
    after (acts ++ more) = more.foldl step (after acts) :=
  List.foldl_append

/-- **A SHUTDOWN JOINS EVERYONE.** Once a shutdown has closed the roster, everyone who stands has
been asked to end, the workers that were entered but not yet launched included, and while anyone
stands no shutdown returns. When one has returned, and ever after, nobody stands or is being built,
nothing is held on to and the roster has no entries; nobody is entered any more, no launch comes to
a good end, and each that is asked for is told no. A shutdown that waits can still return, with
nothing but the workers' own work to be done. -/
theorem shutdown_joins_all (acts : List Act) :
    let a := after acts
    (a.muster.staff.roster.isClosed = true → ∀ w ∈ a.muster.standing, a.muster.IsAsked w) ∧
    (∀ w ∈ a.muster.standing, a.step .returns = a) ∧
    (0 < a.returned → ∀ more : List Act,
      let b := after (acts ++ more)
      b.muster.standing = [] ∧ b.muster.unbuilt = [] ∧ b.holds = [] ∧
      b.muster.staff.roster.entries = ∅ ∧ b.muster.staff.roster.isDrained = true ∧
      b.muster.entered = a.muster.entered ∧
      b.muster.answers.count true = a.muster.answers.count true ∧
      ∀ session parent, b.muster.staff.launch session parent = (none, b.muster.staff) ∧
        b.step (.deed (.ask session parent))
          = { b with muster := { b.muster with answers := false :: b.muster.answers } }) ∧
    (0 < a.waiting → ∃ more : List Act, (∀ act ∈ more, act.GoesOn) ∧
      (after (acts ++ more)).returned = a.returned + 1) := by
  have s : (after acts).Sound := sound_empty.foldl acts
  refine ⟨s.asksAll, ?_, ?_, ?_⟩
  · intro w here
    exact if_neg fun may => s.holds_ne_nil here may.2.2
  · intro h more
    rw [after_append]
    obtain ⟨h', entered, answers⟩ := s.foldl_of_returned h more
    have s' := s.foldl more
    have free := s'.letGo h'
    have closed := s'.called (.inr h')
    have none := s'.standing_eq_nil free
    refine ⟨none, s'.unbuilt_eq_nil free, free, ?_, ?_, entered, answers, ?_⟩
    · refine Std.ExtTreeMap.eq_empty_iff_forall_not_mem.mpr fun session here => ?_
      -- An entry stands for somebody who stands, and there is nobody.
      obtain ⟨w, here, -⟩ := s'.tracked.standing_of_mem session here
      rw [none] at here
      exact nomatch here
    · rw [Roster.isDrained, closed, s'.tracked.outstanding_eq, none]
      rfl
    · intro session parent
      refine ⟨Staff.launch_of_taken parent (.inr closed), ?_⟩
      simp only [step, taken, Muster.step_ask_of_taken parent (.inr closed),
        Staff.enter_of_taken parent (.inr closed)]
      rfl
  · intro waits
    obtain ⟨more, goOn, returned⟩ := s.exists_returns waits
    exact ⟨more, goOn, by rw [after_append, returned]⟩

end Attendance

end Playgrounds
