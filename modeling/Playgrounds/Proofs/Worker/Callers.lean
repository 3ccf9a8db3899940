import Mathlib.Data.List.Induction
import Playgrounds.Proofs.Store.Table
import Playgrounds.Proofs.Worker.History

/-!
# The callers of the timers, and their tokens

A worker is launched under the token of a caller and gets a child of it for its own, which nobody
else is given. So callers can cancel what they launched, and no worker alone.

* `Token.line` — a token and those that it descends from.
* `Timers.Custody` — the timers, and the tokens that were handed to their callers.
* `Timers.Custody.PermitsAll` — a history in which callers name only tokens that they hold.
* `Timers.Custody.Sound` — the invariant: whose the tokens are.
* `Timers.Custody.Sound.hasCancelled_own`, `Timers.Custody.Sound.hasCancelled_held` — what a deed
  cancels.
-/

namespace Playgrounds

/-! ## Tokens -/

/-- A token and those that it descends from. -/
def Token.line : Token → List Token
  | .child parent serial => .child parent serial :: parent.line
  | t => [t]

namespace Cancellations

variable {c : Cancellations} {t u : Token}

/-- A token is cancelled if it has been, or one that it descends from. -/
theorem covers_iff : c.covers t = true ↔ ∃ u ∈ t.line, u ∈ c.cancelled := by
  induction t with
  | dispatcher | named => simp [covers, Token.line]
  | child parent serial ih => simp [covers, Token.line, ih]

/-- A token is cancelled for itself only. -/
theorem mem_cancel : u ∈ (c.cancel t).cancelled ↔ u = t ∨ u ∈ c.cancelled := by
  unfold cancel
  split
  next already =>
      refine ⟨.inr, ?_⟩
      rintro (rfl | here)
      · exact already
      · exact here
  next => exact List.mem_cons

/-- Tokens are cancelled each for itself. -/
theorem mem_foldl_cancel {ts : List Token} :
    u ∈ (ts.foldl cancel c).cancelled ↔ u ∈ ts ∨ u ∈ c.cancelled := by
  induction ts generalizing c with
  | nil => simp
  | cons t rest ih =>
      rw [List.foldl_cons, ih, mem_cancel, List.mem_cons, or_left_comm, or_assoc]

end Cancellations

namespace Timers

/-- The token of the session's worker, if the session has one registered. -/
def registered? (t : Timers) (session : String) : Option Token :=
  t.staff.roster.entries[session]?

/-- A token has been cancelled, by itself and not only through another. -/
def HasCancelled (t : Timers) (u : Token) : Prop :=
  u ∈ t.staff.cancellations.cancelled

/-- How many tokens have been made. -/
def issued (t : Timers) : Nat :=
  t.staff.cancellations.issued

/-- The timers, and the tokens that were made for their callers. -/
structure Custody where
  timers : Timers
  handed : List Token

namespace Custody

/-- Nobody is at work, and nobody was given a token. -/
def start (limit : Option Nat) : Custody :=
  ⟨.empty limit, []⟩

/-- Whether the callers hold a token. The dispatcher's, and those with a name, they make by
themselves. -/
def Holds (c : Custody) : Token → Prop
  | .child parent serial => .child parent serial ∈ c.handed
  | _ => True

/-- Whether callers can do a deed: they hold the token that they name. -/
def Permits (c : Custody) : Deed → Prop
  | .run _ token | .newChild token | .cancelToken token => c.Holds token
  | .cancel _ | .shutDown | .act _ _ _ => True

/-- What comes of a deed. -/
def step (c : Custody) (d : Deed) : Custody :=
  ⟨(c.timers.step d).1,
    match d with
    | .newChild parent => (c.timers.newChild parent).1 :: c.handed
    | _ => c.handed⟩

/-- Whether callers can do these deeds, one after the other. -/
def PermitsAll (c : Custody) : List Deed → Prop
  | [] => True
  | d :: ds => c.Permits d ∧ (c.step d).PermitsAll ds

/-- What comes of a history of deeds. -/
def after (limit : Option Nat) (ds : List Deed) : Custody :=
  ds.foldl step (start limit)

instance (c : Custody) (t : Token) : Decidable (c.Holds t) :=
  match t with
  | .child parent serial => inferInstanceAs (Decidable (Token.child parent serial ∈ c.handed))
  | .dispatcher | .named _ => inferInstanceAs (Decidable True)

instance (c : Custody) (d : Deed) : Decidable (c.Permits d) :=
  match d with
  | .run _ token | .newChild token | .cancelToken token =>
    inferInstanceAs (Decidable (c.Holds token))
  | .cancel _ | .shutDown | .act _ _ _ => inferInstanceAs (Decidable True)

instance decidablePermitsAll (c : Custody) (ds : List Deed) : Decidable (c.PermitsAll ds) :=
  match ds with
  | [] => inferInstanceAs (Decidable True)
  | d :: rest =>
    have := decidablePermitsAll (c.step d) rest
    inferInstanceAs (Decidable (c.Permits d ∧ (c.step d).PermitsAll rest))

variable {limit : Option Nat} {ds : List Deed} {d : Deed}

theorem after_concat : after limit (ds ++ [d]) = (after limit ds).step d := by
  simp only [after, List.foldl_append, List.foldl_cons, List.foldl_nil]

/-- A history is permitted if its beginning is, and then the rest. -/
theorem permitsAll_append {c : Custody} {more : List Deed} :
    c.PermitsAll (ds ++ more) ↔ c.PermitsAll ds ∧ (ds.foldl step c).PermitsAll more := by
  induction ds generalizing c with
  | nil => simp [PermitsAll]
  | cons d rest ih =>
      rw [List.cons_append, PermitsAll, PermitsAll, ih, and_assoc]
      rfl

theorem permitsAll_concat :
    (start limit).PermitsAll (ds ++ [d])
      ↔ (start limit).PermitsAll ds ∧ (after limit ds).Permits d := by
  rw [permitsAll_append, PermitsAll, PermitsAll, and_true]
  rfl

end Custody

/-! ## What a deed does to the register -/

/-- A session may be given a worker: it has none registered, and no shutdown was called. -/
structure IsFree (t : Timers) (session : String) : Prop where
  absent : t.registered? session = none
  isOpen : t.staff.roster.isClosed = false

/-- The timers with a worker launched for a session, whose token is a new child of `parent`. -/
def launchFor (t : Timers) (session : String) (parent : Token) : Timers :=
  { t with
    staff := (t.staff.enter session parent).2.countLaunch
    workers := t.workers.insert session ⟨.child parent t.issued, .fresh⟩ }

section

variable {t : Timers} {session : String}

/-- A session is free where it has no entry and the roster is open. -/
theorem isFree_iff : t.IsFree session
    ↔ ¬(session ∈ t.staff.roster.entries ∨ t.staff.roster.isClosed = true) := by
  rw [not_or, Bool.not_eq_true, Std.ExtTreeMap.mem_iff_isSome_getElem?,
    Option.not_isSome_iff_eq_none]
  exact ⟨fun free => ⟨free.absent, free.isOpen⟩, fun free => ⟨free.1, free.2⟩⟩

/-- An entry into a free place gets the next token below its parent. -/
theorem IsFree.enter_eq (free : t.IsFree session) (parent : Token) :
    t.staff.enter session parent = (some (.child parent t.issued),
      ⟨{ t.staff.roster with
          entries := t.staff.roster.entries.insert session (.child parent t.issued)
          outstanding := t.staff.roster.outstanding + 1 },
        { t.staff.cancellations with issued := t.issued + 1 }⟩) := by
  obtain ⟨absent, opened⟩ := not_or.mp (isFree_iff.mp free)
  exact Staff.enter_of_free parent absent free.isOpen

/-- A launch registers its own session, and leaves the others as they were. -/
theorem IsFree.registered?_launchFor (free : t.IsFree session) (parent : Token) (other : String) :
    (t.launchFor session parent).registered? other
      = if session = other then some (.child parent t.issued) else t.registered? other := by
  rw [launchFor, free.enter_eq]
  show (t.staff.roster.entries.insert session _)[other]? = _
  rw [Std.ExtTreeMap.getElem?_insert]
  simp only [Std.compare_eq_iff_eq]
  rfl

theorem IsFree.issued_launchFor (free : t.IsFree session) (parent : Token) :
    (t.launchFor session parent).issued = t.issued + 1 := by
  rw [launchFor, free.enter_eq]
  rfl

theorem IsFree.cancelled_launchFor (free : t.IsFree session) (parent : Token) :
    (t.launchFor session parent).staff.cancellations.cancelled
      = t.staff.cancellations.cancelled := by
  rw [launchFor, free.enter_eq]
  rfl

theorem IsFree.isClosed_launchFor (free : t.IsFree session) (parent : Token) :
    (t.launchFor session parent).staff.roster.isClosed = t.staff.roster.isClosed := by
  rw [launchFor, free.enter_eq]
  rfl

end

section

variable (t : Timers)

/-- A request launches a worker if its session is free, and changes nothing otherwise. -/
theorem run_cases (i : Instance) (parent : Token) :
    (i.sessionId.isEmpty = false ∧ t.IsFree i.sessionId ∧
      (t.run i parent).2.1 = t.launchFor i.sessionId parent) ∨
    ((i.sessionId.isEmpty = true ∨ ¬t.IsFree i.sessionId) ∧ (t.run i parent).2.1 = t) := by
  by_cases detached : i.sessionId.isEmpty = true
  · refine .inr ⟨.inl detached, ?_⟩
    simp only [run, detached, if_true]
  · by_cases free : t.IsFree i.sessionId
    · refine .inl ⟨Bool.eq_false_iff.mpr detached, free, ?_⟩
      obtain ⟨absent, opened⟩ := not_or.mp (isFree_iff.mp free)
      simp only [run, detached, launch, Staff.launch_of_free parent absent free.isOpen]
      rfl
    · refine .inr ⟨.inr free, ?_⟩
      rw [isFree_iff, not_not] at free
      simp only [run, detached, launch, Staff.launch_of_taken parent free]
      rfl

/-- By a move a worker goes on in some phase, or ends, or nothing changes. -/
theorem act_cases (session : String) (now : Nat) (sight : Sight) :
    (∃ w phase tally, t.workers[session]? = some w ∧
      (t.act session now sight).1 = { t.setPhase session w phase with tally }) ∨
    (∃ e, t.act session now sight = t.finish session e) ∨ t.act session now sight = (t, []) := by
  cases found : t.workers[session]? with
  | none => exact .inr (.inr (by simp only [act, found]))
  | some w =>
      -- Whatever is read, the worker goes on or ends.
      have conclude : ∀ due v,
          (∃ w' phase tally, some w = some w' ∧
            (t.conclude session w due v).1 = { t.setPhase session w' phase with tally }) ∨
          (∃ e, t.conclude session w due v = t.finish session e) ∨
          t.conclude session w due v = (t, []) := by
        intro due v
        cases v with
        | announce left => exact .inl ⟨w, _, _, rfl, rfl⟩
        | failed why => exact .inl ⟨w, _, _, rfl, rfl⟩
        | stop e => exact .inr (.inl ⟨e, rfl⟩)
      simp only [act, found]
      split
      next => exact .inl ⟨w, _, _, rfl, rfl⟩
      next => exact .inr (.inl ⟨_, rfl⟩)
      next c _ _ => cases c with
        | answered read => exact conclude _ _
        | delayed | silent => exact .inl ⟨w, _, t.tally, rfl, rfl⟩
        | brokenDown => exact .inr (.inl ⟨_, rfl⟩)
      next => exact conclude _ _
      next => exact conclude _ _
      next => exact .inr (.inr rfl)

/-- A worker that ends takes only its own registration with it. -/
theorem registered?_finish (session other : String) (e : Exit) :
    (t.finish session e).1.registered? other
      = if session = other then none else t.registered? other := by
  show (t.staff.roster.entries.erase session)[other]? = _
  rw [Std.ExtTreeMap.getElem?_erase]
  simp only [Std.compare_eq_iff_eq]
  rfl

/-- To ask for a worker cancels nothing. -/
theorem hasCancelled_run (i : Instance) (parent u : Token) :
    (t.run i parent).2.1.HasCancelled u ↔ t.HasCancelled u := by
  obtain ⟨-, free, launched⟩ | ⟨-, same⟩ := run_cases t i parent
  · rw [launched, HasCancelled, free.cancelled_launchFor]
    rfl
  · rw [same]

/-- No turn of a worker cancels anything. -/
theorem hasCancelled_act (session : String) (now : Nat) (sight : Sight) (u : Token) :
    (t.act session now sight).1.HasCancelled u ↔ t.HasCancelled u := by
  rw [HasCancelled, cancellations_act]
  rfl

/-- The token of a session's worker is cancelled at the session's own request. -/
theorem hasCancelled_cancel (session : String) (u : Token) :
    (t.cancel session).2.HasCancelled u
      ↔ t.registered? session = some u ∨ t.HasCancelled u := by
  show u ∈ (t.staff.cancel session).2.cancellations.cancelled ↔ _
  rw [Staff.cancel, registered?]
  cases t.staff.roster.entries[session]? with
  | none => simp [HasCancelled]
  | some token => simp [HasCancelled, Cancellations.mem_cancel, eq_comm]

/-- A shutdown cancels the tokens of the registered workers. -/
theorem hasCancelled_shutDown (u : Token) :
    t.shutDown.1.HasCancelled u
      ↔ (∃ session, t.registered? session = some u) ∨ t.HasCancelled u := by
  have listed : u ∈ t.staff.roster.entries.values ↔ ∃ session, t.registered? session = some u := by
    rw [Store.values_eq_map_snd, List.mem_map]
    constructor
    · rintro ⟨⟨session, token⟩, here, rfl⟩
      exact ⟨session, Std.ExtTreeMap.mem_toList_iff_getElem?_eq_some.mp here⟩
    · rintro ⟨session, found⟩
      exact ⟨(session, u), Std.ExtTreeMap.mem_toList_iff_getElem?_eq_some.mpr found, rfl⟩
  rw [← listed]
  exact Cancellations.mem_foldl_cancel

/-- A deed cancels the token that it names, or those of the workers that it asks to end. -/
theorem hasCancelled_step (d : Deed) (u : Token) :
    (t.step d).1.HasCancelled u ↔ t.HasCancelled u ∨ d = .cancelToken u ∨
      ∃ session, t.registered? session = some u ∧ (d = .cancel session ∨ d = .shutDown) := by
  cases d with
  | run i parent =>
      show (t.run i parent).2.1.HasCancelled u ↔ _
      rw [hasCancelled_run]
      exact (or_iff_left (by simp)).symm
  | newChild parent => exact (or_iff_left (by simp)).symm
  | cancel session =>
      show (t.cancel session).2.HasCancelled u ↔ _
      rw [hasCancelled_cancel]
      simp [or_comm]
  | cancelToken token =>
      show u ∈ (t.staff.cancellations.cancel token).cancelled ↔ _
      rw [Cancellations.mem_cancel]
      simp [HasCancelled, or_comm, eq_comm]
  | shutDown =>
      show t.shutDown.1.HasCancelled u ↔ _
      rw [hasCancelled_shutDown]
      simp [or_comm]
  | act session now sight =>
      show (t.act session now sight).1.HasCancelled u ↔ _
      rw [hasCancelled_act]
      exact (or_iff_left (by simp)).symm

/-- A worker that is cancelled stays registered. -/
theorem registered?_cancel (session other : String) :
    (t.cancel session).2.registered? other = t.registered? other := by
  show (t.staff.cancel session).2.roster.entries[other]? = _
  rw [Staff.roster_cancel]
  rfl

theorem issued_cancel (session : String) : (t.cancel session).2.issued = t.issued :=
  Staff.issued_cancel t.staff session

theorem issued_cancelToken (token : Token) : (t.cancelToken token).issued = t.issued :=
  Cancellations.issued_cancel _ token

theorem issued_shutDown : t.shutDown.1.issued = t.issued :=
  Staff.issued_shutDown t.staff

end

/-! ## Whose the tokens are -/

namespace Custody

/-- The workers at work are the registered ones. The tokens of the callers were made for them, and
so were those from which they descend; the token of each worker was made for it alone, under a token
of its caller. -/
structure Sound (c : Custody) : Prop where
  registered_eq : ∀ session,
    c.timers.registered? session = c.timers.workers[session]?.map (·.token)
  handed : ∀ t ∈ c.handed, ∃ parent serial,
    t = .child parent serial ∧ serial < c.timers.issued ∧ c.Holds parent
  own : ∀ session t, c.timers.registered? session = some t → ∃ parent serial,
    t = .child parent serial ∧ serial < c.timers.issued ∧ c.Holds parent ∧ t ∉ c.handed
  apart : ∀ session other t, c.timers.registered? session = some t →
    c.timers.registered? other = some t → session = other
  cancelled_lt : ∀ parent serial,
    c.timers.HasCancelled (.child parent serial) → serial < c.timers.issued

variable {c : Custody}

/-- Nothing has been handed out at first. -/
theorem sound_start (limit : Option Nat) : (start limit).Sound where
  registered_eq := by
    intro session
    show (∅ : Std.ExtTreeMap String Token)[session]?
      = ((∅ : Std.ExtTreeMap String Worker)[session]?).map _
    rw [Std.ExtTreeMap.getElem?_empty, Std.ExtTreeMap.getElem?_empty]
    rfl
  handed := fun t h => absurd h List.not_mem_nil
  own := by
    intro session t found
    have none : (start limit).timers.registered? session = none := Std.ExtTreeMap.getElem?_empty
    rw [none] at found
    exact nomatch found
  apart := by
    intro session other t found
    have none : (start limit).timers.registered? session = none := Std.ExtTreeMap.getElem?_empty
    rw [none] at found
    exact nomatch found
  cancelled_lt := fun parent serial h => absurd h List.not_mem_nil

namespace Sound

variable (s : c.Sound)

include s

/-- Who holds a token holds those from which it descends. -/
theorem holds_of_mem_line {t u : Token} (holds : c.Holds t) (above : u ∈ t.line) : c.Holds u := by
  induction t with
  | dispatcher | named =>
      rw [List.mem_singleton.mp above]
      exact holds
  | child parent serial ih =>
      rcases List.mem_cons.mp above with rfl | above
      · exact holds
      · obtain ⟨parent', serial', same, -, holds⟩ := s.handed _ holds
        cases same
        exact ih holds above

/-- No caller holds the token of a worker. -/
theorem not_holds_own {session : String} {t : Token}
    (found : c.timers.registered? session = some t) : ¬c.Holds t := by
  obtain ⟨parent, serial, rfl, -, -, notHanded⟩ := s.own session t found
  exact notHanded

/-- The token of a worker has been given out. -/
theorem lt_of_own {session : String} {parent : Token} {serial : Nat}
    (found : c.timers.registered? session = some (.child parent serial)) :
    serial < c.timers.issued := by
  obtain ⟨parent', serial', same, small, -⟩ := s.own session _ found
  cases same
  exact small

/-- A worker at work is registered with its token. -/
theorem registered_of_found {session : String} {w : Worker}
    (found : c.timers.workers[session]? = some w) :
    c.timers.registered? session = some w.token := by
  rw [s.registered_eq, found]
  rfl

/-- A token that somebody holds has been given out. -/
theorem lt_of_holds {parent : Token} {serial : Nat} (holds : c.Holds (.child parent serial)) :
    serial < c.timers.issued := by
  obtain ⟨parent', serial', same, small, -⟩ := s.handed _ holds
  cases same
  exact small

/-- Cancelling tokens that have been made changes nothing else. -/
theorem cancels {t' : Timers} (registered : ∀ session,
      t'.registered? session = c.timers.registered? session)
    (workers : t'.workers = c.timers.workers) (issued : t'.issued = c.timers.issued)
    (cancelled : ∀ parent serial, t'.HasCancelled (.child parent serial) →
      serial < c.timers.issued) : Sound ⟨t', c.handed⟩ where
  registered_eq := by
    intro session
    rw [registered, workers]
    exact s.registered_eq session
  handed := by
    rw [issued]
    exact s.handed
  own := by
    intro session t found
    rw [issued]
    exact s.own session t ((registered session).symm.trans found)
  apart := by
    intro session other t found found'
    exact s.apart session other t ((registered session).symm.trans found)
      ((registered other).symm.trans found')
  cancelled_lt := by
    rw [issued]
    exact cancelled

/-- A deed of the callers cancels no token that has not been made. -/
theorem lt_of_hasCancelled_step {d : Deed} (permitted : c.Permits d) (parent : Token) (serial : Nat)
    (h : (c.timers.step d).1.HasCancelled (.child parent serial)) : serial < c.timers.issued := by
  rcases (hasCancelled_step _ d _).mp h with h | rfl | ⟨session, found, -⟩
  · exact s.cancelled_lt parent serial h
  · exact s.lt_of_holds permitted
  · exact s.lt_of_own found

/-- A worker is launched: its token is a new one. -/
theorem launch {session : String} {parent : Token} (holds : c.Holds parent)
    (free : c.timers.IsFree session) : Sound ⟨c.timers.launchFor session parent, c.handed⟩ where
  registered_eq := by
    intro other
    rw [free.registered?_launchFor]
    show _ = (c.timers.workers.insert session _)[other]?.map _
    rw [Std.ExtTreeMap.getElem?_insert]
    by_cases same : session = other
    · simp [same]
    · simp only [Std.compare_eq_iff_eq, if_neg same]
      exact s.registered_eq other
  handed := by
    intro t h
    obtain ⟨parent', serial, rfl, small, holds'⟩ := s.handed t h
    rw [free.issued_launchFor]
    exact ⟨parent', serial, rfl, Nat.lt_succ_of_lt small, holds'⟩
  own := by
    intro other t found
    rw [free.registered?_launchFor] at found
    rw [free.issued_launchFor]
    split at found
    next =>
        obtain rfl := Option.some.inj found
        exact ⟨parent, _, rfl, Nat.lt_succ_self _, holds,
          fun h => Nat.lt_irrefl _ (s.lt_of_holds h)⟩
    next =>
        obtain ⟨parent', serial, rfl, small, holds', notHanded⟩ := s.own other t found
        exact ⟨parent', serial, rfl, Nat.lt_succ_of_lt small, holds', notHanded⟩
  apart := by
    -- The new token has not been given out before, so nobody is registered with it.
    have fresh : ∀ other, c.timers.registered? other ≠ some (.child parent c.timers.issued) :=
      fun _ found => Nat.lt_irrefl _ (s.lt_of_own found)
    intro one other t found found'
    rw [free.registered?_launchFor] at found found'
    split at found <;> split at found'
    next here here' => exact here.symm.trans here'
    next => exact absurd (found'.trans found.symm) (fresh other)
    next => exact absurd (found.trans found'.symm) (fresh one)
    next => exact s.apart one other t found found'
  cancelled_lt := by
    intro parent' serial h
    rw [HasCancelled, free.cancelled_launchFor] at h
    rw [free.issued_launchFor]
    exact Nat.lt_succ_of_lt (s.cancelled_lt parent' serial h)

/-- A worker goes on in another phase. -/
theorem goOn {session : String} {w : Worker} (found : c.timers.workers[session]? = some w)
    (phase : Worker.Phase) (tally : Tally) :
    Sound ⟨{ c.timers.setPhase session w phase with tally }, c.handed⟩ where
  registered_eq := by
    intro other
    show c.timers.registered? other = (c.timers.workers.insert session _)[other]?.map _
    rw [Std.ExtTreeMap.getElem?_insert, s.registered_eq]
    by_cases same : session = other
    · subst same
      simp [found]
    · simp [same]
  handed := s.handed
  own := s.own
  apart := s.apart
  cancelled_lt := s.cancelled_lt

/-- A worker leaves. -/
theorem finish (session : String) (e : Exit) :
    Sound ⟨(c.timers.finish session e).1, c.handed⟩ := by
  have registered : ∀ other t, (c.timers.finish session e).1.registered? other = some t →
      c.timers.registered? other = some t := by
    intro other t found
    rw [registered?_finish] at found
    split at found
    next => exact nomatch found
    next => exact found
  refine ⟨?_, s.handed, ?_, ?_, s.cancelled_lt⟩
  · intro other
    rw [registered?_finish]
    show _ = (c.timers.workers.erase session)[other]?.map _
    rw [Std.ExtTreeMap.getElem?_erase]
    by_cases same : session = other
    · simp [same]
    · simp only [Std.compare_eq_iff_eq, if_neg same]
      exact s.registered_eq other
  · intro other t found
    exact s.own other t (registered other t found)
  · intro one other t found found'
    exact s.apart one other t (registered one t found) (registered other t found')

/-- The turn of a worker leaves every token with whom it belongs to. -/
theorem act (session : String) (now : Nat) (sight : Sight) :
    Sound ⟨(c.timers.act session now sight).1, c.handed⟩ := by
  obtain ⟨w, phase, tally, found, goesOn⟩ | ⟨e, ends⟩ | rests := act_cases _ session now sight
  · rw [goesOn]
    exact s.goOn found phase tally
  · rw [ends]
    exact s.finish session e
  · rw [rests]
    exact s

/-- A caller is handed a new token. -/
theorem newChild {parent : Token} (holds : c.Holds parent) :
    Sound (c.step (.newChild parent)) := by
  have later : ∀ t, c.Holds t → (c.step (.newChild parent)).Holds t := by
    intro t holds
    cases t with
    | dispatcher | named => trivial
    | child => exact List.mem_cons_of_mem _ holds
  refine ⟨s.registered_eq, ?_, ?_, s.apart, ?_⟩
  · intro t h
    rcases List.mem_cons.mp h with rfl | h
    · exact ⟨parent, _, rfl, Nat.lt_succ_self _, later parent holds⟩
    · obtain ⟨parent', serial, rfl, small, holds'⟩ := s.handed t h
      exact ⟨parent', serial, rfl, Nat.lt_succ_of_lt small, later parent' holds'⟩
  · intro session t found
    obtain ⟨parent', serial, rfl, small, holds', notHanded⟩ := s.own session t found
    refine ⟨parent', serial, rfl, Nat.lt_succ_of_lt small, later parent' holds', ?_⟩
    intro h
    -- The new token is handed out, and it is none of the workers'.
    rcases List.mem_cons.mp h with same | h
    · cases same
      exact Nat.lt_irrefl _ small
    · exact notHanded h
  · intro parent' serial h
    exact Nat.lt_succ_of_lt (s.cancelled_lt parent' serial h)

/-- **One deed keeps the invariant.** -/
theorem step {d : Deed} (permitted : c.Permits d) : (c.step d).Sound := by
  cases d with
  | run i parent =>
      show Sound ⟨(c.timers.run i parent).2.1, c.handed⟩
      obtain ⟨-, free, launched⟩ | ⟨-, same⟩ := run_cases c.timers i parent
      · rw [launched]
        exact s.launch permitted free
      · rw [same]
        exact s
  | newChild parent => exact s.newChild permitted
  | cancel session =>
      exact s.cancels (registered?_cancel _ session) rfl (issued_cancel _ session)
        (s.lt_of_hasCancelled_step permitted)
  | cancelToken token =>
      exact s.cancels (fun _ => rfl) rfl (issued_cancelToken _ token)
        (s.lt_of_hasCancelled_step permitted)
  | shutDown =>
      exact s.cancels (fun _ => rfl) rfl (issued_shutDown _)
        (s.lt_of_hasCancelled_step permitted)
  | act session now sight => exact s.act session now sight

end Sound

/-- **The invariant holds after every history that callers can bring about.** -/
theorem sound_after {limit : Option Nat} {ds : List Deed}
    (permitted : (start limit).PermitsAll ds) : (after limit ds).Sound := by
  induction ds using List.reverseRecOn with
  | nil => exact sound_start limit
  | append_singleton ds d ih =>
      rw [permitsAll_concat] at permitted
      rw [after_concat]
      exact (ih permitted.1).step permitted.2

/-! ## What a deed cancels -/

namespace Sound

variable (s : c.Sound)

include s

/-- The token of a registered worker is cancelled by a deed exactly if its session or everyone is
asked to end. -/
theorem hasCancelled_own {d : Deed} (permitted : c.Permits d) {session : String} {t : Token}
    (found : c.timers.registered? session = some t) :
    (c.step d).timers.HasCancelled t
      ↔ c.timers.HasCancelled t ∨ d = .cancel session ∨ d = .shutDown := by
  have unnamed : d ≠ .cancelToken t := by
    rintro rfl
    exact s.not_holds_own found permitted
  show (c.timers.step d).1.HasCancelled t ↔ _
  rw [hasCancelled_step, or_iff_right unnamed]
  refine or_congr_right ⟨?_, fun asked => ⟨session, found, asked⟩⟩
  rintro ⟨other, found', asked⟩
  rwa [s.apart session other t found found']

/-- A token that callers hold is cancelled by a deed exactly if it is the one that is named. -/
theorem hasCancelled_held {d : Deed} {u : Token} (holds : c.Holds u) :
    (c.step d).timers.HasCancelled u ↔ c.timers.HasCancelled u ∨ d = .cancelToken u := by
  show (c.timers.step d).1.HasCancelled u ↔ _
  rw [hasCancelled_step]
  refine or_congr_right (or_iff_left ?_)
  rintro ⟨session, found, -⟩
  exact s.not_holds_own found holds

end Sound

/-- The callers hold what they held before, and what they are handed. -/
theorem holds_step {d : Deed} {u : Token} :
    (c.step d).Holds u ↔ c.Holds u ∨
      ∃ parent, d = .newChild parent ∧ u = .child parent c.timers.issued := by
  cases u with
  | dispatcher | named => exact ⟨fun _ => .inl trivial, fun _ => trivial⟩
  | child parent serial =>
      cases d with
      | newChild other =>
          show _ ∈ Token.child other c.timers.issued :: c.handed ↔ _
          rw [List.mem_cons, or_comm]
          simp [Holds]
      | run | cancel | cancelToken | shutDown | act => simp [step, Holds]

/-- The roster is closed by a shutdown only. -/
theorem isClosed_step {d : Deed} :
    (c.step d).timers.staff.roster.isClosed = true
      ↔ c.timers.staff.roster.isClosed = true ∨ d = .shutDown := by
  cases d with
  | run i parent =>
      show (c.timers.run i parent).2.1.staff.roster.isClosed = true ↔ _
      obtain ⟨-, free, launched⟩ | ⟨-, same⟩ := run_cases c.timers i parent
      · rw [launched, free.isClosed_launchFor]
        simp
      · rw [same]
        simp
  | newChild | cancelToken => exact (or_iff_left (by simp)).symm
  | cancel session =>
      show (c.timers.staff.cancel session).2.roster.isClosed = true ↔ _
      rw [Staff.roster_cancel]
      simp
  | shutDown => simp [step, Timers.step, shutDown, Staff.shutDown, Roster.close]
  | act session now sight =>
      rw [or_iff_left fun h => nomatch h]
      show (c.timers.act session now sight).1.staff.roster.isClosed = true ↔ _
      obtain ⟨w, phase, tally, -, goesOn⟩ | ⟨e, ends⟩ | rests :=
        act_cases c.timers session now sight
      · rw [goesOn]
        rfl
      · rw [ends]
        rfl
      · rw [rests]

end Custody

end Timers

end Playgrounds
