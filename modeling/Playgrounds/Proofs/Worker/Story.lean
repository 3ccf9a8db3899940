import Playgrounds.Proofs.Worker.History

/-!
# What a countdown worker tells

A worker reads its session again and again. What it announces, and why it ends, is told by what its
reads came to, whatever else happens to the timers in between.

* `Look` — how the store deals with a read, what it answers and what the clock shows then.
* `Past`, `Past.Fits` — how a look has ended, and how it can have.
* `story` — what is to be announced of some looks, and how they end the worker if they do.
* `Life` — the timers from the launch of a worker on, and how far it has come with its looks.
* `Life.Sound` — the invariant: the worker has told the story of the looks that it has had.
* `worker_tells_its_story` — the worker does what the story says, and ends when it says so or when
  it is cancelled.
-/

namespace Playgrounds

/-! ## Looks and their story -/

/-- How the store deals with a read. -/
inductive Handling where
  | atOnce
  | after (ms : Nat)
  | never
  | breaksDown

/-- A worker's look at its session. -/
structure Look where
  handling : Handling
  /-- What the store answers, if it does. -/
  result : Store.Outcome Session
  /-- What the clock shows after the answer. -/
  clock : Instant

/-- What a look comes to. -/
inductive Upshot where
  | goOn (event : Option Event)
  | stop (e : Exit)

namespace Look

/-- How the call for the session begins. -/
def call (k : Look) : Store.Call Session :=
  match k.handling with
  | .atOnce => .answered k.result
  | .after ms => .delayed ms
  | .never => .silent
  | .breaksDown => .brokenDown

/-- What the answer comes to: a session that lasts is announced with the time that is left, one that
is over or gone ends the worker, and a failure of the store is passed over. -/
def answer (session : String) (k : Look) : Upshot :=
  match k.result with
  | .ok s =>
    if s.expiresAt.notAfter k.clock then .stop .expired
    else .goOn (some ⟨.sessionTimer, session, [Countdown.text (s.expiresAt.since k.clock)]⟩)
  | .error (.notFound _ _) => .stop .sessionDeleted
  | .error (.backend _) | .error (.unreadable _) => .goOn none

end Look

/-- How a look has ended. -/
inductive LookEnd where
  /-- The worker has heard the answer of the store. -/
  | answered
  /-- The worker has waited for the answer as long as it may. -/
  | missed
  /-- The store broke down. -/
  | brokenDown

/-- What a look comes to that has ended so. -/
def Look.upshot (session : String) (k : Look) : LookEnd → Upshot
  | .answered => k.answer session
  | .missed => .goOn none
  | .brokenDown => .stop .aborted

/-- A look that is past. -/
structure Past where
  /-- When the worker asked for its session. -/
  began : Nat
  /-- When the look came to an end. -/
  ended : Nat
  ending : LookEnd

/-- How a look can have ended, by how the store deals with it and how long the worker waits for the
answer at most: an answer that is there when the worker comes for it is heard, and one that is not
is missed once the time is up. -/
inductive Past.Fits (limit : Option Nat) : Handling → Past → Prop where
  | atOnce (now : Nat) : Fits limit .atOnce ⟨now, now, .answered⟩
  | breaksDown (now : Nat) : Fits limit .breaksDown ⟨now, now, .brokenDown⟩
  | answered {ms began ended : Nat} (isThere : began + ms ≤ ended) :
    Fits limit (.after ms) ⟨began, ended, .answered⟩
  | missed {ms most began ended : Nat} (limited : limit = some most) (isUp : began + most ≤ ended)
    (notThere : ended < began + ms) : Fits limit (.after ms) ⟨began, ended, .missed⟩
  | unanswered {most began ended : Nat} (limited : limit = some most)
    (isUp : began + most ≤ ended) : Fits limit .never ⟨began, ended, .missed⟩

/-- What is announced of some looks, and how they end the worker if they do. -/
def story (session : String) : List (Look × LookEnd) → List Event × Option Exit
  | [] => ([], none)
  | (k, ending) :: rest =>
    match k.upshot session ending with
    | .stop e => ([], some e)
    | .goOn event => (event.toList ++ (story session rest).1, (story session rest).2)

section

variable {session : String} {ks : List (Look × LookEnd)}

/-- One more look, after some that did not end the worker. -/
theorem story_append (goes : (story session ks).2 = none) (k : Look) (ending : LookEnd) :
    story session (ks ++ [(k, ending)]) =
      match k.upshot session ending with
      | .stop e => ((story session ks).1, some e)
      | .goOn event => ((story session ks).1 ++ event.toList, none) := by
  induction ks with
  | nil => cases up : k.upshot session ending <;> simp [story, up]
  | cons first rest ih =>
      rw [List.cons_append, story]
      rw [story] at goes ⊢
      cases up : first.1.upshot session first.2 with
      -- A story that has ended does not go on.
      | stop e =>
          rw [up] at goes
          exact nomatch goes
      | goOn event =>
          rw [up] at goes
          rw [ih goes]
          cases k.upshot session ending with
          | stop e => rfl
          | goOn event => simp

/-- Looks that do not end the worker did not end it at any time before. -/
theorem story_take (goes : (story session ks).2 = none) (n : Nat) :
    (story session (ks.take n)).2 = none := by
  induction ks generalizing n with
  | nil => rw [List.take_nil, goes]
  | cons first rest ih =>
      cases n with
      | zero => rfl
      | succ n =>
          rw [List.take_succ_cons, story]
          rw [story] at goes
          cases up : first.1.upshot session first.2 with
          | stop e =>
              rw [up] at goes
              exact nomatch goes
          | goOn event =>
              rw [up] at goes
              exact ih goes n

end

/-! ## The life of a worker -/

/-- The timers from the launch of a worker on, and how far it has come. -/
structure Life where
  timers : Timers
  /-- How many looks the worker has begun. -/
  asked : Nat
  /-- When it began the latest. -/
  began : Nat
  /-- The looks that have come to something, the first one first. -/
  past : List Past
  /-- All that was said since the launch. -/
  log : List Notice

namespace Life

/-- How many looks have come to something. -/
def heard (l : Life) : Nat :=
  l.past.length

/-- The looks that have come to something, and how each of them ended. -/
def looks (E : Nat → Look) (l : Life) : List (Look × LookEnd) :=
  l.past.mapIdx fun n p => (E n, p.ending)

/-- What may happen during the life of a worker, and after it. -/
inductive Happening where
  /-- The worker makes its next move. -/
  | poll (now : Nat)
  /-- Something else happens to the timers. -/
  | aside (d : Timers.Deed)

/-- What the worker gets to see for a move. -/
def sight (E : Nat → Look) (l : Life) : Worker.Move → Sight
  | .ask _ => .call (E l.asked).call (E l.asked).clock
  | .hear _ => .answer (E l.heard).result (E l.heard).clock
  | _ => .nothing

/-- How many looks a move begins. -/
def begins : Worker.Move → Nat
  | .ask _ => 1
  | _ => 0

/-- The look that comes to something by a move, if one does. -/
def ends (E : Nat → Look) (l : Life) (now : Nat) : Worker.Move → List Past
  | .ask _ =>
    match (E l.asked).handling with
    | .atOnce => [⟨now, now, .answered⟩]
    | .breaksDown => [⟨now, now, .brokenDown⟩]
    | .after _ | .never => []
  | .hear _ => [⟨l.began, now, .answered⟩]
  | .giveUp _ => [⟨l.began, now, .missed⟩]
  | _ => []

/-- When the latest look was begun, after a move. -/
def latest (l : Life) (now : Nat) : Worker.Move → Nat
  | .ask _ => now
  | _ => l.began

/-- The worker makes a move. -/
def make (E : Nat → Look) (session : String) (l : Life) (now : Nat) (m : Worker.Move) : Life :=
  let r := l.timers.act session now (l.sight E m)
  ⟨r.1, l.asked + begins m, l.latest now m, l.past ++ l.ends E now m, l.log ++ r.2⟩

/-- What comes of something that happens. Moves of the worker are left to the worker, and it is
given no successor. -/
def step (E : Nat → Look) (session : String) (l : Life) : Happening → Life
  | .poll now =>
    match l.timers.workers[session]? with
    | some w => l.make E session now (l.timers.move now w)
    | none => l
  | .aside d =>
    if d.Avoids session l.timers then
      { l with timers := (l.timers.step d).1, log := l.log ++ (l.timers.step d).2 }
    else l

/-- What comes of all that happens to timers in which a worker has been launched. -/
def after (E : Nat → Look) (session : String) (t : Timers) (hs : List Happening) : Life :=
  hs.foldl (step E session) ⟨t, 0, 0, [], []⟩

end Life

/-! ## One look -/

namespace Timers

variable {session : String} {t : Timers} {w : Worker} {due : Nat}

/-- A look has come to something, and the worker goes on to the next or ends. -/
def Concludes (session : String) (t : Timers) (w : Worker) (due : Nat)
    (r : Timers × List Notice) : Upshot → Prop
  | .goOn event => (∃ tally, r.1 = { t.setPhase session w (.waiting due) with tally }) ∧
      events session r.2 = event.toList ∧ exits session r.2 = []
  | .stop e => r = t.finish session e

/-- A look that failed tells nothing, and the worker goes on. -/
theorem concludes_failed (why : Store.Failure) :
    Concludes session t w due (t.conclude session w due (.failed why)) (.goOn none) := by
  refine ⟨⟨_, rfl⟩, rfl, ?_⟩
  exact List.filterMap_cons_none
    (exit?_line "failed to read session for timer" (by decide))

/-- A look that was answered has the upshot of its answer. -/
theorem concludes_answer (k : Look) :
    Concludes session t w due (t.conclude session w due (.of k.result k.clock))
      (k.answer session) := by
  rw [Look.answer]
  cases read : k.result with
  | ok s =>
      by_cases expired : s.expiresAt.notAfter k.clock = true
      · have verdict : Verdict.of (.ok s) k.clock = .stop .expired := if_pos expired
        rw [verdict]
        simp only [expired]
        exact rfl
      · have verdict : Verdict.of (.ok s) k.clock = .announce (s.left k.clock) := if_neg expired
        rw [verdict]
        simp only [expired]
        have own : event? session
            (.event ⟨.sessionTimer, session, [Countdown.text (s.left k.clock)]⟩)
            = some ⟨.sessionTimer, session, [Countdown.text (s.left k.clock)]⟩ := if_pos rfl
        refine ⟨⟨_, rfl⟩, ?_, ?_⟩
        · exact (List.filterMap_cons_none rfl).trans (List.filterMap_cons_some own)
        · refine (List.filterMap_cons_none
            (exit?_line "emitting session timer" (by decide))).trans ?_
          exact List.filterMap_cons_none (exit?_event _)
  | error f =>
      cases f with
      | notFound kind id => exact rfl
      | backend cause => exact concludes_failed _
      | unreadable fault => exact concludes_failed _

end Timers

/-! ## The invariant -/

/-- The end of a read as the end of a look. -/
def LookEnd.ofRead : Worker.ReadEnd → LookEnd
  | .answered => .answered
  | .tooLate => .missed

namespace Life

/-- A read that was begun then and has not been answered will be by how the store deals with it. -/
def Underway (limit : Option Nat) (began : Nat) (r : Worker.Reading) : Handling → Prop
  | .after ms => r = ⟨some (began + ms), limit.map (began + ·)⟩
  | .never => r = ⟨none, limit.map (began + ·)⟩
  | .atOnce | .breaksDown => False

/-- However late the worker comes for the answer, the look ends as it can. -/
theorem fits_of_ending {limit : Option Nat} {began now : Nat} {r : Worker.Reading} {d : Handling}
    {e : Worker.ReadEnd} (underway : Underway limit began r d) (ending : r.ending? now = some e) :
    Past.Fits limit d ⟨began, now, .ofRead e⟩ := by
  -- The time is up only if there is a limit.
  have isUp : (limit.map (began + ·)).any (· ≤ now) = true →
      ∃ most, limit = some most ∧ began + most ≤ now := by
    cases limit with
    | none => exact fun up => nomatch up
    | some most => exact fun up => ⟨most, rfl, of_decide_eq_true up⟩
  cases d with
  | atOnce | breaksDown => exact underway.elim
  | never =>
      cases underway
      rw [Worker.Reading.ending?, if_neg (by simp)] at ending
      split at ending
      next up =>
          cases ending
          obtain ⟨most, limited, isUp⟩ := isUp up
          exact .unanswered limited isUp
      next => cases ending
  | after ms =>
      cases underway
      rw [Worker.Reading.ending?] at ending
      split at ending
      next isThere =>
          cases ending
          exact .answered (of_decide_eq_true isThere)
      next notThere =>
          split at ending
          next up =>
              cases ending
              obtain ⟨most, limited, isUp⟩ := isUp up
              exact .missed limited isUp (Nat.lt_of_not_le fun le => notThere (decide_eq_true le))
          next => cases ending

section

variable (E : Nat → Look) (session : String) (limit : Option Nat) (token : Token)

/-- How far a worker in this phase has come with its looks. -/
def HasCome (l : Life) : Worker.Phase → Prop
  | .fresh => l.asked = 0 ∧ l.heard = 0
  | .waiting _ => l.asked = l.heard
  | .reading _ r => l.asked = l.heard + 1 ∧ Underway limit l.began r (E l.heard).handling

/-- Every look that is past has ended as it can have. -/
def HasFitted (l : Life) : Prop :=
  ∀ (n : Nat) (p : Past), l.past[n]? = some p → p.Fits limit (E n).handling

/-- The worker is at work, and has told the story of the looks that it has had. -/
structure AtWork (l : Life) (w : Worker) : Prop where
  found : l.timers.workers[session]? = some w
  token_eq : w.token = token
  entered : session ∈ l.timers.staff.roster.entries
  limit_eq : l.timers.readLimit = limit
  hasCome : HasCome E limit l w.phase
  hasFitted : HasFitted E limit l
  told : Timers.events session l.log = (story session (l.looks E)).1
  goes : (story session (l.looks E)).2 = none
  silent : Timers.exits session l.log = []

/-- The worker has ended, as its last look or its cancellation would have it. -/
structure Ended (l : Life) (e : Exit) : Prop where
  gone : l.timers.workers[session]? = none
  hasFitted : HasFitted E limit l
  told : Timers.events session l.log = (story session (l.looks E)).1
  said : Timers.exits session l.log = [e]
  before : ∀ n < l.heard, (story session ((l.looks E).take n)).2 = none
  cause : (l.asked = l.heard ∧ (story session (l.looks E)).2 = some e) ∨
    (l.asked = l.heard ∨ l.asked = l.heard + 1) ∧
      (story session (l.looks E)).2 = none ∧ e = .cancelled ∧
      l.timers.staff.cancellations.covers token = true

/-- The worker is at work or has ended. -/
def Sound (l : Life) : Prop :=
  (∃ w, AtWork E session limit token l w) ∨ ∃ e, Ended E session limit token l e

end

variable {E : Nat → Look} {session : String} {limit : Option Nat} {token : Token} {l : Life}
  {w : Worker}

theorem events_make (E : Nat → Look) (session : String) (l : Life) (now : Nat) (m : Worker.Move) :
    Timers.events session (l.make E session now m).log
      = Timers.events session l.log
        ++ Timers.events session (l.timers.act session now (l.sight E m)).2 :=
  Timers.events_append ..

theorem exits_make (E : Nat → Look) (session : String) (l : Life) (now : Nat) (m : Worker.Move) :
    Timers.exits session (l.make E session now m).log
      = Timers.exits session l.log
        ++ Timers.exits session (l.timers.act session now (l.sight E m)).2 :=
  Timers.exits_append ..

/-- A move by which no look comes to something leaves the looks that are past. -/
theorem looks_make_of_nil (session : String) (limit : Option Nat) {now : Nat} {m : Worker.Move}
    (none : l.ends E now m = []) :
    (l.make E session now m).looks E = l.looks E ∧
      (l.make E session now m).heard = l.heard ∧
      (HasFitted E limit l → HasFitted E limit (l.make E session now m)) := by
  have past : (l.make E session now m).past = l.past := by
    show l.past ++ l.ends E now m = l.past
    rw [none, List.append_nil]
  refine ⟨?_, congrArg List.length past, fun fitted n p found => ?_⟩
  · rw [looks, past]
    rfl
  · rw [past] at found
    exact fitted n p found

/-- A look that has come to something is one more that is past. -/
theorem looks_make_of_singleton (session : String) (limit : Option Nat) {now : Nat}
    {m : Worker.Move} {p : Past} (ends : l.ends E now m = [p]) :
    (l.make E session now m).looks E = l.looks E ++ [(E l.heard, p.ending)] ∧
      (l.make E session now m).heard = l.heard + 1 ∧
      (HasFitted E limit l → p.Fits limit (E l.heard).handling →
        HasFitted E limit (l.make E session now m)) := by
  have past : (l.make E session now m).past = l.past ++ [p] := by
    show l.past ++ l.ends E now m = _
    rw [ends]
  refine ⟨?_, ?_, fun fitted fits n q found => ?_⟩
  · rw [looks, past, List.mapIdx_concat]
    rfl
  · rw [heard, past, List.length_append]
    rfl
  · rw [past, List.getElem?_append] at found
    split at found
    next => exact fitted n q found
    next notBefore =>
        rw [List.getElem?_singleton] at found
        split at found
        next last =>
            cases found
            -- The look that has just come to an end is the last that was asked for.
            have same : l.heard = n := by
              show l.past.length = n
              omega
            exact same ▸ fits
        next => cases found

namespace AtWork

/-- The worker goes on in another phase, and says some events. -/
theorem goesOn (a : AtWork E session limit token l w) {now : Nat} {m : Worker.Move}
    (phase : Worker.Phase) {tally : Tally} {es : List Event}
    (timers : (l.timers.act session now (l.sight E m)).1
      = { l.timers.setPhase session w phase with tally })
    (told : Timers.events session (l.timers.act session now (l.sight E m)).2 = es)
    (silent : Timers.exits session (l.timers.act session now (l.sight E m)).2 = [])
    (come : HasCome E limit (l.make E session now m) phase)
    (fitted : HasFitted E limit (l.make E session now m))
    (more : story session ((l.make E session now m).looks E)
      = ((story session (l.looks E)).1 ++ es, none)) :
    AtWork E session limit token (l.make E session now m) { w with phase } := by
  refine ⟨?_, a.token_eq, ?_, ?_, come, fitted, ?_, ?_, ?_⟩
  · show (l.timers.act session now (l.sight E m)).1.workers[session]? = _
    rw [timers]
    exact Std.ExtTreeMap.getElem?_insert_self
  · show session ∈ (l.timers.act session now (l.sight E m)).1.staff.roster.entries
    rw [timers]
    exact a.entered
  · show (l.timers.act session now (l.sight E m)).1.readLimit = limit
    rw [timers]
    exact a.limit_eq
  -- What the move announces is what the story goes on with.
  · rw [more, events_make, told, a.told]
  · rw [more]
  · rw [exits_make, silent, a.silent]
    rfl

/-- The worker goes on in another phase with the same looks. -/
theorem waits (a : AtWork E session limit token l w) {now : Nat} {m : Worker.Move}
    (phase : Worker.Phase) (tally : Tally) (ns : List Notice)
    (acts : l.timers.act session now (l.sight E m)
      = ({ l.timers.setPhase session w phase with tally }, ns))
    (told : Timers.events session ns = []) (silent : Timers.exits session ns = [])
    (none : l.ends E now m = []) (come : HasCome E limit (l.make E session now m) phase) :
    AtWork E session limit token (l.make E session now m) { w with phase } := by
  obtain ⟨same, -, fitted⟩ := looks_make_of_nil session limit none
  refine a.goesOn phase (by rw [acts]) (by rw [acts, told]) (by rw [acts, silent]) come
    (fitted a.hasFitted) ?_
  rw [List.append_nil, ← a.goes, same]

/-- A move that finishes the worker announces nothing, and says once why. -/
theorem finishes (a : AtWork E session limit token l w) {now : Nat} {m : Worker.Move} {e : Exit}
    (acts : l.timers.act session now (l.sight E m) = l.timers.finish session e) :
    (l.make E session now m).timers.workers[session]? = none ∧
      Timers.events session (l.make E session now m).log = (story session (l.looks E)).1 ∧
      Timers.exits session (l.make E session now m).log = [e] := by
  refine ⟨?_, ?_, ?_⟩
  · show (l.timers.act session now (l.sight E m)).1.workers[session]? = none
    rw [acts]
    exact Std.ExtTreeMap.getElem?_erase_self
  · rw [events_make, acts, Timers.events_finish, List.append_nil, a.told]
  · rw [exits_make, acts, Timers.exits_finish, a.silent]
    rfl

/-- A look has come to something by a move. -/
theorem concludes (a : AtWork E session limit token l w) (due : Nat) {now : Nat}
    {m : Worker.Move} {p : Past} (taken : l.asked + begins m = l.heard + 1)
    (ends : l.ends E now m = [p]) (fits : p.Fits limit (E l.heard).handling)
    (r : Timers.Concludes session l.timers w due (l.timers.act session now (l.sight E m))
      ((E l.heard).upshot session p.ending)) :
    Sound E session limit token (l.make E session now m) := by
  obtain ⟨past, heard, fitted⟩ := looks_make_of_singleton session limit ends
  have fitted := fitted a.hasFitted fits
  have asked : (l.make E session now m).asked = (l.make E session now m).heard :=
    taken.trans heard.symm
  have more := story_append a.goes (E l.heard) p.ending
  rw [← past] at more
  cases up : (E l.heard).upshot session p.ending with
  | goOn event =>
      rw [up] at r more
      obtain ⟨⟨tally, timers⟩, told, silent⟩ := r
      exact .inl ⟨_, a.goesOn (.waiting due) timers told silent asked fitted more⟩
  | stop e =>
      rw [up] at r more
      obtain ⟨gone, told, said⟩ := a.finishes r
      refine .inr ⟨e, gone, fitted, ?_, said, ?_, .inl ⟨asked, by rw [more]⟩⟩
      · rw [more, told]
      -- All the looks before this one did not end the worker.
      · intro n lt
        have before : n ≤ (l.looks E).length := by
          rw [looks, List.length_mapIdx]
          rw [heard] at lt
          exact Nat.le_of_lt_succ lt
        rw [past, List.take_append_of_le_length before]
        exact story_take a.goes n

/-- The worker has asked for one look more than it has heard at most. -/
theorem asked_eq (a : AtWork E session limit token l w) :
    l.asked = l.heard ∨ l.asked = l.heard + 1 := by
  have come := a.hasCome
  cases phase : w.phase with
  | fresh =>
      rw [phase] at come
      exact .inl (come.1.trans come.2.symm)
  | waiting due =>
      rw [phase] at come
      exact .inl come
  | reading due r =>
      rw [phase] at come
      exact .inr come.1

/-- A worker that has begun and was cancelled ends at its next move. -/
theorem stops (a : AtWork E session limit token l w) {now : Nat}
    (covered : l.timers.staff.cancellations.covers token = true)
    (acts : l.timers.act session now (l.sight E .stop) = l.timers.finish session .cancelled) :
    Ended E session limit token (l.make E session now .stop) .cancelled := by
  obtain ⟨gone, told, said⟩ := a.finishes acts
  have none : l.ends E now .stop = [] := rfl
  obtain ⟨same, heard, fitted⟩ := looks_make_of_nil session limit none
  refine ⟨gone, fitted a.hasFitted, ?_, said, ?_, .inr ⟨?_, ?_, rfl, ?_⟩⟩
  · rw [told, same]
  · intro n _
    rw [same]
    exact story_take a.goes n
  · rw [heard]
    exact a.asked_eq
  · rw [same, a.goes]
  · show (l.timers.act session now _).1.staff.cancellations.covers token = true
    rw [Timers.cancellations_act, covered]

/-! ### One move -/

/-- A worker that rests leaves everything as it is. -/
theorem rests (a : AtWork E session limit token l w) {now : Nat}
    (move : l.timers.move now w = .rest) : l.make E session now .rest = l := by
  have same : l.timers.act session now (l.sight E .rest) = (l.timers, []) :=
    Timers.act_rest a.found move _
  simp [make, same, begins, Life.ends, latest]

/-- The worker asks for its session. -/
theorem asks (a : AtWork E session limit token l w) {due now : Nat}
    (waiting : w.phase = .waiting due) (move : l.timers.move now w = .ask due) :
    Sound E session limit token (l.make E session now (.ask due)) := by
  have asked : l.asked = l.heard := by
    have come := a.hasCome
    rwa [waiting] at come
  have acts : l.timers.act session now (l.sight E (.ask due))
      = l.timers.ask session w due now (E l.heard).call (E l.heard).clock := by
    rw [sight, asked]
    exact Timers.act_ask a.found move _ _
  -- Where the store takes its time, the worker waits for an answer and for the limit.
  have begun : ∀ answerAt : Option Nat,
      l.timers.ask session w due now (E l.heard).call (E l.heard).clock
        = l.timers.wait session w (Worker.nextDue due now) now answerAt →
      l.ends E now (.ask due) = [] →
      Underway limit now ⟨answerAt, limit.map (now + ·)⟩ (E l.heard).handling →
      Sound E session limit token (l.make E session now (.ask due)) := by
    intro answerAt waits none underway
    obtain ⟨-, heard, -⟩ := looks_make_of_nil session limit none
    refine .inl ⟨_, a.waits (.reading (Worker.nextDue due now) ⟨answerAt, limit.map (now + ·)⟩)
      l.timers.tally [] ?_ rfl rfl none ?_⟩
    · rw [acts, waits, Timers.wait, a.limit_eq]
      rfl
    · rw [HasCome, heard]
      exact ⟨congrArg (· + 1) asked, underway⟩
  -- Where it does not, the look is over at once.
  have atOnce : ∀ p : Past, l.ends E now (.ask due) = [p] → p.Fits limit (E l.heard).handling →
      Timers.Concludes session l.timers w (Worker.nextDue due now)
        (l.timers.act session now (l.sight E (.ask due))) ((E l.heard).upshot session p.ending) →
      Sound E session limit token (l.make E session now (.ask due)) :=
    fun p ends fits => a.concludes _ (by rw [asked]; rfl) ends fits
  cases handling : (E l.heard).handling with
  | atOnce =>
      refine atOnce ⟨now, now, .answered⟩ (by simp [Life.ends, asked, handling]) ?_ ?_
      · rw [handling]
        exact .atOnce now
      · rw [acts, Look.call, handling]
        exact Timers.concludes_answer (E l.heard)
  | breaksDown =>
      refine atOnce ⟨now, now, .brokenDown⟩ (by simp [Life.ends, asked, handling]) ?_ ?_
      · rw [handling]
        exact .breaksDown now
      · rw [acts, Look.call, handling]
        exact rfl
  | after ms =>
      refine begun (some (now + ms)) ?_ (by simp [Life.ends, asked, handling]) ?_
      · rw [Look.call, handling]
        rfl
      · rw [handling]
        exact rfl
  | never =>
      refine begun none ?_ (by simp [Life.ends, asked, handling]) ?_
      · rw [Look.call, handling]
        rfl
      · rw [handling]
        exact rfl

/-- The worker hears the answer, or waits for it no longer. -/
theorem hears (a : AtWork E session limit token l w) {due now : Nat} {r : Worker.Reading}
    {e : Worker.ReadEnd} (reading : w.phase = .reading due r) (ending : r.ending? now = some e)
    (move : l.timers.move now w = e.move due) :
    Sound E session limit token (l.make E session now (e.move due)) := by
  have come := a.hasCome
  rw [reading] at come
  obtain ⟨asked, underway⟩ := come
  have fits := fits_of_ending underway ending
  cases e with
  | answered =>
      refine a.concludes due asked rfl fits ?_
      show Timers.Concludes session l.timers w due
        (l.timers.act session now (.answer (E l.heard).result (E l.heard).clock)) _
      rw [Timers.act_hear a.found move]
      exact Timers.concludes_answer (E l.heard)
  | tooLate =>
      refine a.concludes due asked rfl fits ?_
      rw [Timers.act_giveUp a.found move]
      exact Timers.concludes_failed _

/-- A worker that has begun and is cancelled ends. -/
theorem move_of_covered (a : AtWork E session limit token l w) (now : Nat)
    (begun : w.phase ≠ .fresh) (covered : l.timers.staff.cancellations.covers token = true) :
    l.timers.move now w = .stop ∧
      Ended E session limit token (l.make E session now .stop) .cancelled := by
  have cancelled : l.timers.isCancelled w = true := by
    rw [Timers.isCancelled, a.token_eq]
    exact covered
  have move := Timers.move_of_isCancelled now begun cancelled
  exact ⟨move, a.stops covered (Timers.act_stop a.found move .nothing)⟩

/-- A worker that was just launched begins. -/
theorem move_of_fresh (a : AtWork E session limit token l w) (now : Nat)
    (fresh : w.phase = .fresh) :
    AtWork E session limit token (l.make E session now (l.timers.move now w))
      { w with phase := .waiting now } := by
  have move : l.timers.move now w = .begin := Timers.move_of_fresh now fresh
  have come := a.hasCome
  rw [fresh] at come
  rw [move]
  refine a.waits (.waiting now) l.timers.tally.begin _
    (Timers.act_begin a.found move .nothing) rfl ?_ rfl ?_
  · exact List.filterMap_cons_none (Timers.exit?_line "session timer started" (by decide))
  · have none : l.ends E now .begin = [] := rfl
    obtain ⟨-, heard, -⟩ := looks_make_of_nil session limit none
    rw [HasCome, heard]
    exact come.1.trans come.2.symm

/-- **One move of the worker keeps the invariant.** -/
theorem move (a : AtWork E session limit token l w) (now : Nat) :
    Sound E session limit token (l.make E session now (l.timers.move now w)) := by
  by_cases fresh : w.phase = .fresh
  · exact .inl ⟨_, a.move_of_fresh now fresh⟩
  by_cases covered : l.timers.staff.cancellations.covers token = true
  · obtain ⟨move, ended⟩ := a.move_of_covered now fresh covered
    rw [move]
    exact .inr ⟨_, ended⟩
  have free : l.timers.isCancelled w = false := by
    rw [Timers.isCancelled, a.token_eq]
    exact Bool.not_eq_true _ ▸ covered
  -- A worker that rests has come to nothing new.
  have resting : l.timers.move now w = .rest →
      Sound E session limit token (l.make E session now (l.timers.move now w)) := by
    intro move
    rw [move, a.rests move]
    exact .inl ⟨w, a⟩
  cases phase : w.phase with
  | fresh => exact absurd phase fresh
  | waiting due =>
      have move := Timers.move_of_waiting now phase free
      by_cases isDue : due ≤ now
      · rw [if_pos isDue] at move
        rw [move]
        exact a.asks phase move
      · rw [if_neg isDue] at move
        exact resting move
  | reading due r =>
      have move := Timers.move_of_reading now phase free
      cases ending : r.ending? now with
      | none =>
          rw [ending] at move
          exact resting move
      | some e =>
          rw [ending, Option.elim_some] at move
          rw [move]
          exact a.hears phase ending move

end AtWork

/-! ## The whole life -/

/-- What passes by a worker leaves it at work. -/
theorem AtWork.aside (a : AtWork E session limit token l w) {r : Timers × List Notice}
    (p : Timers.PassesBy session l.timers r) :
    AtWork E session limit token { l with timers := r.1, log := l.log ++ r.2 } w := by
  refine ⟨p.worker.trans a.found, a.token_eq, ?_, p.readLimit.trans a.limit_eq, ?_, a.hasFitted,
    ?_, a.goes, ?_⟩
  · show session ∈ r.1.staff.roster.entries
    rw [Std.ExtTreeMap.mem_iff_isSome_getElem?, p.entry, ← Std.ExtTreeMap.mem_iff_isSome_getElem?]
    exact a.entered
  · have come := a.hasCome
    revert come
    cases w.phase <;> exact id
  · show Timers.events session (l.log ++ r.2) = _
    rw [Timers.events_append, p.events, List.append_nil, a.told]
    rfl
  · show Timers.exits session (l.log ++ r.2) = _
    rw [Timers.exits_append, p.exits, List.append_nil, a.silent]

/-- What passes by a worker that has ended leaves it so. -/
theorem Ended.aside {e : Exit} (ended : Ended E session limit token l e)
    {r : Timers × List Notice} (p : Timers.PassesBy session l.timers r) :
    Ended E session limit token { l with timers := r.1, log := l.log ++ r.2 } e := by
  refine ⟨p.worker.trans ended.gone, ended.hasFitted, ?_, ?_, ended.before, ?_⟩
  · show Timers.events session (l.log ++ r.2) = _
    rw [Timers.events_append, p.events, List.append_nil, ended.told]
    rfl
  · show Timers.exits session (l.log ++ r.2) = _
    rw [Timers.exits_append, p.exits, List.append_nil, ended.said]
  · rcases ended.cause with read | ⟨asked, goes, cancelled, covered⟩
    · exact .inl read
    · exact .inr ⟨asked, goes, cancelled, p.covers token covered⟩

/-- A worker that has ended is gone. -/
theorem Ended.notMem {e : Exit} (ended : Ended E session limit token l e) :
    session ∉ l.timers.workers := by
  rw [Std.ExtTreeMap.mem_iff_isSome_getElem?, ended.gone]
  exact Bool.false_ne_true

/-- A worker that has ended stays as it is, whatever happens. -/
theorem Ended.step {e : Exit} (ended : Ended E session limit token l e) (h : Happening) :
    Ended E session limit token (l.step E session h) e ∧
      (l.step E session h).asked = l.asked ∧ (l.step E session h).past = l.past := by
  cases h with
  | aside d =>
      by_cases avoids : d.Avoids session l.timers
      · simp only [Life.step, if_pos avoids, and_true]
        exact ended.aside (Timers.passesBy_step l.timers avoids)
      · simp only [Life.step, if_neg avoids, and_true]
        exact ended
  | poll now =>
      simp only [Life.step, ended.gone, and_true]
      exact ended

/-- A worker that has ended has no more looks. -/
theorem Ended.foldl {e : Exit} (ended : Ended E session limit token l e) (hs : List Happening) :
    Ended E session limit token (hs.foldl (Life.step E session) l) e ∧
      (hs.foldl (Life.step E session) l).asked = l.asked ∧
      (hs.foldl (Life.step E session) l).past = l.past := by
  induction hs generalizing l with
  | nil => exact ⟨ended, rfl, rfl⟩
  | cons h rest ih =>
      obtain ⟨ended', asked, past⟩ := ended.step h
      rw [← asked, ← past]
      exact ih ended'

/-- **One thing that happens keeps the invariant.** -/
theorem Sound.step (s : Sound E session limit token l) (h : Happening) :
    Sound E session limit token (l.step E session h) := by
  rcases s with ⟨w, a⟩ | ⟨e, ended⟩
  · cases h with
    | aside d =>
        rw [Life.step]
        split
        next avoids => exact .inl ⟨w, a.aside (Timers.passesBy_step l.timers avoids)⟩
        next => exact .inl ⟨w, a⟩
    | poll now =>
        simp only [Life.step, a.found]
        exact a.move now
  · exact .inr ⟨e, (ended.step h).1⟩

/-- **The invariant holds whatever happens.** -/
theorem Sound.foldl (s : Sound E session limit token l) (hs : List Happening) :
    Sound E session limit token (hs.foldl (Life.step E session) l) := by
  induction hs generalizing l with
  | nil => exact s
  | cons h rest ih => exact ih (s.step h)

/-- A worker that was just launched has had no looks. -/
theorem sound_launch (E : Nat → Look) {t : Timers} {i : Instance} {parent : Token}
    (launched : (t.staff.launch i.sessionId parent).1 = some token) :
    Sound E i.sessionId t.readLimit token ⟨(t.launch i parent).1, 0, 0, [], []⟩ := by
  by_cases taken : i.sessionId ∈ t.staff.roster.entries ∨ t.staff.roster.isClosed = true
  · rw [Staff.launch_of_taken parent taken] at launched
    exact nomatch launched
  rw [not_or, Bool.not_eq_true] at taken
  have launch := Staff.launch_of_free parent taken.1 taken.2
  rw [launch] at launched
  have none : HasFitted E t.readLimit ⟨(t.launch i parent).1, 0, 0, [], []⟩ :=
    fun n p found => nomatch found
  refine .inl ⟨⟨token, .fresh⟩, ?_, rfl, ?_, ?_, ⟨rfl, rfl⟩, none, rfl, rfl, rfl⟩
  · rw [Timers.launch, launch, ← Option.some.inj launched]
    exact Std.ExtTreeMap.getElem?_insert_self
  · rw [Timers.launch, launch, Staff.enter_of_free parent taken.1 taken.2]
    exact Std.ExtTreeMap.mem_insert_self
  · rw [Timers.launch, launch]

/-! ### Going on -/

/-- A read that is under way comes to an end, unless it may wait forever for nothing. -/
theorem exists_ending {r : Worker.Reading} {d : Handling} {began : Nat}
    (underway : Underway limit began r d) (comes : d = .never → limit ≠ none) :
    ∃ now e, r.ending? now = some e := by
  cases d with
  | atOnce | breaksDown => exact underway.elim
  | never =>
      cases underway
      obtain ⟨most, rfl⟩ := Option.ne_none_iff_exists'.mp (comes rfl)
      exact ⟨began + most, .tooLate, by simp [Worker.Reading.ending?]⟩
  | after ms =>
      cases underway
      exact ⟨began + ms, .answered, by simp [Worker.Reading.ending?]⟩

namespace AtWork

section

variable (a : AtWork E session limit token l w)
  (free : l.timers.staff.cancellations.covers token = false)
  (comes : (E l.heard).handling = .never → limit ≠ none)

include a free comes

/-- A worker that reads comes to the end of its look. -/
theorem exists_hears_of_reading {due : Nat} {r : Worker.Reading}
    (reading : w.phase = .reading due r) :
    ∃ now, (l.step E session (.poll now)).heard = l.heard + 1 := by
  have come := a.hasCome
  rw [reading] at come
  obtain ⟨now, e, ending⟩ := exists_ending come.2 comes
  have notCancelled : l.timers.isCancelled w = false := by
    rw [Timers.isCancelled, a.token_eq, free]
  have move := Timers.move_of_reading now reading notCancelled
  rw [ending, Option.elim_some] at move
  refine ⟨now, ?_⟩
  simp only [Life.step, a.found, move]
  cases e <;> exact List.length_append

/-- A worker that waits asks, and comes to the end of its look. -/
theorem exists_hears_of_waiting {due : Nat} (waiting : w.phase = .waiting due) :
    ∃ nows : List Nat,
      ((nows.map .poll).foldl (Life.step E session) l).heard = l.heard + 1 := by
  have asked : l.asked = l.heard := by
    have come := a.hasCome
    rwa [waiting] at come
  have notCancelled : l.timers.isCancelled w = false := by
    rw [Timers.isCancelled, a.token_eq, free]
  have move := Timers.move_of_waiting due waiting notCancelled
  rw [if_pos (Nat.le_refl due)] at move
  have step : l.step E session (.poll due) = l.make E session due (.ask due) := by
    simp only [Life.step, a.found, move]
  cases ends : l.ends E due (.ask due) with
  | cons p rest =>
      -- The store answers at once or breaks down.
      have one : rest = [] := by
        rw [Life.ends] at ends
        split at ends <;> cases ends <;> rfl
      subst one
      obtain ⟨-, heard, -⟩ := looks_make_of_singleton session limit ends
      refine ⟨[due], ?_⟩
      show (l.step E session (.poll due)).heard = _
      rw [step, heard]
  | nil =>
      -- The store takes its time, and the worker reads from now on.
      obtain ⟨-, heard', -⟩ := looks_make_of_nil session limit ends
      have asked' : (l.make E session due (.ask due)).asked = l.heard + 1 := congrArg (· + 1) asked
      have free' : (l.make E session due (.ask due)).timers.staff.cancellations.covers token
          = false := by
        show (l.timers.act session due _).1.staff.cancellations.covers token = false
        rw [Timers.cancellations_act, free]
      rcases a.asks waiting move with ⟨w', a'⟩ | ⟨e, ended⟩
      · have come := a'.hasCome
        cases phase : w'.phase with
        | fresh =>
            rw [phase] at come
            exact nomatch asked'.symm.trans come.1
        | waiting due' =>
            rw [phase] at come
            have same : l.heard + 1 = l.heard := asked'.symm.trans (come.trans heard')
            omega
        | reading due' r =>
            obtain ⟨now, hears⟩ := a'.exists_hears_of_reading free' (by rwa [heard']) phase
            refine ⟨[due, now], ?_⟩
            show ((l.step E session (.poll due)).step E session (.poll now)).heard = _
            rw [step, hears, heard']
      · rcases ended.cause with ⟨same, -⟩ | ⟨-, -, -, covered⟩
        · rw [asked', heard'] at same
          omega
        · exact nomatch free'.symm.trans covered

/-- A worker that is not cancelled comes to the end of its next look, if it is polled. -/
theorem exists_hears :
    ∃ nows : List Nat,
      ((nows.map .poll).foldl (Life.step E session) l).heard = l.heard + 1 := by
  cases phase : w.phase with
  | waiting due => exact a.exists_hears_of_waiting free comes phase
  | reading due r =>
      obtain ⟨now, hears⟩ := a.exists_hears_of_reading free comes phase
      exact ⟨[now], hears⟩
  | fresh =>
      -- A worker that is fresh begins first, and then it waits.
      have begun := a.move_of_fresh 0 phase
      have step : l.step E session (.poll 0)
          = l.make E session 0 (l.timers.move 0 w) := by
        simp only [Life.step, a.found]
      rw [Timers.move_of_fresh 0 phase] at begun step
      have none : l.ends E 0 .begin = [] := rfl
      obtain ⟨-, heard, -⟩ := looks_make_of_nil session limit none
      have free' : (l.make E session 0 .begin).timers.staff.cancellations.covers token
          = false := by
        show (l.timers.act session 0 _).1.staff.cancellations.covers token = false
        rw [Timers.cancellations_act, free]
      obtain ⟨nows, hears⟩ := begun.exists_hears_of_waiting free' (by rwa [heard]) rfl
      refine ⟨0 :: nows, ?_⟩
      show ((nows.map .poll).foldl (Life.step E session) (l.step E session (.poll 0))).heard = _
      rw [step, hears, heard]

end

end AtWork

theorem after_append (E : Nat → Look) (session : String) (t : Timers) (hs more : List Happening) :
    after E session t (hs ++ more) = more.foldl (Life.step E session) (after E session t hs) :=
  List.foldl_append

end Life

/-- **A WORKER TELLS ITS STORY.** From its launch on, whatever happens to the timers, the events
about a worker's session are those that the story has of the looks that it has had, each of which
has ended as the store's handling of it and the limit allow; and no look but the last can have ended
the worker. It is at work and has been ended by none, or it has ended once: as its last look says,
or because it was cancelled. When it has ended it does nothing any more. If it is cancelled once it
has begun then its next move ends it, with no look and no event, even in the midst of a read. If it
is at work and not cancelled then it comes to the end of its next look when it is polled, unless it
waits for a store that never answers without limit. -/
theorem worker_tells_its_story (t : Timers) (i : Instance) (parent token : Token)
    (launched : (t.staff.launch i.sessionId parent).1 = some token) (E : Nat → Look)
    (hs : List Life.Happening) :
    let session := i.sessionId
    let after := Life.after E session (t.launch i parent).1
    let l := after hs
    let told := story session (l.looks E)
    let cancelled := l.timers.staff.cancellations.covers token
    Timers.events session l.log = told.1 ∧
    (∀ (n : Nat) (p : Past), l.past[n]? = some p → p.Fits t.readLimit (E n).handling) ∧
    (∀ n < l.heard, (story session ((l.looks E).take n)).2 = none) ∧
    (l.asked = l.heard ∨ l.asked = l.heard + 1) ∧
    (session ∈ l.timers.workers ∧ Timers.exits session l.log = [] ∧ told.2 = none ∨
      session ∉ l.timers.workers ∧ ∃ e, Timers.exits session l.log = [e] ∧
        (told.2 = some e ∧ l.asked = l.heard ∨
          told.2 = none ∧ e = .cancelled ∧ cancelled = true)) ∧
    (session ∉ l.timers.workers → ∀ more,
      let l' := after (hs ++ more)
      session ∉ l'.timers.workers ∧ l'.asked = l.asked ∧ l'.past = l.past ∧
        Timers.events session l'.log = Timers.events session l.log ∧
        Timers.exits session l'.log = Timers.exits session l.log) ∧
    (∀ w, l.timers.workers[session]? = some w → w.phase ≠ .fresh → cancelled = true → ∀ now,
      let l' := after (hs ++ [.poll now])
      session ∉ l'.timers.workers ∧ l'.asked = l.asked ∧ l'.past = l.past ∧
        Timers.events session l'.log = Timers.events session l.log ∧
        Timers.exits session l'.log = [.cancelled]) ∧
    (session ∈ l.timers.workers → cancelled = false →
      ((E l.heard).handling = .never → t.readLimit ≠ none) →
      ∃ nows : List Nat, (after (hs ++ nows.map .poll)).heard = l.heard + 1) := by
  intro session after l told cancelled
  have s : Life.Sound E session t.readLimit token l := (Life.sound_launch E launched).foldl hs
  have append : ∀ more, after (hs ++ more) = more.foldl (Life.step E session) l :=
    Life.after_append E session _ hs
  rcases s with ⟨w, a⟩ | ⟨e, ended⟩
  -- The worker is at work: nothing has ended it so far.
  · have working : session ∈ l.timers.workers :=
      Std.ExtTreeMap.mem_iff_isSome_getElem?.mpr (by rw [a.found]; rfl)
    refine ⟨a.told, a.hasFitted, ?_, a.asked_eq, .inl ⟨working, a.silent, a.goes⟩, ?_, ?_, ?_⟩
    · exact fun n _ => story_take a.goes n
    · exact fun gone => absurd working gone
    · intro w' found begun covered now
      cases found.symm.trans a.found
      obtain ⟨move, ended⟩ := a.move_of_covered now begun covered
      have step : after (hs ++ [.poll now]) = l.make E session now .stop := by
        rw [append]
        show l.step E session (.poll now) = _
        simp only [Life.step, a.found, move]
      have past : (l.make E session now .stop).past = l.past := List.append_nil _
      have told : story session ((l.make E session now .stop).looks E)
          = story session (l.looks E) := by
        rw [Life.looks, past]
        rfl
      simp only [step]
      refine ⟨ended.notMem, rfl, past, ?_, ended.said⟩
      rw [ended.told, told, a.told]
    · intro _ free comes
      obtain ⟨nows, hears⟩ := a.exists_hears free comes
      exact ⟨nows, by rw [append, hears]⟩
  -- The worker has ended, and stays as it is.
  · refine ⟨ended.told, ended.hasFitted, ended.before, ?_,
      .inr ⟨ended.notMem, e, ended.said, ?_⟩, ?_, ?_, ?_⟩
    · rcases ended.cause with ⟨same, -⟩ | ⟨asked, -⟩
      · exact .inl same
      · exact asked
    · rcases ended.cause with ⟨same, read⟩ | ⟨-, none, stopped⟩
      · exact .inl ⟨read, same⟩
      · exact .inr ⟨none, stopped⟩
    · intro _ more
      obtain ⟨ended', asked, past⟩ := ended.foldl more
      have told : story session ((more.foldl (Life.step E session) l).looks E)
          = story session (l.looks E) := by
        rw [Life.looks, past]
        rfl
      simp only [append]
      refine ⟨ended'.notMem, asked, past, ?_, ended'.said.trans ended.said.symm⟩
      rw [ended'.told, told, ended.told]
    · intro w found
      exact nomatch ended.gone.symm.trans found
    · intro working
      exact absurd working ended.notMem

/-! ## A life -/

namespace Life

/-- The first answer takes too long, the second is there before the worker comes for it though the
worker is late, and then the session is gone. -/
def sampleLooks : Nat → Look
  | 0 => ⟨.after 7000, .error (.backend ""), .epoch⟩
  | 1 => ⟨.after 500, .ok ⟨"s", "p", .epoch, Instant.epoch.plus 61500⟩, .epoch⟩
  | _ => ⟨.atOnce, .error (.notFound .sessionRecord "s"), .epoch⟩

/-- The worker is polled while another is cancelled, and once it is polled late. -/
def sampleHappenings : List Happening :=
  [.poll 0, .poll 0, .aside (.cancel "t"), .poll 5000, .poll 5000, .poll 12000, .poll 12000]

/-- An instance of the session `s`. -/
def sampleInstance : Instance := ⟨"n", "s", "", "", "", .epoch⟩

/-- The timers in which its worker has been launched. -/
def sampleTimers : Timers := ((Timers.empty (some 5000)).launch sampleInstance .dispatcher).1

end Life

/-- A worker passes over a slow answer, announces one minute and one second, and ends. -/
theorem worker_tells_its_story_gone :
    ((Timers.empty (some 5000)).staff.launch "s" .dispatcher).1 = some (.child .dispatcher 0) ∧
      Timers.events "s" (Life.after Life.sampleLooks "s" Life.sampleTimers
        Life.sampleHappenings).log = [⟨.sessionTimer, "s", ["01:01"]⟩] ∧
      Timers.exits "s" (Life.after Life.sampleLooks "s" Life.sampleTimers
        Life.sampleHappenings).log = [.sessionDeleted] := by
  have launched : ((Timers.empty (some 5000)).staff.launch "s" .dispatcher).1
      = some (.child .dispatcher 0) := rfl
  have told : story "s" ((Life.after Life.sampleLooks "s" Life.sampleTimers
      Life.sampleHappenings).looks Life.sampleLooks)
      = ([⟨.sessionTimer, "s", ["01:01"]⟩], some .sessionDeleted) := by
    decide +kernel
  obtain ⟨events, -, -, -, ending, -⟩ := worker_tells_its_story (.empty (some 5000))
    Life.sampleInstance .dispatcher (.child .dispatcher 0) launched Life.sampleLooks
    Life.sampleHappenings
  refine ⟨launched, events.trans (congrArg Prod.fst told), ?_⟩
  rcases ending with ⟨-, -, goes⟩ | ⟨-, e, said, ⟨ended, -⟩ | ⟨goes, -⟩⟩
  · exact nomatch goes.symm.trans (congrArg Prod.snd told)
  · cases ended.symm.trans (congrArg Prod.snd told)
    exact said
  · exact nomatch goes.symm.trans (congrArg Prod.snd told)

end Playgrounds
