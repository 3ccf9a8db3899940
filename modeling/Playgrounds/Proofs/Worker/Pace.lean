import Mathlib.Data.List.Perm.Subperm
import Playgrounds.Proofs.Countdown
import Playgrounds.Proofs.Instant.Difference
import Playgrounds.Proofs.Worker.Diary

/-!
# The pace of a worker

However long its reads take, a worker looks at its session once in a second at most, and does not
catch up with what it has missed. As long as the end of the session stays where it is, no countdown
is longer than the one before.

* `Tick.slot` — the whole second, since the worker began, in which it takes a look.
* `Diary.InStep` — the invariant: the slots of the looks rise, and the next one lies beyond them.
* `Look.left?`, `Timers.looks` — the looks that a worker has been shown, and what they announce.
* `Diary.keeps_pace` — the pace of any worker, in any history.
-/

namespace Playgrounds

/-- A look that is late sets the next one on the next whole second since the worker began. -/
theorem Worker.nextDue_eq {began slot now : Nat} (isDue : began + periodMs * slot ≤ now) :
    nextDue (began + periodMs * slot) now = began + periodMs * ((now - began) / periodMs + 1) := by
  unfold nextDue
  unfold periodMs at *
  omega

/-- The whole second since the worker began in which a look is taken. -/
def Tick.slot (began : Nat) (k : Tick) : Nat :=
  (k.taken - began) / Worker.periodMs

namespace Diary

/-! ## Slots -/

/-- The looks of a worker that began at `began` were due on whole seconds and taken in rising slots,
all of them before the slot `next`. -/
structure Paced (began next : Nat) (y : Diary) : Prop where
  started : y.began = some began
  due : ∀ k ∈ y.ticks, began ≤ k.due ∧ k.due ≤ k.taken ∧ Worker.periodMs ∣ k.due - began
  rising : y.ticks.Pairwise fun k l => k.slot began < l.slot began
  before : ∀ k ∈ y.ticks, k.slot began < next

/-- In each phase the worker keeps in step with the seconds, and announces no more than it looks. -/
def InStep (y : Diary) : Worker.Phase → Prop
  | .fresh => y.began = none ∧ y.ticks = [] ∧ y.announced = []
  | .waiting due => y.announced.length ≤ y.ticks.length ∧
    ∃ began slot, Paced began slot y ∧ due = began + Worker.periodMs * slot
  | .reading due _ => y.announced.length + 1 ≤ y.ticks.length ∧
    ∃ began slot, Paced began slot y ∧ due = began + Worker.periodMs * slot

/-- A worker that has ended kept in step until then. -/
def WasInStep (y : Diary) : Prop :=
  y.announced.length ≤ y.ticks.length ∧ ∃ began slot, Paced began slot y

section

variable {session : String} {began slot now due : Nat} {sight : Sight} {y : Diary}

/-- One more look is taken, in a slot of its own. -/
theorem Paced.look (p : Paced began slot y) (isDue : began + Worker.periodMs * slot ≤ now)
    {y' : Diary} (started : y'.began = y.began)
    (ticks : y'.ticks = y.ticks ++ [⟨began + Worker.periodMs * slot, now⟩]) :
    Paced began ((now - began) / Worker.periodMs + 1) y' := by
  -- A look that is late skips the slots that have gone by.
  have reached : slot ≤ (now - began) / Worker.periodMs := by
    unfold Worker.periodMs at *
    omega
  refine ⟨started.trans p.started, ?_, ?_, ?_⟩
  · intro k member
    rw [ticks, List.mem_append, List.mem_singleton] at member
    rcases member with before | rfl
    · exact p.due k before
    · refine ⟨Nat.le_add_right .., isDue, ?_⟩
      rw [Nat.add_sub_cancel_left]
      exact Nat.dvd_mul_right ..
  · rw [ticks]
    refine List.pairwise_append.mpr ⟨p.rising, List.pairwise_singleton .., ?_⟩
    intro k before l last
    rw [List.mem_singleton.mp last]
    exact Nat.lt_of_lt_of_le (p.before k before) reached
  · intro k member
    rw [ticks, List.mem_append, List.mem_singleton] at member
    rcases member with before | rfl
    · exact Nat.lt_succ_of_le (Nat.le_trans (Nat.le_of_lt (p.before k before)) reached)
    · exact Nat.lt_succ_self _

/-- Nothing has changed about the looks. -/
theorem Paced.same (p : Paced began slot y) {y' : Diary} (started : y'.began = y.began)
    (ticks : y'.ticks = y.ticks) : Paced began slot y' := by
  refine ⟨started.trans p.started, ?_, ?_, ?_⟩
  · rw [ticks]
    exact p.due
  · rw [ticks]
    exact p.rising
  · rw [ticks]
    exact p.before

/-- So long after it began, the worker has taken one look for each second at most. -/
theorem Paced.length_le (p : Paced began slot y) {span : Nat}
    (within : ∀ k ∈ y.ticks, k.taken ≤ began + span) :
    y.ticks.length ≤ span / Worker.periodMs + 1 := by
  let slots := y.ticks.map (Tick.slot began)
  have distinct : slots.Nodup := (List.pairwise_map.mpr p.rising).nodup
  have reached : slots ⊆ List.range (span / Worker.periodMs + 1) := by
    intro n member
    obtain ⟨k, taken, rfl⟩ := List.mem_map.mp member
    refine List.mem_range.mpr (Nat.lt_succ_of_le (Nat.div_le_div_right ?_))
    rw [Nat.sub_le_iff_le_add, Nat.add_comm]
    exact within k taken
  have count := (distinct.subperm reached).length_le
  rwa [List.length_map, List.length_range] at count

/-- **A worker that goes on keeps in step.** -/
theorem InStep.goes {phase phase' : Worker.Phase} {tick : Option Tick} {told : List Event}
    (inStep : y.InStep phase) (timers : Timers)
    (goes : Timers.Goes session now sight phase tick told phase') :
    (y.goOn timers phase now tick told).InStep phase' := by
  have count : (y.goOn timers phase now tick told).announced.length
      = y.announced.length + told.length := by
    simp [goOn]
  have same : (y.goOn timers phase now none told).ticks = y.ticks := List.append_nil _
  have more (k : Tick) :
      (y.goOn timers phase now (some k) told).ticks.length = y.ticks.length + 1 := by
    simp [goOn]
  cases goes with
  | stays _ begun _ =>
      cases phase with
      | fresh => exact absurd rfl begun
      | waiting due | reading due r =>
          obtain ⟨fewer, began, slot, p, due_eq⟩ := inStep
          refine ⟨?_, began, slot, p.same (began_goOn begun ..) same, due_eq⟩
          rw [count, same]
          exact fewer
  | begins =>
      obtain ⟨-, ticks, announced⟩ := inStep
      rw [ticks] at same
      refine ⟨?_, now, 0, ⟨began_goOn_of_fresh .., ?_, ?_, ?_⟩, rfl⟩
      · rw [count, announced]
        exact Nat.zero_le _
      · rw [same]
        exact fun _ member => absurd member List.not_mem_nil
      · rw [same]
        exact .nil
      · rw [same]
        exact fun _ member => absurd member List.not_mem_nil
  -- A worker that asks has one tick more than it has announced.
  | asks r isDue _ _ =>
      obtain ⟨fewer, began, slot, p, rfl⟩ := inStep
      refine ⟨?_, began, _, p.look isDue rfl rfl, Worker.nextDue_eq isDue⟩
      rw [count, more]
      exact Nat.succ_le_succ fewer
  | @looks due k event isDue shown answer =>
      obtain ⟨fewer, began, slot, p, rfl⟩ := inStep
      refine ⟨?_, began, _, p.look isDue rfl rfl, Worker.nextDue_eq isDue⟩
      rw [count, more]
      exact Nat.add_le_add fewer Option.length_toList_le
  | @hears due r k event shown answer =>
      obtain ⟨fewer, began, slot, p, due_eq⟩ := inStep
      refine ⟨?_, began, slot, p.same rfl same, due_eq⟩
      rw [count, same]
      exact Nat.le_trans (Nat.add_le_add_left Option.length_toList_le _) fewer
  | givesUp =>
      obtain ⟨fewer, began, slot, p, due_eq⟩ := inStep
      refine ⟨?_, began, slot, p.same rfl same, due_eq⟩
      rw [count, same]
      exact Nat.le_of_succ_le fewer

/-- A worker that ends has kept in step. -/
theorem InStep.ends {phase : Worker.Phase} {cancelled : Bool} {tick : Option Tick} {e : Exit}
    (inStep : y.InStep phase) (timers : Timers)
    (ends : Timers.Ends session now sight cancelled phase tick e) :
    (y.finish timers now tick e).WasInStep := by
  have same : (y.finish timers now none e).ticks = y.ticks := List.append_nil _
  have more (k : Tick) : (y.finish timers now (some k) e).ticks.length = y.ticks.length + 1 := by
    simp [finish]
  cases ends with
  | cancelled begun =>
      cases phase with
      | fresh => exact absurd rfl begun
      | waiting due =>
          obtain ⟨fewer, began, slot, p, -⟩ := inStep
          refine ⟨?_, began, slot, p.same rfl same⟩
          rw [same]
          exact fewer
      | reading due r =>
          obtain ⟨fewer, began, slot, p, -⟩ := inStep
          refine ⟨?_, began, slot, p.same rfl same⟩
          rw [same]
          exact Nat.le_of_succ_le fewer
  | looks isDue | breaksDown isDue =>
      obtain ⟨fewer, began, slot, p, rfl⟩ := inStep
      refine ⟨?_, began, _, p.look isDue rfl rfl⟩
      rw [more]
      exact Nat.le_succ_of_le fewer
  | hears =>
      obtain ⟨fewer, began, slot, p, -⟩ := inStep
      refine ⟨?_, began, slot, p.same rfl same⟩
      rw [same]
      exact Nat.le_of_succ_le fewer

end

end Diary

/-! ## What is announced -/

/-- What is left of the session, if the look is followed by an announcement. -/
def Look.left? (k : Look) : Option Int :=
  match Verdict.of k.result k.clock with
  | .announce left => some left
  | .failed _ | .stop _ => none

namespace Timers

/-- The announcement of what is left of a session. -/
def countdown (session : String) (left : Int) : Event :=
  ⟨.sessionTimer, session, [Countdown.text left]⟩

/-- The look that a deed shows the worker of a session. -/
def Deed.look? (session : String) : Deed → Option Look
  | .act other _ sight => if other = session then sight.look? else none
  | _ => none

/-- The looks that are shown the worker of a session. -/
def shown (session : String) (ds : List Deed) : List Look :=
  ds.filterMap (Deed.look? session)

variable {session : String}

/-- The last turn shows one look at most. -/
theorem shown_concat (ds : List Deed) (d : Deed) :
    shown session (ds ++ [d]) = shown session ds ++ (d.look? session).toList := by
  rw [shown, List.filterMap_append]
  cases look : d.look? session with
  | none => rw [List.filterMap_cons_none look]; rfl
  | some k => rw [List.filterMap_cons_some look]; rfl

/-- What is announced is the time left, if the look tells it. -/
theorem goOn_answer {k : Look} {event : Option Event} (answer : k.answer session = .goOn event) :
    event = k.left?.map (countdown session) := by
  rw [Look.answer] at answer
  rw [Look.left?]
  cases read : k.result with
  | ok s =>
      rw [read] at answer
      by_cases isOver : s.expiresAt.notAfter k.clock = true
      · simp only [isOver, if_true] at answer
        cases answer
      · have verdict : Verdict.of (.ok s) k.clock = .announce (s.left k.clock) := if_neg isOver
        simp only [isOver] at answer
        rw [verdict]
        cases answer
        rfl
  | error f =>
      rw [read] at answer
      cases f with
      | notFound => cases answer
      | backend | unreadable =>
          cases answer
          rfl

/-- A turn announces what is left of the session by the look that is shown, or nothing. -/
theorem Goes.told_eq {now : Nat} {sight : Sight} {phase phase' : Worker.Phase}
    {tick : Option Tick} {told : List Event}
    (goes : Goes session now sight phase tick told phase') :
    ∃ lefts : List Int, told = lefts.map (countdown session) ∧
      lefts.Sublist ((Deed.act session now sight).look? session |>.bind Look.left?).toList := by
  have look : (Deed.act session now sight).look? session = sight.look? := if_pos rfl
  rw [look]
  cases goes with
  | stays | begins | asks | givesUp => exact ⟨[], rfl, List.nil_sublist _⟩
  | @looks due k event _ shown answer | @hears due r k event shown answer =>
      refine ⟨k.left?.toList, ?_, ?_⟩
      · rw [goOn_answer answer]
        cases k.left? <;> rfl
      · rw [shown]
        exact List.Sublist.refl _

end Timers

namespace Diary

variable {session : String} {ds : List Timers.Deed} {y : Diary}

/-- What was announced is what was left of the session by some of the looks that were shown, in
their order. -/
def Announces (session : String) (ds : List Timers.Deed) (y : Diary) : Prop :=
  ∃ lefts : List Int, y.announced.map Prod.snd = lefts.map (Timers.countdown session) ∧
    lefts.Sublist ((Timers.shown session ds).filterMap Look.left?)

/-- The last turn tells the time left once at most. -/
theorem lefts_concat (session : String) (ds : List Timers.Deed) (d : Timers.Deed) :
    (Timers.shown session (ds ++ [d])).filterMap Look.left?
      = (Timers.shown session ds).filterMap Look.left?
        ++ ((d.look? session).bind Look.left?).toList := by
  rw [Timers.shown_concat, List.filterMap_append]
  cases d.look? session with
  | none => rfl
  | some k => cases left : k.left? <;> simp [left]

/-- What was announced stays so when a deed announces nothing. -/
theorem Announces.more (a : Announces session ds y) (d : Timers.Deed) {y' : Diary}
    (same : y'.announced = y.announced) : Announces session (ds ++ [d]) y' := by
  obtain ⟨lefts, announced, sublist⟩ := a
  refine ⟨lefts, same ▸ announced, ?_⟩
  rw [lefts_concat]
  exact sublist.trans (List.sublist_append_left _ _)

/-- What a turn announces is the time left at its look. -/
theorem Announces.goes (a : Announces session ds y) {now : Nat} {sight : Sight}
    {phase phase' : Worker.Phase} {tick : Option Tick} {told : List Event} (timers : Timers)
    (goes : Timers.Goes session now sight phase tick told phase') :
    Announces session (ds ++ [.act session now sight]) (y.goOn timers phase now tick told) := by
  obtain ⟨lefts, announced, sublist⟩ := a
  obtain ⟨more, told_eq, added⟩ := goes.told_eq
  refine ⟨lefts ++ more, ?_, ?_⟩
  · show (y.announced ++ told.map (now, ·)).map Prod.snd = _
    rw [List.map_append, List.map_append, announced, ← told_eq]
    simp only [List.map_map, Function.comp_def, List.map_id']
  · rw [lefts_concat]
    exact sublist.append added

end Diary

/-- Time is left only of a session that is stored. -/
theorem Look.exists_of_left? {k : Look} {left : Int} (found : k.left? = some left) :
    ∃ s, k.result = .ok s ∧ left = s.expiresAt.since k.clock := by
  rw [Look.left?] at found
  cases read : k.result with
  | ok s =>
      refine ⟨s, rfl, ?_⟩
      by_cases isOver : s.isExpiredAt k.clock = true
      · have verdict : Verdict.of (.ok s) k.clock = .stop .expired := if_pos isOver
        rw [read, verdict] at found
        cases found
      · have verdict : Verdict.of (.ok s) k.clock = .announce (s.left k.clock) := if_neg isOver
        rw [read, verdict] at found
        exact (Option.some.inj found).symm
  | error f =>
      rw [read] at found
      cases f <;> cases found

/-- The looks see the session end at the instant `ending`, by a clock that never goes back, and
there are no leap seconds. -/
structure Steady (ending : Instant) (ks : List Look) : Prop where
  plain : ending.inLeapSecond = false
  fixed : ∀ k ∈ ks, ∀ s, k.result = .ok s → s.expiresAt = ending
  clocks : ∀ k ∈ ks, k.clock.inLeapSecond = false
  onward : ks.Pairwise fun k l => k.clock.notAfter l.clock = true

/-- There is no more left at a later look. -/
theorem Steady.pairwise_left? {ending : Instant} {ks : List Look} (steady : Steady ending ks) :
    (ks.filterMap Look.left?).Pairwise (· ≥ ·) := by
  refine List.pairwise_filterMap.mpr (steady.onward.imp_of_mem ?_)
  intro k l first second later before foundBefore after foundAfter
  obtain ⟨s, read, rfl⟩ := Look.exists_of_left? foundBefore
  obtain ⟨s', read', rfl⟩ := Look.exists_of_left? foundAfter
  have clock := steady.clocks k first
  have clock' := steady.clocks l second
  have onward := (Instant.notAfter_iff_nanos clock clock').mp later
  rw [steady.fixed k first s read, steady.fixed l second s' read',
    Instant.since_eq_sub steady.plain clock, Instant.since_eq_sub steady.plain clock']
  exact Int.sub_le_sub_left onward _

/-! ## The pace -/

namespace Timers

variable {session : String} {now : Nat} {sight : Sight} {phase phase' : Worker.Phase}
  {tick : Option Tick}

theorem Goes.taken_eq {told : List Event} (goes : Goes session now sight phase tick told phase') :
    ∀ k ∈ tick, k.taken = now := by
  cases goes with
  | stays | begins | hears | givesUp => exact nofun
  | asks | looks =>
      rintro k ⟨⟩
      rfl

theorem Ends.taken_eq {cancelled : Bool} {e : Exit}
    (ends : Ends session now sight cancelled phase tick e) : ∀ k ∈ tick, k.taken = now := by
  cases ends with
  | cancelled | hears => exact nofun
  | looks | breaksDown =>
      rintro k ⟨⟩
      rfl

end Timers

namespace Diary

variable {session : String} {ds : List Timers.Deed} {y : Diary}

/-- Looks are taken when the worker makes a move. -/
def Polled (session : String) (ds : List Timers.Deed) (y : Diary) : Prop :=
  ∀ k ∈ y.ticks, ∃ sight, .act session k.taken sight ∈ ds

theorem Polled.more (p : Polled session ds y) (d : Timers.Deed) {y' : Diary}
    (same : y'.ticks = y.ticks) : Polled session (ds ++ [d]) y' := by
  intro k member
  rw [same] at member
  obtain ⟨sight, polled⟩ := p k member
  exact ⟨sight, List.mem_append_left _ polled⟩

/-- A turn is polled at its own time. -/
theorem Polled.act (p : Polled session ds y) {now : Nat} (sight : Sight) {tick : Option Tick}
    (taken : ∀ k ∈ tick, k.taken = now) {y' : Diary} (ticks : y'.ticks = y.ticks ++ tick.toList) :
    Polled session (ds ++ [.act session now sight]) y' := by
  intro k member
  rw [ticks, List.mem_append, Option.mem_toList] at member
  rcases member with before | last
  · obtain ⟨sight, polled⟩ := p k before
    exact ⟨sight, List.mem_append_left _ polled⟩
  · rw [taken k last]
    exact ⟨sight, List.mem_append_right _ (List.mem_singleton_self _)⟩

/-- What holds of the looks of a worker, and of what it announces, in any history. -/
structure Measured (session : String) (ds : List Timers.Deed) (y : Diary) : Prop where
  fewer : y.announced.length ≤ y.ticks.length
  paced : ∀ began, y.began = some began → ∃ slot, Paced began slot y
  unbegun : y.began = none → y.ticks = []
  announces : Announces session ds y
  polled : Polled session ds y

/-- **Every run of a worker is measured.** -/
theorem measured_after {t : Timers} {i : Instance} {parent token : Token}
    (launched : (t.staff.launch i.sessionId parent).1 = some token) (ds : List Timers.Deed) :
    Measured i.sessionId ds (after i.sessionId (t.launch i parent).1 ds) := by
  have kept := holds_after launched
    (P := fun ds phase y => y.InStep phase ∧ Announces i.sessionId ds y ∧ Polled i.sessionId ds y)
    (Q := fun ds y => y.WasInStep ∧ Announces i.sessionId ds y ∧ Polled i.sessionId ds y)
    ⟨⟨rfl, rfl, rfl⟩, ⟨[], rfl, List.nil_sublist _⟩, nofun⟩
    (fun {_ _ phase} d _ ⟨inStep, announces, polled⟩ => by
      refine ⟨?_, announces.more d rfl, polled.more d rfl⟩
      cases phase with
      | fresh => exact inStep
      | waiting | reading =>
          obtain ⟨fewer, began, slot, p, due⟩ := inStep
          exact ⟨fewer, began, slot, p.same rfl rfl, due⟩)
    (fun {_ _ _ _ sight _ _ _} timers goes ⟨inStep, announces, polled⟩ =>
      ⟨inStep.goes timers goes, announces.goes timers goes, polled.act sight goes.taken_eq rfl⟩)
    (fun {_ _ _ _ sight _ _ _} timers ends ⟨inStep, announces, polled⟩ =>
      ⟨inStep.ends timers ends, announces.more _ rfl, polled.act sight ends.taken_eq rfl⟩)
    (fun d ⟨inStep, announces, polled⟩ => ⟨inStep, announces.more d rfl, polled.more d rfl⟩) ds
  generalize after i.sessionId (t.launch i parent).1 ds = y at kept
  -- In whatever way the run stands, this is what there is to say of a worker that has begun.
  have of_paced {began slot : Nat} (p : Paced began slot y)
      (fewer : y.announced.length ≤ y.ticks.length) (announces : Announces i.sessionId ds y)
      (polled : Polled i.sessionId ds y) : Measured i.sessionId ds y := by
    refine ⟨fewer, ?_, ?_, announces, polled⟩
    · intro began' started
      cases started.symm.trans p.started
      exact ⟨slot, p⟩
    · intro unbegun
      cases unbegun.symm.trans p.started
  rcases kept with ⟨phase, -, inStep, announces, polled⟩ |
    ⟨-, ⟨fewer, began, slot, p⟩, announces, polled⟩
  · cases phase with
    | fresh =>
        obtain ⟨unbegun, ticks, announced⟩ := inStep
        refine ⟨?_, ?_, fun _ => ticks, announces, polled⟩
        · rw [announced]
          exact Nat.zero_le _
        · intro began started
          cases unbegun.symm.trans started
    | waiting due =>
        obtain ⟨fewer, began, slot, p, -⟩ := inStep
        exact of_paced p fewer announces polled
    | reading due r =>
        obtain ⟨fewer, began, slot, p, -⟩ := inStep
        exact of_paced p (Nat.le_of_succ_le fewer) announces polled
  · exact of_paced p fewer announces polled

/-- **A WORKER KEEPS ITS PACE.** From its launch on, whatever happens to the timers and however long
its reads take or fail, the looks of a worker were due on whole seconds since it began, and are
taken in rising slots of a second. So until some time after its beginning it has taken one look at
most for each second begun, asked the store once for each, and announced no more. If the end of the
session stays where it is and the clock never goes back, and there are no leap seconds, then what is
announced to be left never grows. -/
theorem keeps_pace (t : Timers) (i : Instance) (parent token : Token)
    (launched : (t.staff.launch i.sessionId parent).1 = some token) (ds : List Timers.Deed) :
    let session := i.sessionId
    let y := after session (t.launch i parent).1 ds
    (y.began = none → y.ticks = []) ∧
    y.announced.length ≤ y.ticks.length ∧
    (∀ began, y.began = some began →
      (∀ k ∈ y.ticks, began ≤ k.due ∧ k.due ≤ k.taken ∧ Worker.periodMs ∣ k.due - began) ∧
      y.ticks.Pairwise (fun k l => k.slot began < l.slot began) ∧
      ∀ span, (∀ now sight, .act session now sight ∈ ds → now ≤ began + span) →
        y.ticks.length ≤ span / 1000 + 1) ∧
    ∀ ending, Steady ending (Timers.shown session ds) →
      ∃ lefts : List Int, y.announced.map Prod.snd = lefts.map (Timers.countdown session) ∧
        lefts.Pairwise (· ≥ ·) ∧ (lefts.map Countdown.wholeSeconds).Pairwise (· ≥ ·) := by
  intro session y
  have m : Measured session ds y := measured_after launched ds
  refine ⟨m.unbegun, m.fewer, ?_, ?_⟩
  · intro began started
    obtain ⟨slot, p⟩ := m.paced began started
    refine ⟨p.due, p.rising, ?_⟩
    intro span within
    refine p.length_le fun k taken => ?_
    obtain ⟨sight, polled⟩ := m.polled k taken
    exact within k.taken sight polled
  · intro ending steady
    obtain ⟨lefts, announced, sublist⟩ := m.announces
    -- The end stays and the clock goes on, so that less and less is left.
    have falling : lefts.Pairwise (· ≥ ·) := steady.pairwise_left?.sublist sublist
    refine ⟨lefts, announced, falling, ?_⟩
    exact List.pairwise_map.mpr (falling.imp Countdown.wholeSeconds_mono)

/-! ### A slow answer -/

/-- What the worker sees of a session that ends after a minute and a half second. -/
def sampleLook (now : Nat) : Look :=
  ⟨.atOnce, .ok ⟨"s", "p", .epoch, Instant.epoch.plus 61500⟩, Instant.epoch.plus now⟩

/-- The first answer comes after two seconds and a half, when two more looks have been missed. -/
def slowAnswer : List Timers.Deed :=
  [.act "s" 0 .nothing, .act "s" 0 (.call (.delayed 2500) .epoch),
    .act "s" 2500 (.answer (sampleLook 2500).result (sampleLook 2500).clock),
    .act "s" 2500 (.call (.answered (sampleLook 2500).result) (sampleLook 2500).clock),
    .act "s" 3000 (.call (.answered (sampleLook 3000).result) (sampleLook 3000).clock)]

/-- All looks are at one session, whose end stays, and the clock does not go back. -/
theorem steady_slowAnswer :
    Steady (Instant.epoch.plus 61500) (Timers.shown "s" slowAnswer) := by
  have looks : Timers.shown "s" slowAnswer = [2500, 2500, 3000].map sampleLook := by
    simp [Timers.shown, slowAnswer, Timers.Deed.look?, Sight.look?, sampleLook]
  have plain : Instant.epoch.inLeapSecond = false := by decide
  have rising : [2500, 2500, 3000].Pairwise (· ≤ ·) := by decide
  rw [looks]
  refine ⟨Instant.inLeapSecond_plus plain _, ?_, ?_, ?_⟩
  · refine List.forall_mem_map.mpr fun n _ s read => ?_
    rw [← Except.ok.inj read]
  · exact List.forall_mem_map.mpr fun n _ => Instant.inLeapSecond_plus plain n
  · exact List.pairwise_map.mpr (rising.imp fun le => Instant.plus_notAfter_plus plain le)

/-- One of the looks that were missed is taken late, and the other is left out. -/
theorem keeps_pace_slowAnswer :
    let y := after "s" Life.sampleTimers slowAnswer
    ((Timers.empty (some 5000)).staff.launch "s" .dispatcher).1 = some (.child .dispatcher 0) ∧
      y.ticks = [⟨0, 0⟩, ⟨1000, 2500⟩, ⟨3000, 3000⟩] ∧ y.ticks.length ≤ 3000 / 1000 + 1 ∧
      ∃ lefts : List Int, y.announced.map Prod.snd = lefts.map (Timers.countdown "s") ∧
        lefts.Pairwise (· ≥ ·) := by
  intro y
  have launched : ((Timers.empty (some 5000)).staff.launch "s" .dispatcher).1
      = some (.child .dispatcher 0) := rfl
  obtain ⟨-, -, pace, falling⟩ := keeps_pace (.empty (some 5000)) Life.sampleInstance .dispatcher
    (.child .dispatcher 0) launched slowAnswer
  obtain ⟨lefts, announced, falling, -⟩ := falling _ steady_slowAnswer
  refine ⟨launched, by decide +kernel, ?_, lefts, announced, falling⟩
  refine (pace 0 (by decide +kernel)).2.2 3000 ?_
  intro now sight polled
  simp only [slowAnswer, List.mem_cons, Timers.Deed.act.injEq, List.not_mem_nil, or_false] at polled
  omega

end Diary

end Playgrounds
