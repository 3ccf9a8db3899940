import Playgrounds.Directory.Basic

/-!
# What the directory does to its host

A host may be any store with any behaviour. To tell what the directory does to it, all that is
done to the host is written down.

* `Contact` — something that is done to a host; a call of the store comes with its outcome.
* `Host.watched` — a host whose contacts are written down.
* `Erases` — a program does the same on a host that is watched and on the host itself.
* `Does` — what a program does to a host that is watched, and comes to by that.
* `contacts` — all that a program does to a host.
-/

namespace Playgrounds

open Store

/-- Something that is done to a host. -/
inductive Contact where
  /-- A playground is read. -/
  | read (id : String) (outcome : Outcome Playground)
  /-- A playground is written. -/
  | write (p : Playground) (outcome : Outcome Unit)
  /-- The store is asked for another operation, on the record with this key. -/
  | other (name key : String)
  | announced (e : Event)
  | counted
  | reported (l : Log.Line)

namespace Contact

/-- A call of the store. -/
def ofCall {α : Type} : Operation α → Outcome α → Contact
  | .playgroundGet id, outcome => .read id outcome
  | .playgroundPut p, outcome => .write p outcome
  | op, _ => .other op.name op.key

/-- Whether something is read or reported only. -/
def isQuiet : Contact → Bool
  | .read _ _ | .reported _ => true
  | .write _ _ | .other _ _ | .announced _ | .counted => false

/-- The playgrounds that are read, with what comes of it. -/
def reads (cs : List Contact) : List (String × Outcome Playground) :=
  cs.filterMap fun
    | .read id outcome => some (id, outcome)
    | _ => none

/-- The playgrounds that are written, with what comes of it. -/
def writes (cs : List Contact) : List (Playground × Outcome Unit) :=
  cs.filterMap fun
    | .write p outcome => some (p, outcome)
    | _ => none

/-- The events that are announced. -/
def announcements (cs : List Contact) : List Event :=
  cs.filterMap fun
    | .announced e => some e
    | _ => none

theorem reads_append (cs cs' : List Contact) : reads (cs ++ cs') = reads cs ++ reads cs' :=
  List.filterMap_append

theorem writes_append (cs cs' : List Contact) : writes (cs ++ cs') = writes cs ++ writes cs' :=
  List.filterMap_append

theorem announcements_append (cs cs' : List Contact) :
    announcements (cs ++ cs') = announcements cs ++ announcements cs' :=
  List.filterMap_append

/-- Where all is quiet, nothing is written. -/
theorem writes_eq_nil {cs : List Contact} (quiet : ∀ c ∈ cs, c.isQuiet = true) :
    writes cs = [] := by
  refine List.filterMap_eq_nil_iff.mpr fun c here => ?_
  cases c with
  | write => exact nomatch quiet _ here
  | read | other | announced | counted | reported => rfl

/-- Where all is quiet, nothing is announced. -/
theorem announcements_eq_nil {cs : List Contact} (quiet : ∀ c ∈ cs, c.isQuiet = true) :
    announcements cs = [] := by
  refine List.filterMap_eq_nil_iff.mpr fun c here => ?_
  cases c with
  | announced => exact nomatch quiet _ here
  | read | write | other | counted | reported => rfl

end Contact

variable {σ α β : Type}

/-- A host whose contacts are written down, the oldest first. -/
def Host.watched (host : Host (StateM σ)) : Host (StateM (σ × List Contact)) where
  store op := fun (s, cs) =>
    let (outcome, s) := host.store op s
    (outcome, s, cs ++ [.ofCall op outcome])
  announce e := fun (s, cs) => ((), (host.announce e s).2, cs ++ [.announced e])
  countCreated := fun (s, cs) => ((), (host.countCreated s).2, cs ++ [.counted])
  report l := fun (s, cs) => ((), (host.report l s).2, cs ++ [.reported l])

namespace Directory

/-! ## To watch changes nothing -/

/-- A program does the same to the state, and comes to the same, whether contacts are written down
or not. -/
def Erases (x : StateM (σ × List Contact) α) (y : StateM σ α) : Prop :=
  ∀ s cs, (x (s, cs)).1 = (y s).1 ∧ (x (s, cs)).2.1 = (y s).2

theorem erases_pure (a : α) : Erases (pure a : StateM (σ × List Contact) α) (pure a) :=
  fun _ _ => ⟨rfl, rfl⟩

/-- Where it changes nothing to watch either of two steps, it changes nothing
to watch them one after the other. -/
theorem erases_bind {x : StateM (σ × List Contact) α} {y : StateM σ α}
    {f : α → StateM (σ × List Contact) β} {g : α → StateM σ β} (first : Erases x y)
    (then' : ∀ a, Erases (f a) (g a)) : Erases (x >>= f) (y >>= g) := by
  intro s cs
  obtain ⟨result, state⟩ := first s cs
  have next := then' (y s).1 (y s).2 (x (s, cs)).2.2
  rw [← result, ← state] at next
  show (f (x (s, cs)).1 (x (s, cs)).2).1 = (g (y s).1 (y s).2).1 ∧
    (f (x (s, cs)).1 (x (s, cs)).2).2.1 = (g (y s).1 (y s).2).2
  rw [← result, ← state]
  exact next

section

variable (host : Host (StateM σ))

theorem erases_store (op : Operation α) : Erases (host.watched.store op) (host.store op) :=
  fun _ _ => ⟨rfl, rfl⟩

theorem erases_announce (e : Event) : Erases (host.watched.announce e) (host.announce e) :=
  fun _ _ => ⟨rfl, rfl⟩

theorem erases_countCreated : Erases host.watched.countCreated host.countCreated :=
  fun _ _ => ⟨rfl, rfl⟩

theorem erases_report (l : Log.Line) : Erases (host.watched.report l) (host.report l) :=
  fun _ _ => ⟨rfl, rfl⟩

/-- To watch a read changes nothing. -/
theorem erases_playground (id : String) :
    Erases (playground host.watched id) (playground host id) := by
  refine erases_bind (erases_store host _) fun read => ?_
  cases read with
  | ok p => exact erases_pure _
  | error f =>
      show Erases (if f.isNotFound = true then _ else _) (if f.isNotFound = true then _ else _)
      split
      · exact erases_pure _
      · exact erases_bind (erases_report host _) fun _ => erases_pure _

/-- To watch a lookup changes nothing. -/
theorem erases_find (domain : String) : Erases (find host.watched domain) (find host domain) := by
  refine erases_bind (erases_playground host _) fun found => ?_
  split
  next =>
      split
      next => exact erases_pure _
      next name _ =>
          refine erases_bind (erases_report host _) fun _ => ?_
          refine erases_bind (erases_playground host _) fun found => ?_
          split <;> exact erases_pure _
  next => exact erases_pure _

/-- To watch a creation changes nothing. -/
theorem erases_create (p : Playground) : Erases (create host.watched p) (create host p) := by
  refine erases_bind (erases_store host _) fun written => ?_
  cases written with
  | error f => exact erases_bind (erases_report host _) fun _ => erases_pure _
  | ok =>
      refine erases_bind (erases_countCreated host) fun _ => ?_
      refine erases_bind (erases_report host _) fun _ => ?_
      exact erases_bind (erases_announce host _) fun _ => erases_pure _

/-- To watch how a playground is ensured changes nothing. -/
theorem erases_ensure (domain : String) (seconds : UInt64) :
    Erases (ensure host.watched domain seconds) (ensure host domain seconds) := by
  refine erases_bind (erases_find host domain) fun found => ?_
  split
  next => exact erases_create host _
  next => exact erases_pure _

end

/-! ## What is done to a host -/

/-- Whatever state it begins in, a program does some things to its host and comes to a result, of
which this holds. -/
def Does (x : StateM (σ × List Contact) α) (holds : List Contact → α → Prop) : Prop :=
  ∀ s cs, ∃ more, (x (s, cs)).2.2 = cs ++ more ∧ holds more (x (s, cs)).1

/-- What is done to a host that has not been touched before. -/
def contacts (x : StateM (σ × List Contact) α) (s : σ) : List Contact :=
  (x (s, [])).2.2

/-- What holds of whatever is done holds of a run that has done nothing before. -/
theorem Does.contacts {x : StateM (σ × List Contact) α} {holds : List Contact → α → Prop}
    (does : Does x holds) (s : σ) : holds (contacts x s) (x (s, [])).1 := by
  obtain ⟨more, reached, h⟩ := does s []
  rw [Directory.contacts, reached]
  exact h

theorem does_pure {holds : List Contact → α → Prop} {a : α} (h : holds [] a) :
    Does (pure a : StateM (σ × List Contact) α) holds :=
  fun _ cs => ⟨[], (List.append_nil cs).symm, h⟩

/-- What two steps do is what the first does and then what the second does after it. -/
theorem does_bind {x : StateM (σ × List Contact) α} {f : α → StateM (σ × List Contact) β}
    {first : List Contact → α → Prop} {holds : List Contact → β → Prop} (before : Does x first)
    (then' : ∀ cs a, first cs a → Does (f a) fun more b => holds (cs ++ more) b) :
    Does (x >>= f) holds := by
  intro s cs
  obtain ⟨done, reached, h⟩ := before s cs
  obtain ⟨more, reached', h'⟩ := then' done (x (s, cs)).1 h (x (s, cs)).2.1 (x (s, cs)).2.2
  refine ⟨done ++ more, ?_, h'⟩
  show (f (x (s, cs)).1 (x (s, cs)).2).2.2 = _
  rw [reached', reached, List.append_assoc]

section

variable {host : Host (StateM σ)} {holds : List Contact → α → Prop}

/-- What makes one contact makes it first. -/
theorem does_contact {x : StateM (σ × List Contact) β} {f : β → StateM (σ × List Contact) α}
    (contact : β → Contact) (makes : ∀ s cs, (x (s, cs)).2.2 = cs ++ [contact (x (s, cs)).1])
    (then' : ∀ b, Does (f b) fun more a => holds (contact b :: more) a) :
    Does (x >>= f) holds := by
  have first : Does x fun cs b => cs = [contact b] := fun s cs => ⟨_, makes s cs, rfl⟩
  refine does_bind first ?_
  rintro _ b rfl
  exact then' b

/-- A call is the first thing that is done, and what follows it depends on its outcome. -/
theorem does_store {op : Operation β} {f : Outcome β → StateM (σ × List Contact) α}
    (then' : ∀ outcome, Does (f outcome) fun more a => holds (.ofCall op outcome :: more) a) :
    Does (host.watched.store op >>= f) holds :=
  does_contact (.ofCall op) (fun _ _ => rfl) then'

theorem does_report {l : Log.Line} {x : StateM (σ × List Contact) α}
    (then' : Does x fun more a => holds (.reported l :: more) a) :
    Does (host.watched.report l >>= fun _ => x) holds :=
  does_contact (fun _ => .reported l) (fun _ _ => rfl) fun _ => then'

theorem does_announce {e : Event} {x : StateM (σ × List Contact) α}
    (then' : Does x fun more a => holds (.announced e :: more) a) :
    Does (host.watched.announce e >>= fun _ => x) holds :=
  does_contact (fun _ => .announced e) (fun _ _ => rfl) fun _ => then'

theorem does_countCreated {x : StateM (σ × List Contact) α}
    (then' : Does x fun more a => holds (.counted :: more) a) :
    Does (host.watched.countCreated >>= fun _ => x) holds :=
  does_contact (fun _ => .counted) (fun _ _ => rfl) fun _ => then'

end

end Directory

end Playgrounds
