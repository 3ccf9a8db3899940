import Playgrounds.Bus.Channel

/-!
# What a channel has carried

A channel keeps its last messages only. `Channel.Carries` tells all that it has carried, and with
that what its readers get: what a reader gets hangs on the messages that lie before it, whether the
channel has kept them or not.

* `Received.next` — what a reader gets that has some messages before it.
* `Received.count` — how many of them it has dealt with then.
* `Channel.Carries.receive` — a channel gives each reader just that.
-/

namespace Playgrounds

variable {α β : Type}

namespace Received

/-- What a reader gets that has these messages before it, the oldest first. -/
def next (ahead : List α) : Received α :=
  if Channel.capacity < ahead.length then .lagged (ahead.length - Channel.capacity)
  else
    match ahead with
    | [] => .nothing
    | a :: _ => .message a

/-- How many messages are dealt with by what a reader gets. -/
def count : Received α → Nat
  | .message _ => 1
  | .lagged n => n
  | .nothing => 0

/-- The same with another message. -/
def map (f : α → β) : Received α → Received β
  | .message a => .message (f a)
  | .lagged n => .lagged n
  | .nothing => .nothing

@[simp] theorem count_map (f : α → β) (r : Received α) : (r.map f).count = r.count := by
  cases r <;> rfl

/-- A reader that has fallen too far behind is told how much it has lost. -/
theorem next_of_lt {ahead : List α} (far : Channel.capacity < ahead.length) :
    next ahead = .lagged (ahead.length - Channel.capacity) :=
  if_pos far

/-- A reader that has kept up gets the oldest message that it has not had. -/
theorem next_cons {a : α} {rest : List α} (near : (a :: rest).length ≤ Channel.capacity) :
    next (a :: rest) = .message a :=
  if_neg (Nat.not_lt.mpr near)

theorem mem_of_next_eq_message {ahead : List α} {a : α} (h : next ahead = .message a) :
    a ∈ ahead := by
  unfold next at h
  split at h
  · exact nomatch h
  · cases ahead with
    | nil => exact nomatch h
    | cons b rest =>
        cases h
        exact List.mem_cons_self

theorem eq_nil_of_next_eq_nothing {ahead : List α} (h : next ahead = .nothing) : ahead = [] := by
  unfold next at h
  split at h
  · exact nomatch h
  · cases ahead with
    | nil => rfl
    | cons a rest => exact nomatch h

/-- Nothing is dealt with that was not there. -/
theorem count_next_le (ahead : List α) : (next ahead).count ≤ ahead.length := by
  unfold next
  split
  · exact Nat.sub_le _ _
  · cases ahead with
    | nil => exact Nat.le_refl 0
    | cons a rest => exact Nat.succ_le_succ (Nat.zero_le _)

/-- A reader that has something before it makes headway. -/
theorem count_next_pos {ahead : List α} (some : ahead ≠ []) : 0 < (next ahead).count := by
  unfold next
  split
  next far => exact Nat.sub_pos_of_lt far
  next =>
      cases ahead with
      | nil => exact absurd rfl some
      | cons a rest => exact Nat.one_pos

/-- What a reader gets depends on how many messages lie before it, and not on what they say. -/
theorem next_map (f : α → β) (ahead : List α) : next (ahead.map f) = (next ahead).map f := by
  unfold next
  rw [List.length_map]
  split
  · rfl
  · cases ahead <;> rfl

end Received

namespace Channel

/-- The channel has carried these messages, the oldest first, and has kept the last of them. -/
structure Carries (c : Channel α) (ms : List α) : Prop where
  sent_eq : c.sent = ms.length
  kept_eq : c.kept = ms.reverse.take capacity

variable {c : Channel α} {ms past ahead : List α}

theorem carries_empty : (empty : Channel α).Carries [] :=
  ⟨rfl, rfl⟩

/-- One more message has been carried after one more has been sent. -/
theorem Carries.send (h : c.Carries ms) (a : α) : (c.send a).Carries (ms ++ [a]) where
  sent_eq := by
    rw [Channel.send, h.sent_eq, List.length_append, List.length_singleton]
  kept_eq := by
    rw [Channel.send, h.kept_eq, List.reverse_append, List.reverse_singleton, List.singleton_append]
    show (a :: ms.reverse.take capacity).take (255 + 1) = (a :: ms.reverse).take (255 + 1)
    rw [List.take_succ_cons, List.take_succ_cons, List.take_take]
    rfl

/-- The oldest message that is kept has the number of those that are lost. -/
theorem Carries.oldest_eq (h : c.Carries ms) : c.oldest = ms.length - capacity := by
  rw [oldest, h.sent_eq, h.kept_eq, List.length_take, List.length_reverse]
  omega

/-- The messages that are kept are found under their numbers. -/
theorem Carries.number_eq (h : c.Carries ms) {n : Nat} (kept : ms.length ≤ n + capacity) :
    c.number n = ms[n]? := by
  rw [number, h.sent_eq, h.kept_eq]
  split
  next sent =>
      rw [List.getElem?_take_of_lt (by omega), List.getElem?_reverse (by omega)]
      congr 1
      omega
  next unsent => rw [List.getElem?_eq_none (Nat.not_lt.mp unsent)]

/-- A reader that has dealt with the messages in its past gets what comes next. -/
theorem Carries.receive (h : c.Carries (past ++ ahead)) :
    c.receive past.length = (.next ahead, past.length + (Received.next ahead).count) := by
  have length : (past ++ ahead).length = past.length + ahead.length := List.length_append
  rw [Channel.receive, h.oldest_eq, length]
  -- The channel has dropped what the reader would get exactly if more lies before it than is kept.
  by_cases far : capacity < ahead.length
  · have oldest : past.length + ahead.length - capacity
        = past.length + (ahead.length - capacity) := by omega
    rw [if_pos (by omega), Received.next_of_lt far, oldest, Nat.add_sub_cancel_left]
    rfl
  · rw [if_neg (by omega), h.number_eq (by omega), List.getElem?_append_right (Nat.le_refl _),
      Nat.sub_self]
    cases ahead with
    | nil => rfl
    | cons a rest =>
        rw [Received.next_cons (Nat.not_lt.mp far)]
        rfl

end Channel

end Playgrounds
