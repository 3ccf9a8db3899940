import Playgrounds.Proofs.Bus.Delivery

/-!
# A bus that may be closed

Nothing can be posted on a closed bus. Otherwise it is as it would be, and its subscriptions receive
what lies before them; only then they learn that there is no more.

* `Bus.withOpen` — a bus, closed or not.
* `Bus.step_withOpen` — one deed.
* `Bus.Awaits.receive_withOpen`, `Bus.Awaits.isReady_withOpen` — what a subscription receives.
-/

namespace Playgrounds

namespace Received

/-- A receipt as a subscription receives it from a bus that may be closed. -/
def deliveryFrom (isOpen : Bool) : Received Posting → Delivery
  | .message p => .message p.message
  | .lagged count => .lagged count
  | .nothing => if isOpen then .nothing else .closed

end Received

namespace Bus

variable {b : Bus} {id : SubscriptionId} {topic : String} {ahead : List Posting}

/-- The bus, open or closed. -/
def withOpen (b : Bus) (isOpen : Bool) : Bus :=
  { b with isOpen }

theorem withOpen_self (isOpen : b.isOpen = true) : b.withOpen true = b := by
  rw [withOpen, ← isOpen]

/-- The deed, if it can be done: nothing can be posted on a closed bus. -/
def stepWhile (isOpen : Bool) (b : Bus) (d : Deed) : Bus :=
  match isOpen, d with
  | false, .post _ => b
  | _, d => b.step d

/-- A deed that cannot be done is a posting on a closed bus; any other is done as ever. -/
theorem stepWhile_cases (isOpen : Bool) (b : Bus) (d : Deed) :
    (isOpen = false ∧ (∃ p, d = .post p) ∧ b.stepWhile isOpen d = b) ∨
      (∀ p, d = .post p → isOpen = true) ∧ b.stepWhile isOpen d = b.step d := by
  cases d with
  | post p =>
      cases isOpen with
      | true => exact .inr ⟨fun _ _ => rfl, rfl⟩
      | false => exact .inl ⟨rfl, ⟨p, rfl⟩, rfl⟩
  | subscribe | receive | unsubscribe => cases isOpen <;> exact .inr ⟨nofun, rfl⟩

theorem post_close (b : Bus) (p : Posting) : (b.withOpen false).post p = b.withOpen false := by
  rw [post_eq]
  rfl

/-- Receiving leaves the same bus behind, whether it is open or closed. -/
theorem receive_withOpen_snd (b : Bus) (isOpen : Bool) (id : SubscriptionId) :
    ((b.withOpen isOpen).receive id).2 = (b.receive id).2.withOpen isOpen := by
  cases found : b.subscriptions[id]? with
  | none =>
      rw [receive_of_none found, receive_of_none (b := b.withOpen isOpen) found]
  | some s =>
      rw [receive_of_some found, receive_of_some (b := b.withOpen isOpen) found]
      rfl

/-- **One deed, done to a bus that is open or closed.** -/
theorem step_withOpen (s : b.Sound) (isOpen : Bool) (d : Deed) :
    (b.withOpen isOpen).step d = (b.stepWhile isOpen d).withOpen isOpen := by
  cases isOpen with
  | true =>
      have same : b.stepWhile true d = b.step d := by cases d <;> rfl
      rw [same, withOpen_self s.isOpen, withOpen_self (s.step d).isOpen]
  -- Only postings are stopped; subscriptions still come, go and receive.
  | false =>
      cases d with
      | subscribe | unsubscribe => rfl
      | post p => exact post_close b p
      | receive id => exact receive_withOpen_snd b false id

theorem Sound.stepWhile (s : b.Sound) (isOpen : Bool) (d : Deed) :
    (b.stepWhile isOpen d).Sound := by
  obtain ⟨-, -, same⟩ | ⟨-, same⟩ := stepWhile_cases isOpen b d
  · rw [same]
    exact s
  · rw [same]
    exact s.step d

/-- What a subscription receives is told by what lies before it, and by whether the bus is open. -/
theorem Awaits.receive_withOpen (a : b.Awaits id topic ahead) (isOpen : Bool) :
    ((b.withOpen isOpen).receive id).1 = (Received.next ahead).deliveryFrom isOpen := by
  obtain ⟨past, found, carries⟩ := a.place
  have found' : (b.withOpen isOpen).subscriptions[id]? = some ⟨topic, past.length⟩ := found
  have carries' : ((b.withOpen isOpen).channel topic).Carries
      (past ++ ahead.map Posting.payload) := carries
  simp only [receive, found', carries'.receive, Received.next_map]
  cases next : Received.next ahead with
  | message p =>
      show Delivery.message ⟨topic, p.payload⟩ = .message ⟨p.topic, p.payload⟩
      rw [a.onTopic p (Received.mem_of_next_eq_message next)]
  | lagged | nothing => rfl

/-- A subscription is kept waiting if nothing lies before it and the bus is open. -/
theorem Awaits.isReady_withOpen (a : b.Awaits id topic ahead) (isOpen : Bool) :
    (b.withOpen isOpen).isReady id = !(isOpen && ahead.isEmpty) := by
  have pending : (b.withOpen isOpen).pending id = ahead.length := a.pending_eq
  have here : (b.withOpen isOpen).subscriptions.contains id = true := a.mem_subscriptions
  rw [isReady, pending, here]
  cases isOpen <;> cases ahead <;> rfl

/-- On an open bus a subscription has something to receive exactly if something lies before it. -/
theorem Awaits.isReady_iff (a : b.Awaits id topic ahead) (isOpen : b.isOpen = true) :
    b.isReady id = true ↔ ahead ≠ [] := by
  have ready := a.isReady_withOpen true
  rw [withOpen_self isOpen] at ready
  rw [ready]
  cases ahead <;> simp

end Bus

end Playgrounds
