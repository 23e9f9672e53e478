import AccessStatus.Proofs.Executor.Record
import AccessStatus.Proofs.Provider.Bays

/-!
# Events that wait

The worker of a provider may be behind: an event that is taken waits in the channel of a message
loop until its turn comes. Taking an event and applying everything that waits comes to applying what
waited before and then posting the event (`Sound.settled_take`). So a provider that applies every
event as soon as it is posted is what can be seen whenever its worker is idle.
-/

namespace AccessStatus

/-- What a job noted, if the event says so. -/
def Event.logged? {α : Type} : Event α → Option α
  | .did (.logged entry) => some entry
  | _ => none

namespace Provider

/-- The job that applies an event in its turn. -/
def Post.job (event : Post) : Job Post := .log event .finish

/-- A provider and the message loop of its worker. -/
structure Backlog where
  provider : Provider
  worker : MessageLoop Post

/-- The worker applies some events, one after the other. -/
def applyAll (p : Provider) (config : ConfigSource) (live : Liveness)
    (shared : AvailabilityMonitor) : List Post → Outcome
  | [] => ⟨p, shared, .done, .none⟩
  | event :: rest =>
    let first := p.apply config live shared event
    let later := applyAll first.provider config live first.availability rest
    { later with effects := first.effects.append later.effects }

namespace Backlog

/-- Takes an event, which waits from then on. A loop that is shut down refuses it as a closed
provider does. -/
def take (b : Backlog) (event : Post) : Backlog × Answer :=
  match b.provider.accepts event with
  | .error e => (b, .refused e)
  | .ok _ =>
    match b.worker.send event.job with
    | (_, none) => (b, .refused (.providerClosed b.provider.slot))
    | (queued, some _) => ({ b with worker := queued }, .accepted)

/-- The worker goes on until nothing waits. -/
def settled (b : Backlog) (config : ConfigSource) (live : Liveness) (shared : AvailabilityMonitor) :
    Outcome :=
  b.provider.applyAll config live shared
    ((b.worker.record b.worker.untilIdle).filterMap Event.logged?)

/-- These events are still to be applied: the worker is between jobs, or about to apply the
first. -/
inductive Pending (l : MessageLoop Post) : List Post → Prop where
  | idle {events : List Post} (left : l.left = .finish)
    (queue : l.queue.map Prod.snd = events.map Post.job) : Pending l events
  | busy {event : Post} {events : List Post} (left : l.left = event.job)
    (queue : l.queue.map Prod.snd = events.map Post.job) : Pending l (event :: events)

/-- These events wait, and nothing else, and more are accepted exactly while the provider is
open. -/
structure Sound (b : Backlog) (events : List Post) : Prop where
  loop : b.worker.Sound
  pending : Pending b.worker events
  shutdown : b.worker.isShutdown = b.provider.isClosed

/-- In the beginning nothing waits. -/
theorem sound_fresh (slot : SlotIndex) (worker : String) :
    Sound ⟨.fresh slot worker, .spawn worker⟩ [] :=
  ⟨MessageLoop.sound_spawn worker, .idle rfl rfl, rfl⟩

end Backlog

/-! ## Applying events -/

section Apply

variable (p : Provider) (config : ConfigSource) (live : Liveness) (shared : AvailabilityMonitor)

/-- Events neither close a provider nor move it to another slot. -/
theorem frame_apply (event : Post) :
    (p.apply config live shared event).provider.slot = p.slot ∧
      (p.apply config live shared event).provider.isClosed = p.isClosed := by
  cases event <;> exact ⟨rfl, rfl⟩

/-- Applying posted events leaves the slot and whether the provider is closed. -/
theorem frame_applyAll (events : List Post) :
    (p.applyAll config live shared events).provider.slot = p.slot ∧
      (p.applyAll config live shared events).provider.isClosed = p.isClosed := by
  induction events generalizing p shared with
  | nil => exact ⟨rfl, rfl⟩
  | cons event rest ih =>
    obtain ⟨slot, isClosed⟩ := p.frame_apply config live shared event
    obtain ⟨later, laterClosed⟩ :=
      ih (p.apply config live shared event).provider (p.apply config live shared event).availability
    exact ⟨later.trans slot, laterClosed.trans isClosed⟩

/-- Effects come one after the other in whatever way they are grouped. -/
theorem Effects.append_assoc (first second third : Effects) :
    (first.append second).append third = first.append (second.append third) := by
  simp [Effects.append]

/-- No effects change nothing. -/
theorem Effects.append_none (first : Effects) : first.append .none = first := by
  simp [Effects.append, Effects.none]

/-- Nobody waits for what is posted, so there is nothing to answer. -/
theorem answer_applyAll (events : List Post) :
    (p.applyAll config live shared events).answer = .done := by
  induction events generalizing p shared with
  | nil => rfl
  | cons event rest ih => exact ih _ _

/-- The last of some events finds what the others have made of the provider. -/
theorem applyAll_concat (events : List Post) (event : Post) :
    p.applyAll config live shared (events ++ [event]) =
      let before := p.applyAll config live shared events
      let last := before.provider.apply config live before.availability event
      ⟨last.provider, last.availability, .done, before.effects.append last.effects⟩ := by
  induction events generalizing p shared with
  | nil => simp [applyAll, Effects.append, Effects.none]
  | cons first rest ih =>
    rw [List.cons_append, applyAll, ih]
    simp [applyAll, Effects.append_assoc]

end Apply

/-! ## Events that wait -/

namespace Backlog

/-- The worker notes the events that wait in the order in which they were taken. -/
theorem logged_of_steps {n : Nat} {l last : MessageLoop Post} {later : List (Event Post)}
    {events : List Post} (steps : MessageLoop.Steps n l later last) (halted : last.Halted)
    (sound : l.Sound) (pending : Pending l events) : later.filterMap Event.logged? = events := by
  induction steps generalizing events with
  | refl l =>
    obtain ⟨idle, received, -⟩ := sound.of_halted halted
    cases pending with
    | idle _ queue =>
      rw [MessageLoop.queue, received] at queue
      exact (List.map_eq_nil_iff.1 queue.symm).symm
    | busy left => cases idle.symm.trans left
  | @head n l next last event later step _ ih =>
    obtain ⟨turn, byWorker⟩ := MessageLoop.turn_of_next step
    have still := sound.turn turn
    have queues := (MessageLoop.balance_of_turn turn).jobs
    cases pending with
    | idle left queue =>
      cases turn with
      | offered | asked | shutDown => cases byWorker
      | @started number job rest _ _ received =>
        rw [(MessageLoop.waiting_of_received received).1] at queue
        obtain ⟨event, events, rfl, rfl, behind⟩ := List.map_eq_cons_iff.1 queue.symm
        exact ih halted still (.busy rfl behind.symm)
      | answered | stopped =>
        have same := (List.append_nil _).symm.trans queues
        exact ih halted still (.idle left ((congrArg (List.map Prod.snd) same).symm.trans queue))
      | submitted under | closed under => cases left.symm.trans under
      | alone under =>
        rw [left] at under
        cases under
    | @busy event events left queue =>
      -- the event is about to be noted, and then the worker is between jobs again
      cases turn with
      | offered | asked | shutDown => cases byWorker
      | started idle | answered idle | stopped idle => cases idle.symm.trans left
      | submitted under | closed under => cases left.symm.trans under
      | alone under =>
        rw [left] at under
        cases under
        exact congrArg (event :: ·) (ih halted still (.idle rfl queue))

section Take

variable {b : Backlog} {events : List Post} (sound : Sound b events)
include sound

/-- Settling applies the events that wait. -/
theorem Sound.settled_eq (config : ConfigSource) (live : Liveness)
    (shared : AvailabilityMonitor) :
    b.settled config live shared = b.provider.applyAll config live shared events := by
  obtain ⟨n, later, last, steps, halted⟩ := b.worker.exists_halted
  rw [settled, (steps.untilIdle halted).2,
    logged_of_steps steps halted sound.loop sound.pending]

/-- An event that is refused does not wait, and any other waits behind those that do. -/
theorem Sound.take (event : Post) :
    (∃ e, b.provider.accepts event = .error e ∧ b.take event = (b, .refused e)) ∨
      b.provider.accepts event = .ok () ∧ (b.take event).2 = .accepted ∧
        (b.take event).1.provider = b.provider ∧ Sound (b.take event).1 (events ++ [event]) := by
  unfold Backlog.take
  cases accepted : b.provider.accepts event with
  | error e => exact .inl ⟨e, rfl, rfl⟩
  | ok _ =>
    -- the provider is open, so its loop is not shut down
    have isOpen : b.provider.isClosed = false := isOpen_of_accepted accepted
    have up : ¬ b.worker.isShutdown = true := by simp [sound.shutdown, isOpen]
    have still := sound.loop.send event.job
    have queues := (b.worker.balance_send event.job).jobs
    have left := b.worker.left_send event.job
    unfold MessageLoop.send at still queues left ⊢
    rw [if_neg up] at still queues left ⊢
    refine .inr ⟨rfl, rfl, rfl, still, ?_, sound.shutdown⟩
    have behind {waiting : List Post} (queue : b.worker.queue.map Prod.snd = waiting.map Post.job) :
        (b.worker.queue ++ [(b.worker.accepted, event.job)]).map Prod.snd =
          (waiting ++ [event]).map Post.job := by
      rw [List.map_append, queue, List.map_append]
      rfl
    have later := (congrArg (List.map Prod.snd) queues).symm
    cases sound.pending with
    | idle under queue => exact .idle (left.trans under) (later.trans (behind queue))
    | busy under queue => exact .busy (left.trans under) (later.trans (behind queue))

/-- **An event that waits comes to the same as one that is applied at once.** Taken now and applied
in its turn, it is answered as if it were posted when all that waited has been applied, and leaves
the provider as it would then, with the same effects. -/
theorem Sound.settled_take (config : ConfigSource) (live : Liveness)
    (shared : AvailabilityMonitor) (event : Post) :
    let before := b.settled config live shared
    let posted := before.provider.post config live before.availability event
    (b.take event).2 = posted.answer ∧
      (b.take event).1.settled config live shared =
        ⟨posted.provider, posted.availability, .done, before.effects.append posted.effects⟩ := by
  intro before posted
  have settled : before = b.provider.applyAll config live shared events :=
    sound.settled_eq config live shared
  have accepts : before.provider.accepts event = b.provider.accepts event := by
    obtain ⟨slot, isClosed⟩ := b.provider.frame_applyAll config live shared events
    rw [settled]
    unfold Provider.accepts
    rw [slot, isClosed]
  have posting : posted = before.provider.post config live before.availability event := rfl
  unfold Provider.post at posting
  rw [accepts] at posting
  rcases sound.take event with ⟨e, refused, taken⟩ | ⟨accepted, answer, same, later⟩
  · rw [refused] at posting
    rw [taken, posting]
    refine ⟨rfl, ?_⟩
    have done : before.answer = .done :=
      settled ▸ b.provider.answer_applyAll config live shared events
    rw [Effects.append_none, ← done]
  · rw [accepted] at posting
    rw [answer, posting]
    refine ⟨rfl, ?_⟩
    rw [later.settled_eq, same, applyAll_concat, ← settled]

end Take

end Backlog

end Provider

end AccessStatus
