import AccessStatus.Proofs.Availability.Isolation
import AccessStatus.Proofs.Call.Streams
import AccessStatus.Proofs.Call.Thresholds
import AccessStatus.Proofs.Data.Members
import AccessStatus.Proofs.Ims.Subscription
import AccessStatus.Provider.Directory

/-!
# Providers keep to their slot

As long as each consumer registers for one slot only, all that a provider does is about its slot:
the consumers registered with its monitors and the consumers it reaches are the slot's own, and so
are the thresholds it pushes and its requests to the source of registration status (`Belongs.step`).
Of the shared monitor a provider asks at most one thing, about its slot (`Provider.asks`).
-/

namespace AccessStatus

/-! ## Who is registered with the monitors of a slot -/

namespace RegistrationMonitor

/-- The consumer that a request registers. -/
def Op.registers : Op → Option ConsumerId
  | .register c _ => some c
  | _ => none

variable {P : ConsumerId → Prop} {m : RegistrationMonitor}

/-- Whatever is asked, all who are registered keep a property that those who register have, and only
they are reached. -/
theorem within_step (within : m.notifier.registry.Within P) (live : Liveness) {op : Op}
    (own : ∀ c, op.registers = some c → P c) :
    (m.step live op).monitor.notifier.registry.Within P ∧ Reaches live P (m.step live op).sent := by
  -- a release sweeps, so it keeps whoever is left
  have released {n : RegistrationMonitor} (members : n.notifier.registry.Within P) :
      (n.releaseIfUnused live).1.notifier.registry.Within P := by
    rw [notifier_releaseIfUnused]
    exact members.sweep live
  cases op with
  | register c tag =>
    unfold step
    dsimp only
    split
    · exact ⟨within, reaches_nil⟩
    · exact Notifier.within_registerWithReplay within live (own c rfl) tag
  | unregister c =>
    unfold step
    dsimp only
    split
    · exact ⟨released (within.remove c), reaches_nil⟩
    · exact ⟨within, reaches_nil⟩
  | changed r =>
    unfold step
    dsimp only
    split
    · exact ⟨within, reaches_nil⟩
    · obtain ⟨kept, reaches⟩ := Notifier.within_publishIfChanged within live r
      exact ⟨released kept, reaches⟩
  | close =>
    refine ⟨?_, reaches_nil⟩
    show m.close.1.notifier.registry.Within P
    unfold close
    split
    · exact within
    · exact Registry.within_clear _

/-- The source is asked about the monitor's slot only. -/
theorem slot_of_call (m : RegistrationMonitor) (live : Liveness) (op : Op) {call : SourceCall}
    (made : call ∈ (m.step live op).calls) : call.slot = m.slot := by
  have change : (m.step live op).calls =
      SourceCall.change m.slot m.subscribed (m.step live op).monitor.subscribed :=
    m.calls_step live op
  rw [change] at made
  exact SourceCall.slot_of_change made

end RegistrationMonitor

namespace CallMonitor

variable (m : CallMonitor) (live : Liveness)

/-- A monitor stays with its slot, and pushes thresholds for that slot only. -/
theorem slot_step (connected : TrafficClass → Bool) (op : Op) :
    (m.step live connected op).monitor.slot = m.slot ∧
      ∀ push ∈ (m.step live connected op).pushed, push.slot = m.slot := by
  refine ⟨(m.keeps_next ⟨live, connected, op⟩).1, fun push made => ?_⟩
  cases op with
  | update event =>
    -- a report pushes what was remembered for this slot
    have given : ∀ push ∈ m.thresholdsFor event, push.slot = m.slot := by
      intro push made
      unfold thresholdsFor at made
      split at made
      · obtain ⟨r, -, rfl⟩ := List.mem_map.1 made
        rfl
      · cases made
    unfold step at made
    dsimp only at made
    split at made
    · cases made
    · exact given push made
  | requestThresholds r =>
    unfold step at made
    dsimp only at made
    split at made
    · cases made
    · obtain ⟨call, -, rfl⟩ := List.mem_map.1 made
      rfl
  | registerMedia raw c tag | unregisterMedia raw c =>
    unfold step at made
    dsimp only at made
    split at made <;> cases made
  | poorMedia r => cases made
  | preferTransport transport => cases made
  | tryWfc trying => cases made
  | register stream c tag => cases made
  | unregister stream c => cases made
  | close => cases made

end CallMonitor

/-! ## Providers -/

/-- All that is set off concerns one slot, whose consumers have the property. -/
structure Effects.Keep (live : Liveness) (P : ConsumerId → Prop) (slot : SlotIndex) (e : Effects) :
    Prop where
  sent : Reaches live P e.sent
  pushed : ∀ push ∈ e.pushed, push.slot = slot
  calls : ∀ call ∈ e.calls, call.slot = slot

section Keep

variable {live : Liveness} {P : ConsumerId → Prop} {slot : SlotIndex}

/-- Nothing but notifications is set off. -/
theorem Effects.keep_sent {sent : List (Delivery Notice)} (reaches : Reaches live P sent) :
    (Effects.mk sent [] []).Keep live P slot := by
  refine ⟨reaches, ?_, ?_⟩
  · intro push made
    cases made
  · intro call made
    cases made

/-- Nothing but requests to the source is set off. -/
theorem Effects.keep_calls {calls : List SourceCall} (own : ∀ call ∈ calls, call.slot = slot) :
    (Effects.mk [] [] calls).Keep live P slot := by
  refine ⟨reaches_nil, ?_, own⟩
  intro push made
  cases made

/-- Nothing sent and nothing called keeps within every slot. -/
theorem Effects.keep_none : Effects.none.Keep live P slot := keep_sent reaches_nil

end Keep

namespace Provider

/-- A provider is its slot's, and so are its monitors; all consumers that are registered with them
have the property. -/
structure Belongs (P : ConsumerId → Prop) (home : SlotIndex) (p : Provider) : Prop where
  slot : p.slot = home
  callsSlot : p.calls.slot = home
  sourceSlot : p.registration.slot = home
  calls : p.calls.Within P
  connections : p.connections.Within P
  registration : p.registration.notifier.registry.Within P

/-- A provider that was just built has nobody registered. -/
theorem belongs_fresh {P : ConsumerId → Prop} (slot : SlotIndex) (worker : String) :
    (fresh slot worker).Belongs P slot where
  slot := rfl
  callsSlot := rfl
  sourceSlot := rfl
  calls := CallMonitor.within_fresh slot
  connections := ConnectionMonitor.within_fresh slot
  registration := Registry.within_empty _

/-- The consumer that a request registers. -/
def Op.registers : Op → Option ConsumerId
  | .calls o => o.registers
  | .connections o => o.registers
  | .registration o => o.registers
  | .post _ | .flush | .close => none

/-- What a request makes a provider ask of the shared monitor, if anything. -/
def asks (p : Provider) : Op → Option AvailabilityMonitor.Op
  | .post (.registered yes) => if p.isClosed then none else some (.registered p.slot yes)
  | .post (.crossSim enabled) => if p.isClosed then none else some (.crossSim p.slot enabled)
  | .close => if p.isClosed then none else some (.closeSlot p.slot)
  | _ => none

/-- The shared monitor is asked about the provider's slot, not to close and not to register
anybody. -/
theorem slot_of_asks {p : Provider} {o : Op} {q : AvailabilityMonitor.Op}
    (asked : p.asks o = some q) :
    q.slot? = some p.slot ∧ q ≠ .close ∧ ∀ slot c tag, q ≠ .register slot c tag := by
  unfold asks at asked
  split at asked
  · split at asked
    · cases asked
    · obtain rfl := Option.some.inj asked
      exact ⟨rfl, by simp, by simp⟩
  · split at asked
    · cases asked
    · obtain rfl := Option.some.inj asked
      exact ⟨rfl, by simp, by simp⟩
  · split at asked
    · cases asked
    · obtain rfl := Option.some.inj asked
      exact ⟨rfl, by simp, by simp⟩
  · cases asked

/-- A provider that refuses an event asks nothing for it. -/
theorem asks_of_refused {p : Provider} {event : Post} {e : StatusError}
    (refused : p.accepts event = .error e) :
    p.asks (.post event) = none := by
  cases event with
  | registered yes | crossSim enabled =>
    cases closed : p.isClosed with
    | true => simp [asks, closed]
    | false => simp [accepts, checkPost, closed] at refused
  | _ => rfl

/-- Only an open provider accepts a post. -/
theorem isOpen_of_accepted {p : Provider} {event : Post} (accepted : p.accepts event = .ok ()) :
    p.isClosed = false := by
  unfold accepts at accepted
  split at accepted
  · cases accepted
  · cases closed : p.isClosed with
    | true => simp [closed] at accepted
    | false => rfl

section Step

variable (p : Provider) (config : ConfigSource) (live : Liveness) (shared : AvailabilityMonitor)

/-- What becomes of a provider, its answer, its pushes and its requests to the source do not depend
on the shared monitor; the shared monitor is asked what the provider asks, and if so, what is sent
comes from there. -/
theorem step_eq (o : Op) :
    p.step config live shared o =
      { p.step config live .fresh o with
        availability := (p.asks o).elim shared (shared.next config live)
        effects :=
          { (p.step config live .fresh o).effects with
            sent := (p.asks o).elim (p.step config live .fresh o).effects.sent fun q =>
              (Effects.ofAvailability (shared.step config live q).sent).sent } } := by
  cases o with
  | post event =>
    unfold step
    dsimp only
    unfold post
    cases h : p.accepts event with
    | error e =>
      rw [asks_of_refused h]
      rfl
    | ok _ =>
      -- a provider that takes an event is open, so it asks of the shared monitor what the event
      -- calls for
      have isOpen := isOpen_of_accepted h
      cases event with
      | registered yes | crossSim enabled =>
        simp only [asks, isOpen]
        rfl
      | _ => rfl
  | flush => rfl
  | close =>
    unfold step close asks
    cases p.isClosed <;> rfl
  | calls o => rfl
  | connections o => rfl
  | registration o => rfl

end Step

section Belongs

variable {P : ConsumerId → Prop} {home : SlotIndex} {p : Provider} (live : Liveness)
  (shared : AvailabilityMonitor)

/-- What a provider is asked leaves it with its slot, and sets off only what concerns the slot. -/
def StaysHome (P : ConsumerId → Prop) (home : SlotIndex) (live : Liveness) (outcome : Outcome) :
    Prop :=
  outcome.provider.Belongs P home ∧ outcome.effects.Keep live P home

/-- What is done to the calls stays with the consumers of the slot. -/
theorem Belongs.onCalls (belongs : p.Belongs P home) {o : CallMonitor.Op}
    (own : ∀ c, o.registers = some c → P c) :
    StaysHome P home live (p.onCalls live shared o) := by
  obtain ⟨within, reaches⟩ := belongs.calls.step live p.connections.isConnected own
  obtain ⟨slot, pushed⟩ := p.calls.slot_step live p.connections.isConnected o
  rw [belongs.callsSlot] at slot pushed
  exact ⟨⟨belongs.slot, slot, belongs.sourceSlot, within, belongs.connections,
    belongs.registration⟩,
    ⟨reaches.map _, pushed, fun _ made => nomatch made⟩⟩

/-- So does what is done to the data connections. -/
theorem Belongs.onConnections (belongs : p.Belongs P home) {o : ConnectionMonitor.Op}
    (own : ∀ c, o.registers = some c → P c) :
    StaysHome P home live (p.onConnections live shared o) := by
  obtain ⟨within, reaches⟩ := belongs.connections.step live own
  exact ⟨⟨belongs.slot, belongs.callsSlot, belongs.sourceSlot, belongs.calls, within,
    belongs.registration⟩, Effects.keep_sent (reaches.map _)⟩

/-- So does what is done to the registration, and the source calls are about the slot. -/
theorem Belongs.onRegistration (belongs : p.Belongs P home) {o : RegistrationMonitor.Op}
    (own : ∀ c, o.registers = some c → P c) :
    StaysHome P home live (p.onRegistration live shared o) := by
  obtain ⟨within, reaches⟩ := RegistrationMonitor.within_step belongs.registration live own
  have slot : (p.registration.step live o).monitor.slot = home := by
    rw [RegistrationMonitor.slot_step, belongs.sourceSlot]
  have calls : ∀ call ∈ (p.registration.step live o).calls, call.slot = home := by
    intro call made
    rw [p.registration.slot_of_call live o made, belongs.sourceSlot]
  exact ⟨⟨belongs.slot, belongs.callsSlot, slot, belongs.calls, belongs.connections, within⟩,
    ⟨reaches.map _, (fun _ made => nomatch made), calls⟩⟩

/-- Closing registers nobody, and asks the source about this slot only. -/
theorem Belongs.closed (belongs : p.Belongs P home) :
    p.closed.1.Belongs P home ∧ ∀ call ∈ p.closed.2, call.slot = home := by
  have released :=
    belongs.onRegistration (fun _ => false) .fresh (o := .close) (fun _ none => nomatch none)
  obtain ⟨after, calls⟩ := released
  unfold Provider.closed
  split
  · exact ⟨belongs, fun _ made => nomatch made⟩
  · refine ⟨⟨belongs.slot, ?_, after.sourceSlot, ?_, belongs.connections.close, after.registration⟩,
      calls.calls⟩
    · exact ((p.calls.slot_step (fun _ => false) (fun _ => false) .close).1).trans belongs.callsSlot
    · have nobody : ∀ c, CallMonitor.Op.registers .close = some c → P c :=
        fun _ none => nomatch none
      exact (belongs.calls.step (fun _ => false) (fun _ => false) nobody).1

end Belongs

section Housed

variable {owner : ConsumerId → SlotIndex} {home : SlotIndex} {p : Provider}
  {shared : AvailabilityMonitor}
  (config : ConfigSource) (live : Liveness)

/-- What is asked of a shared monitor about a slot reaches the slot's own consumers only. -/
theorem keep_ofAvailability (housed : shared.Housed owner) (isOpen : shared.isClosed = false)
    {q : AvailabilityMonitor.Op} (mine : q.slot? = some home)
    (own : ∀ slot c tag, q = .register slot c tag → owner c = slot) :
    (Effects.ofAvailability (shared.step config live q).sent).Keep live (owner · = home) home := by
  obtain ⟨-, homes⟩ := housed.step isOpen config live own
  have reaches : Reaches live (owner · = home) (shared.step config live q).sent := by
    intro d sent
    obtain ⟨alive, owned⟩ := homes d sent
    exact ⟨alive, owned.trans (AvailabilityMonitor.slot_of_sent isOpen mine sent)⟩
  exact Effects.keep_sent (reaches.map _)

/-- The shared monitor reaches consumers of the slot only, when it is asked about that slot. -/
theorem Belongs.onAvailability (belongs : p.Belongs (owner · = home) home)
    (housed : shared.Housed owner) (isOpen : shared.isClosed = false) {q : AvailabilityMonitor.Op}
    (mine : q.slot? = some home) (nobody : ∀ slot c tag, q ≠ .register slot c tag) :
    StaysHome (owner · = home) home live (p.onAvailability config live shared q) :=
  ⟨belongs, keep_ofAvailability config live housed isOpen mine fun slot c tag same =>
    absurd same (nobody slot c tag)⟩

/-- Whatever a provider is asked for consumers of its slot, it stays with its slot and sets off only
what concerns it. -/
theorem Belongs.step (belongs : p.Belongs (owner · = home) home) (housed : shared.Housed owner)
    (isOpen : shared.isClosed = false) {o : Op} (own : ∀ c, o.registers = some c → owner c = home) :
    StaysHome (owner · = home) home live (p.step config live shared o) := by
  cases o with
  | post event =>
    unfold Provider.step
    dsimp only
    unfold post
    cases h : p.accepts event with
    | error e => exact ⟨belongs, Effects.keep_none⟩
    | ok _ =>
      have nobody : ∀ c, none = some c → owner c = home := fun _ none => nomatch none
      have mine : some p.slot = some home := congrArg some belongs.slot
      cases event with
      | call event => exact belongs.onCalls live shared nobody
      | report c r => exact belongs.onConnections live shared nobody
      | poorMedia r => exact belongs.onCalls live shared nobody
      | requestThresholds r => exact belongs.onCalls live shared nobody
      | preferTransport t => exact belongs.onCalls live shared nobody
      | tryWfc trying => exact belongs.onCalls live shared nobody
      | registration r => exact belongs.onRegistration live shared nobody
      -- only these two events reach the shared monitor
      | registered yes =>
        exact belongs.onAvailability config live housed isOpen (q := .registered p.slot yes) mine
          (by simp)
      | crossSim enabled =>
        exact belongs.onAvailability config live housed isOpen (q := .crossSim p.slot enabled) mine
          (by simp)
  | flush => exact ⟨belongs, Effects.keep_none⟩
  | close =>
    obtain ⟨after, calls⟩ := belongs.closed
    exact ⟨after, Effects.keep_calls calls⟩
  | calls o => exact belongs.onCalls live shared own
  | connections o => exact belongs.onConnections live shared own
  | registration o => exact belongs.onRegistration live shared own

end Housed

end Provider

end AccessStatus
