import AccessStatus.Proofs.Availability.Forgetting
import AccessStatus.Proofs.Availability.View
import AccessStatus.Proofs.Data.Members
import AccessStatus.Proofs.Ims.Subscription
import AccessStatus.Proofs.Stream.Stillness

/-!
# Closed monitors

Once a monitor of data connections, of IMS registration or of availability is closed, nobody is
registered with it and nothing is remembered, and that stays so: every request is answered from a
table that depends on the request alone (`closedAnswer`), changes nothing and sets nothing off. For
data connections this is said of what the monitor itself is asked. Its machines can be asked
directly, and they do not know whether the monitor is closed, so a run may do so only while it is
open. The main statement is `closed_monitors_silent`.
-/

namespace AccessStatus

/-! ## Empty registries -/

/-- There is nobody to remove from an empty registry. -/
theorem Registry.remove_of_empty {r : Registry} (nobody : r.subscriptions = []) (c : ConsumerId) :
    r.remove c = r := by
  obtain ⟨name, subscriptions⟩ := r
  obtain rfl : subscriptions = [] := nobody
  rfl

/-- An empty registry holds nobody. -/
theorem Registry.contains_of_empty {r : Registry} (nobody : r.subscriptions = []) (c : ConsumerId) :
    r.contains c = false := by
  rw [contains, nobody]
  rfl

/-- Setting a class to what it is changes nothing. -/
theorem PerClass.set_get {α : Type} (p : PerClass α) (c : TrafficClass) :
    p.set c (p.get c) = p := by
  cases c <;> rfl

/-! ## Data connections -/

namespace ConnectionMonitor

/-- The request is made to the machine of a class, past the monitor. -/
def Op.bypasses : Op → Bool
  | .machineReport .. | .machineRegister .. | .machineUnregister .. => true
  | .report .. | .register .. | .unregister .. | .close => false

/-- What a closed monitor of a slot answers to what it is asked itself. -/
def closedAnswer (slot : SlotIndex) : Op → Answer
  | .report .. => .event none
  | .register raw .. =>
    .refused (if (TrafficClass.ofRaw? raw).isSome then .providerClosed slot
      else .invalidTrafficClass raw)
  | .unregister raw _ =>
    if (TrafficClass.ofRaw? raw).isSome then .flag false else .refused (.invalidTrafficClass raw)
  | _ => .done

/-- Nobody is registered in any class, nothing is remembered of what happened, and whatever the
monitor is asked is answered, changes nothing and sends nothing. -/
structure Silent (slot : SlotIndex) (m : ConnectionMonitor) : Prop where
  nobody : ∀ c, (m.machines.get c).notifier.registry.subscriptions = []
  forgotten : ∀ c, (m.machines.get c).lastChange = none
  step : ∀ live op, op.bypasses = false → m.step live op = ⟨m, closedAnswer slot op, []⟩

/-- Whenever a run asks a machine past the monitor, the monitor is open. -/
def BypassesOpen (w : World ConnectionMonitor (TrafficClass × ConnectionChange)) :
    List (World.Act Op) → Prop
  | [] => True
  | act :: run =>
    (∀ op ∈ act.request?, op.bypasses = true → w.state.isClosed = false) ∧
      BypassesOpen (w.next serve act) run

/-! ### One request -/

/-- Only to be closed changes more of a monitor than its machines. -/
theorem monitor_step (m : ConnectionMonitor) (live : Liveness) {op : Op} (stays : op ≠ .close) :
    (m.step live op).monitor = { m with machines := (m.step live op).monitor.machines } := by
  cases op with
  | report c r =>
    unfold step
    dsimp only
    split <;> rfl
  | register raw c tag =>
    unfold step
    dsimp only
    split
    · rfl
    · split <;> rfl
  | unregister raw c =>
    unfold step
    dsimp only
    split <;> rfl
  | close => exact absurd rfl stays
  | machineReport c r | machineRegister cls c tag | machineUnregister cls c => rfl

/-- A connection monitor stays with its slot. -/
theorem slot_step (m : ConnectionMonitor) (live : Liveness) (op : Op) :
    (m.step live op).monitor.slot = m.slot := by
  by_cases closes : op = .close
  · subst closes
    show m.close.slot = m.slot
    unfold close
    split <;> rfl
  · rw [m.monitor_step live closes]

/-- An open monitor stays open until it is asked to close. -/
theorem isOpen_step {m : ConnectionMonitor} (isOpen : m.isClosed = false) (live : Liveness)
    {op : Op} (stays : op ≠ .close) :
    (m.step live op).monitor.isClosed = false := by
  rw [m.monitor_step live stays]
  exact isOpen

/-- Closing closes. -/
theorem isClosed_close (m : ConnectionMonitor) : m.close.isClosed = true := by
  unfold close
  split
  · assumption
  · rfl

/-- A monitor with which nobody is registered has nobody to remove. -/
theorem unregisterFrom_of_nobody {m : ConnectionMonitor}
    (nobody : ∀ c, (m.machines.get c).notifier.registry.subscriptions = []) (cls : TrafficClass)
    (c : ConsumerId) :
    m.unregisterFrom cls c = ⟨m, .flag false, []⟩ := by
  have same : (m.machines.get cls).unregister c = m.machines.get cls := by
    unfold ConnectionMachine.unregister Notifier.unregister
    rw [Registry.remove_of_empty (nobody cls) c]
  unfold unregisterFrom
  dsimp only
  rw [same, PerClass.set_get, Registry.contains_of_empty (nobody cls) c]

/-- A closed monitor with which nobody is registered and that remembers nothing is silent. -/
theorem silent_of_closed {slot : SlotIndex} {m : ConnectionMonitor} (own : m.slot = slot)
    (closed : m.isClosed = true)
    (nobody : ∀ c, (m.machines.get c).notifier.registry.subscriptions = [])
    (forgotten : ∀ c, (m.machines.get c).lastChange = none) : Silent slot m := by
  subst own
  refine ⟨nobody, forgotten, ?_⟩
  intro live op own
  cases op with
  | report c r => exact if_pos closed
  | register raw c tag =>
    unfold step resolve closedAnswer
    dsimp only
    cases TrafficClass.ofRaw? raw with
    | none => rfl
    | some cls => exact if_pos closed
  | unregister raw c =>
    unfold step resolve closedAnswer
    dsimp only
    cases TrafficClass.ofRaw? raw with
    | none => rfl
    | some cls => exact unregisterFrom_of_nobody nobody cls c
  | close =>
    have same : m.close = m := if_pos closed
    unfold step
    dsimp only
    rw [same]
    rfl
  | machineReport c r | machineRegister cls c tag | machineUnregister cls c => cases own

/-- To close a monitor that is open makes it silent. -/
theorem silent_close {m : ConnectionMonitor} (isOpen : m.isClosed = false) :
    Silent m.slot m.close := by
  have closing : m.close =
      { m with isClosed := true, machines := m.machines.map ConnectionMachine.clear } :=
    if_neg (by simp [isOpen])
  rw [closing]
  refine silent_of_closed rfl rfl (fun c => ?_) fun c => ?_
  · show ((m.machines.map ConnectionMachine.clear).get c).notifier.registry.subscriptions = []
    rw [PerClass.get_map]
    rfl
  · show ((m.machines.map ConnectionMachine.clear).get c).lastChange = none
    rw [PerClass.get_map]
    rfl

/-! ### Whole runs -/

/-- The monitor is of the slot, and silent if it is closed. -/
structure Settled (slot : SlotIndex) (m : ConnectionMonitor) : Prop where
  own : m.slot = slot
  silent : m.isClosed = true → Silent slot m

/-- Each request leaves a monitor settled, unless it reaches the machines of a closed one. -/
theorem Settled.step {slot : SlotIndex} {m : ConnectionMonitor} (settled : Settled slot m)
    (live : Liveness) {op : Op} (bypass : op.bypasses = true → m.isClosed = false) :
    Settled slot (m.step live op).monitor := by
  refine ⟨(slot_step m live op).trans settled.own, fun closed => ?_⟩
  cases before : m.isClosed with
  | true =>
    -- a closed monitor stays as it is
    have own : op.bypasses = false := by
      by_contra passes
      exact Bool.false_ne_true ((bypass (by simpa using passes)).symm.trans before)
    rw [(settled.silent before).step live op own]
    exact settled.silent before
  | false =>
    by_cases closes : op = .close
    · subst closes
      exact settled.own ▸ silent_close before
    · exact absurd (isOpen_step before live closes) (by simp [closed])

/-- So it does over a whole run. -/
theorem settled_after {slot : SlotIndex}
    {w : World ConnectionMonitor (TrafficClass × ConnectionChange)}
    (settled : Settled slot w.state) {run : List (World.Act Op)} (bypasses : BypassesOpen w run) :
    Settled slot (w.after serve run).state := by
  induction run generalizing w with
  | nil => exact settled
  | cons act run ih =>
    cases act with
    | ask op =>
      exact ih (w := w.next serve (.ask op))
        (settled.step w.room.live (bypasses.1 op rfl)) bypasses.2
    | happen e => exact ih (w := w.next serve (.happen e)) settled bypasses.2

/-- After the monitor is closed, what it is asked itself has no effect. -/
theorem silent_from_close (slot : SlotIndex) (room : Mailroom (TrafficClass × ConnectionChange))
    {before later : List (World.Act Op)} (bypasses : BypassesOpen (beginning slot room) before)
    (own : ∀ op ∈ World.asked later, op.bypasses = false) :
    let closed := ((beginning slot room).after serve before).next serve (.ask .close)
    World.Still serve id closed later ∧ Silent slot (closed.after serve later).state := by
  intro closed
  have settled : Settled slot ((beginning slot room).after serve before).state := by
    refine settled_after ⟨rfl, fun isClosed => ?_⟩ bypasses
    cases isClosed
  have silent : Silent slot closed.state := by
    have own : Op.close.bypasses = true →
        ((beginning slot room).after serve before).state.isClosed = false :=
      fun none => nomatch none
    exact (settled.step ((beginning slot room).after serve before).room.live own).silent
      (isClosed_close _)
  have still : World.Still serve id closed later := by
    refine World.still_of_ignores fun op asks => ?_
    intro m live same
    obtain rfl : m = closed.state := same
    show (closed.state.step live op).monitor = closed.state ∧ (closed.state.step live op).sent = []
    rw [silent.step live op (own op asks)]
    exact ⟨rfl, rfl⟩
  have same : (closed.after serve later).state = closed.state := still.state
  exact ⟨still, same ▸ silent⟩

end ConnectionMonitor

/-! ## IMS registration -/

namespace RegistrationMonitor

/-- What a closed monitor of a slot answers. -/
def closedAnswer (slot : SlotIndex) : Op → Answer
  | .register .. => .refused (.providerClosed slot)
  | .unregister _ => .flag false
  | .changed _ | .close => .done

/-- Nobody is registered, the monitor is not subscribed to the source, and whatever it is asked is
answered, changes nothing, sends nothing and asks nothing of the source. -/
structure Silent (slot : SlotIndex) (m : RegistrationMonitor) : Prop where
  nobody : m.notifier.registry.subscriptions = []
  unsubscribed : m.subscribed = false
  step : ∀ live op, m.step live op = ⟨m, closedAnswer slot op, [], []⟩

/-- A closed monitor is silent. -/
theorem InUse.silent_of_closed {m : RegistrationMonitor} (inUse : m.InUse)
    (closed : m.isClosed = true) : Silent m.slot m := by
  have nobody := inUse.closed closed
  refine ⟨nobody, (inUse.silent closed (fun _ => false) .close).1, fun live op => ?_⟩
  cases op with
  | register c tag => exact if_pos closed
  | unregister c => exact if_neg (by simp [Registry.contains_of_empty nobody])
  | changed r => exact if_pos closed
  | close =>
    have same : m.close = (m, []) := if_pos closed
    unfold RegistrationMonitor.step
    dsimp only
    rw [same]
    rfl

/-- After the monitor is closed, nothing that it is asked has an effect. -/
theorem silent_from_close (slot : SlotIndex) (room : Mailroom Registration)
    (before later : List (World.Act Op)) :
    let closed := ((beginning slot room).after serve before).next serve (.ask .close)
    World.Still serve id closed later ∧ Silent slot (closed.after serve later).state.monitor := by
  intro closed
  have settled := settled_after slot room before
  have silent : Silent slot closed.state.monitor := by
    have now := settled.step ((beginning slot room).after serve before).room.live .close
    exact now.own ▸ now.inUse.silent_of_closed (isClosed_close _)
  have still : World.Still serve id closed later := by
    refine World.still_of_ignores fun op _ => ?_
    intro a live same
    obtain rfl : a = closed.state := same
    have quiet := silent.step live op
    refine ⟨?_, congrArg Outcome.sent quiet⟩
    show Account.mk _ (_ ++ _) = closed.state
    rw [quiet, List.append_nil]
  have same : (closed.after serve later).state = closed.state := still.state
  exact ⟨still, same ▸ silent⟩

end RegistrationMonitor

/-! ## Availability -/

namespace AvailabilityMonitor

/-- A closed monitor, which knows of nothing and nobody. -/
def shut : AvailabilityMonitor := { fresh with isClosed := true }

/-- What a closed monitor answers. -/
def closedAnswer : Op → Answer
  | .unregister .. => .flag false
  | _ => .done

/-- Nothing was told about any slot, nobody is registered for one, and whatever the monitor is asked
is answered, changes nothing and sends nothing, however the configuration answers. -/
structure Silent (m : AvailabilityMonitor) : Prop where
  lastInfo : ∀ slot, m.lastInfo slot = none
  subscriberCount : ∀ slot, m.subscriberCount slot = 0
  step : ∀ config live op, m.step config live op = ⟨m, closedAnswer op, []⟩

/-- A monitor that is shut is silent. -/
theorem silent_shut : Silent shut := by
  refine ⟨fun _ => rfl, fun _ => rfl, fun config live op => ?_⟩
  cases op with
  | closeSlot slot =>
    have same : shut.closeSlot slot = shut :=
      eq_of_parts rfl (Table.erase_empty slot) (Table.erase_empty slot) rfl
    unfold step
    dsimp only
    rw [same]
    rfl
  | _ => rfl

theorem isClosed_close (m : AvailabilityMonitor) : m.close.isClosed = true := by
  unfold close
  split
  · assumption
  · rfl

/-- A monitor that is closed in the course of a run knows of nothing and nobody. -/
theorem eq_shut_after (config : ConfigSource) (room : Mailroom (SlotIndex × Availability))
    (run : List (World.Act Query))
    (closed : ((beginning config room).after serve run).state.monitor.isClosed = true) :
    ((beginning config room).after serve run).state.monitor = shut := by
  have kept : ∀ (s : Scene) live, ∀ query ∈ World.asked run,
    (s.monitor.isClosed = true → s.monitor = shut) →
      (serve s live query).1.monitor.isClosed = true → (serve s live query).1.monitor = shut := by
    intro s live query _ holds closed
    cases query with
    | configure source => exact holds closed
    | ask op =>
      cases before : s.monitor.isClosed with
      | true =>
        -- a closed monitor stays as it is
        have quiet := silent_shut.step s.config live op
        rw [← holds before] at quiet
        exact (congrArg Outcome.monitor quiet).trans (holds before)
      | false =>
        by_cases closes : op = .close
        · subst closes
          exact if_neg (by simp [before])
        · have isOpen := isOpen_next s.config live before closes
          exact absurd (isOpen.symm.trans closed) Bool.false_ne_true
  exact World.invariant_after (P := fun s : Scene => s.monitor.isClosed = true → s.monitor = shut)
    (fun none => nomatch none) kept
    closed

/-- After the monitor is closed, nothing that it is asked has an effect. -/
theorem silent_from_close (config : ConfigSource) (room : Mailroom (SlotIndex × Availability))
    (before later : List (World.Act Query)) :
    let closed := ((beginning config room).after serve before).next serve (.ask (.ask .close))
    World.Still serve Scene.monitor closed later ∧
      Silent (closed.after serve later).state.monitor := by
  intro closed
  have isShut : closed.state.monitor = shut := by
    have whole : closed = (beginning config room).after serve (before ++ [.ask (.ask .close)]) :=
      (World.after_concat _ _ _).symm
    rw [whole]
    refine eq_shut_after config room _ ?_
    rw [← whole]
    exact isClosed_close _
  have still : World.Still serve Scene.monitor closed later := by
    refine World.still_of_ignores fun query _ => ?_
    intro s live same
    cases query with
    | configure source => exact ⟨same, rfl⟩
    | ask op =>
      have quiet := silent_shut.step s.config live op
      rw [← isShut, ← same] at quiet
      exact ⟨(congrArg Outcome.monitor quiet).trans same, congrArg Outcome.sent quiet⟩
  have same : (closed.after serve later).state.monitor = shut := still.state.trans isShut
  exact ⟨still, same ▸ silent_shut⟩

end AvailabilityMonitor

/-! ## All of them -/

/-- **Closed monitors are silent.** Whatever happened before a monitor was closed and whatever is
asked of it afterwards, it stays as it is, sends nothing, asks nothing of the source of registration
status, has nobody to remove, and registers nobody: of data connections and of registration it says
that the provider is closed, or that the number is no class, and of availability it says nothing. -/
theorem closed_monitors_silent (slot : SlotIndex) (config : ConfigSource) :
    (∀ room before later,
      ConnectionMonitor.BypassesOpen (ConnectionMonitor.beginning slot room) before →
      (∀ op ∈ World.asked later, op.bypasses = false) →
      let closed :=
        ((ConnectionMonitor.beginning slot room).after ConnectionMonitor.serve before).next
        ConnectionMonitor.serve (.ask .close)
      World.Still ConnectionMonitor.serve id closed later ∧
        ConnectionMonitor.Silent slot (closed.after ConnectionMonitor.serve later).state) ∧
    (∀ room before later,
      let closed :=
        ((RegistrationMonitor.beginning slot room).after RegistrationMonitor.serve before).next
        RegistrationMonitor.serve (.ask .close)
      World.Still RegistrationMonitor.serve id closed later ∧
        RegistrationMonitor.Silent slot
          (closed.after RegistrationMonitor.serve later).state.monitor) ∧
    (∀ room before later,
      let closed :=
        ((AvailabilityMonitor.beginning config room).after AvailabilityMonitor.serve before).next
        AvailabilityMonitor.serve (.ask (.ask .close))
      World.Still AvailabilityMonitor.serve AvailabilityMonitor.Scene.monitor closed later ∧
        AvailabilityMonitor.Silent
          (closed.after AvailabilityMonitor.serve later).state.monitor) := by
  refine ⟨?_, ?_, ?_⟩
  · intro room before later bypasses own
    exact ConnectionMonitor.silent_from_close slot room bypasses own
  · exact RegistrationMonitor.silent_from_close slot
  · exact AvailabilityMonitor.silent_from_close config

namespace ConnectionMonitor

/-- Two consumers of the IMS connection, one of them registered with its machine directly, are told
that it is up. -/
def broughtUp : List (World.Act Op) :=
  [.ask (.register 64 ⟨0⟩ ⟨5⟩), .ask (.machineRegister .ims ⟨1⟩ ⟨6⟩),
    .ask (.report .ims ⟨.wwan, .connected, 0⟩)]

/-- Both try to go on, and the connection is lost. -/
def afterwards : List (World.Act Op) :=
  [.ask (.register 64 ⟨0⟩ ⟨7⟩), .ask (.report .ims ⟨.wwan, .disconnected, 3⟩),
    .happen (.takeAll ⟨0⟩), .ask (.unregister 64 ⟨1⟩),
    .ask .close]

/-- A combination of two classes is still called that, and not taken for a closed provider. -/
theorem closed_monitors_silent_broughtUp :
    let start := beginning ⟨0⟩ Mailroom.empty.openBox.openBox
    let closed := (start.after serve broughtUp).next serve (.ask .close)
    let change : TrafficClass × ConnectionChange := (.ims, ⟨.connected, .connected, .wwan, 0⟩)
    BypassesOpen start broughtUp ∧ (∀ op ∈ World.asked afterwards, op.bypasses = false) ∧
      start.sent serve broughtUp =
        [⟨⟨0⟩, ⟨⟨5⟩, none, change, none⟩⟩, ⟨⟨1⟩, ⟨⟨6⟩, none, change, none⟩⟩] ∧
      World.Still serve id closed afterwards ∧ Silent ⟨0⟩ (closed.after serve afterwards).state ∧
      ∀ live, ((closed.after serve afterwards).state.step live (.register 576 ⟨0⟩ ⟨5⟩)).answer =
        .refused (.invalidTrafficClass 576) := by
  intro start closed change
  have bypasses : BypassesOpen start broughtUp := by
    refine ⟨fun _ _ _ => rfl, fun _ _ _ => rfl, fun _ _ _ => rfl, trivial⟩
  have own : ∀ op ∈ World.asked afterwards, op.bypasses = false := by decide
  obtain ⟨connections, -, -⟩ :=
    closed_monitors_silent ⟨0⟩ ⟨none, fun _ => none, fun _ => false, fun _ => false⟩
  obtain ⟨still, silent⟩ :=
    connections Mailroom.empty.openBox.openBox broughtUp afterwards bypasses own
  refine ⟨bypasses, own, by decide, still, silent, fun live => ?_⟩
  rw [silent.step live _ rfl]
  rfl

end ConnectionMonitor

end AccessStatus
