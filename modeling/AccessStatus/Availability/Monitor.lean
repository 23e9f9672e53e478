import AccessStatus.Answer
import AccessStatus.Availability.Basic
import AccessStatus.Stream.Notifier
import AccessStatus.Table

/-!
# Availability monitors

One monitor watches the default network and tells, for each slot, whether the slot's calls can run
over it. A slot is evaluated once somebody has registered for it; what was reported about it before
counts all the same. An equal value is never sent twice, but a loss is announced in any case.
-/

namespace AccessStatus

/-- Slots are ordered by their index. -/
instance : Ranked SlotIndex where
  rank slot := slot.value.toNat
  rank_inj {a b} h := by
    cases a
    cases b
    exact congrArg SlotIndex.mk (UInt8.toNat_inj.1 h)

/-- Those who want to know of a slot, and the value they were told last. -/
structure SlotContext where
  registry : Registry
  gate : Gate Availability
  deriving DecidableEq

namespace SlotContext

/-- Nobody was told anything. -/
def fresh : SlotContext := ⟨.empty "iwlan_availability", .empty⟩

/-- Takes a newly found value. A loss to be announced is remembered and sent with the announcement
in any case, any other value only when it differs from the last. -/
def take (c : SlotContext) (live : Liveness) (edge : Bool) (a : Availability) :
    SlotContext × List (Delivery Availability) :=
  if edge then
    (⟨c.registry.sweep live, c.gate.force a⟩, c.registry.broadcast live a.withDisabledEdge none)
  else
    let (gate, accepted) := c.gate.offer a
    if accepted then (⟨c.registry.sweep live, gate⟩, c.registry.broadcast live a none) else (c, [])

/-- Registers a consumer, for whom `a` is the value now: if it differs from the last one all are
told, else the consumer alone is told the last one. -/
def register (ctx : SlotContext) (live : Liveness) (c : ConsumerId) (tag : Tag) (a : Availability) :
    SlotContext × List (Delivery Availability) :=
  let registry := ctx.registry.addUnique ⟨c, tag, none⟩
  let (gate, accepted) := ctx.gate.offer a
  if accepted then (⟨registry.sweep live, gate⟩, registry.broadcast live a none)
  else
    (⟨registry, gate⟩,
      match gate.current with
      | none => []
      | some last => (registry.replay live c last).toList)

end SlotContext

/-- The default network, what is reported about each slot, and those who want to know. -/
structure AvailabilityMonitor where
  network : Option DefaultNetwork
  inputs : Table SlotIndex SlotInputs
  contexts : Table SlotIndex SlotContext
  isClosed : Bool

namespace AvailabilityMonitor

/-- No network, no reports, no consumers. -/
def fresh : AvailabilityMonitor := ⟨none, .empty, .empty, false⟩

/-- What is reported about a slot. -/
def inputsOf (m : AvailabilityMonitor) (slot : SlotIndex) : SlotInputs :=
  (m.inputs.get? slot).getD default

/-- The availability of a slot now. -/
def compute (m : AvailabilityMonitor) (config : ConfigSource) (slot : SlotIndex) : Availability :=
  availability config m.network (m.inputsOf slot) slot

/-- The value that was last told about a slot. -/
def lastInfo (m : AvailabilityMonitor) (slot : SlotIndex) : Option Availability :=
  (m.contexts.get? slot).bind fun c => c.gate.current

/-- Number of registrations for a slot. -/
def subscriberCount (m : AvailabilityMonitor) (slot : SlotIndex) : Nat :=
  match m.contexts.get? slot with
  | some c => c.registry.size
  | none => 0

/-- Evaluates a slot whose context is `c`. -/
def evaluateContext (m : AvailabilityMonitor) (config : ConfigSource) (live : Liveness)
    (trigger : Trigger) (slot : SlotIndex) (c : SlotContext) :
    SlotContext × List (Delivery Availability) :=
  let a := m.compute config slot
  c.take live (raisesEdge config trigger slot a) a

/-- Evaluates one slot, if somebody has registered for it. -/
def evaluateSlot (m : AvailabilityMonitor) (config : ConfigSource) (live : Liveness)
    (slot : SlotIndex) : AvailabilityMonitor × List (Delivery (SlotIndex × Availability)) :=
  match m.contexts.get? slot with
  | none => (m, [])
  | some c =>
    let (next, sent) := m.evaluateContext config live .update slot c
    ({ m with contexts := m.contexts.set slot next }, sent.map (·.map (Prod.mk slot)))

/-- Evaluates all slots for which somebody has registered, in order. -/
def evaluateAll (m : AvailabilityMonitor) (config : ConfigSource) (live : Liveness)
    (trigger : Trigger) : AvailabilityMonitor × List (Delivery (SlotIndex × Availability)) :=
  ({ m with contexts := m.contexts.mapEntries fun slot c =>
    (m.evaluateContext config live trigger slot c).1 },
    m.contexts.entries.flatMap fun x =>
      (m.evaluateContext config live trigger x.1 x.2).2.map (·.map (Prod.mk x.1)))

/-- Takes a report about the default network. -/
def networkChanged (m : AvailabilityMonitor) (config : ConfigSource) (live : Liveness)
    (event : NetworkEvent) : AvailabilityMonitor × List (Delivery (SlotIndex × Availability)) :=
  match DefaultNetwork.after m.network event with
  | none => (m, [])
  | some next => { m with network := next }.evaluateAll config live (classify m.network next)

/-- Changes what is reported about a slot and evaluates it. -/
def inputChanged (m : AvailabilityMonitor) (config : ConfigSource) (live : Liveness)
    (slot : SlotIndex) (inputs : SlotInputs) :
    AvailabilityMonitor × List (Delivery (SlotIndex × Availability)) :=
  { m with inputs := m.inputs.set slot inputs }.evaluateSlot config live slot

/-- Registers a consumer for a slot. -/
def register (m : AvailabilityMonitor) (config : ConfigSource) (live : Liveness)
    (slot : SlotIndex) (c : ConsumerId) (tag : Tag) :
    AvailabilityMonitor × List (Delivery (SlotIndex × Availability)) :=
  let context := (m.contexts.get? slot).getD .fresh
  let (next, sent) := context.register live c tag (m.compute config slot)
  ({ m with contexts := m.contexts.set slot next }, sent.map (·.map (Prod.mk slot)))

/-- Removes a consumer from a slot. -/
def unregister (m : AvailabilityMonitor) (slot : SlotIndex) (c : ConsumerId) :
    AvailabilityMonitor × Bool :=
  match m.contexts.get? slot with
  | none => (m, false)
  | some context =>
    ({ m with
      contexts := m.contexts.set slot { context with registry := context.registry.remove c } },
      context.registry.contains c)

/-- Forgets a slot: its consumers, what they were told, and what was reported about it. -/
def closeSlot (m : AvailabilityMonitor) (slot : SlotIndex) : AvailabilityMonitor :=
  { m with inputs := m.inputs.erase slot, contexts := m.contexts.erase slot }

/-- Forgets everything, and takes nothing from now on. -/
def close (m : AvailabilityMonitor) : AvailabilityMonitor :=
  if m.isClosed then m else { fresh with isClosed := true }

/-- What can be asked of an availability monitor. -/
inductive Op where
  | network (event : NetworkEvent)
  | registered (slot : SlotIndex) (yes : Bool)
  | crossSim (slot : SlotIndex) (enabled : Bool)
  | configChanged
  | register (slot : SlotIndex) (c : ConsumerId) (tag : Tag)
  | unregister (slot : SlotIndex) (c : ConsumerId)
  | closeSlot (slot : SlotIndex)
  | close

/-- The result of one request: the monitor after it, the answer, and what consumers were sent, each
value with the slot it is about. -/
structure Outcome where
  monitor : AvailabilityMonitor
  answer : Answer
  sent : List (Delivery (SlotIndex × Availability))

/-- A change that is ignored once the monitor is closed. -/
def unlessClosed (m : AvailabilityMonitor)
    (change : AvailabilityMonitor × List (Delivery (SlotIndex × Availability))) : Outcome :=
  if m.isClosed then ⟨m, .done, []⟩ else ⟨change.1, .done, change.2⟩

/-- Carries out one request, with the configuration as it answers at that moment. -/
def step (m : AvailabilityMonitor) (config : ConfigSource) (live : Liveness) : Op → Outcome
  | .network event => m.unlessClosed (m.networkChanged config live event)
  | .registered slot yes =>
    m.unlessClosed (m.inputChanged config live slot { m.inputsOf slot with registered := yes })
  | .crossSim slot enabled =>
    m.unlessClosed (m.inputChanged config live slot
      { m.inputsOf slot with crossSim := some enabled })
  | .configChanged => m.unlessClosed (m.evaluateAll config live .update)
  | .register slot c tag => m.unlessClosed (m.register config live slot c tag)
  | .unregister slot c =>
    let (next, found) := m.unregister slot c
    ⟨next, .flag found, []⟩
  | .closeSlot slot => ⟨m.closeSlot slot, .done, []⟩
  | .close => ⟨m.close, .done, []⟩

/-- The inspection text. -/
def inspect (m : AvailabilityMonitor) : String :=
  Text.record "IwlanAvailabilityTracker"
    [("network", Text.optional (m.network.map DefaultNetwork.inspect)),
     ("slots", Text.list (m.contexts.keys.map SlotIndex.inspect)), ("closed", Text.bool m.isClosed)]

end AvailabilityMonitor

end AccessStatus
