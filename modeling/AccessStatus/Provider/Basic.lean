import AccessStatus.Availability.Monitor
import AccessStatus.Call.Monitor
import AccessStatus.Data.Monitor
import AccessStatus.Ims.Monitor

/-!
# Slot providers

A provider bundles the monitors of one slot. Events for the slot are posted to it and applied one by
one by its worker; the availability monitor, which concerns every slot, is shared, so a post takes
it and gives it back. A closed provider refuses every post.
-/

namespace AccessStatus

/-- What a consumer of any stream is told. -/
inductive Notice where
  | call (n : CallNotice)
  | connection (c : TrafficClass) (change : ConnectionChange)
  | registration (r : Registration)
  | availability (slot : SlotIndex) (a : Availability)
  deriving DecidableEq

/-- What a request sets off outside: notifications, thresholds for the media stack, and requests to
the source of registration status, each in order. -/
structure Effects where
  sent : List (Delivery Notice)
  pushed : List ThresholdPush
  calls : List SourceCall

namespace Effects

/-- Nothing is set off. -/
def none : Effects := ⟨[], [], []⟩

/-- Only notifications about availability are sent. -/
def ofAvailability (sent : List (Delivery (SlotIndex × Availability))) : Effects :=
  ⟨sent.map (·.map fun (slot, a) => .availability slot a), [], []⟩

/-- First the one, then the other. -/
def append (first second : Effects) : Effects :=
  ⟨first.sent ++ second.sent, first.pushed ++ second.pushed, first.calls ++ second.calls⟩

end Effects

/-- The monitors of one slot behind one worker. -/
structure Provider where
  slot : SlotIndex
  /-- Name of the worker's thread. -/
  worker : String
  calls : CallMonitor
  connections : ConnectionMonitor
  registration : RegistrationMonitor
  isClosed : Bool

namespace Provider

/-- A provider whose monitors know nothing yet. -/
def fresh (slot : SlotIndex) (worker : String) : Provider :=
  ⟨slot, worker, .fresh slot, .fresh slot, .fresh slot, false⟩

/-- An event for the slot. -/
inductive Post where
  | call (event : CallEvent)
  | report (c : TrafficClass) (r : ConnectionReport)
  | poorMedia (r : PoorMedia)
  | requestThresholds (r : ThresholdRequest)
  | preferTransport (t : Transport)
  | tryWfc (trying : Bool)
  | registration (r : Registration)
  | registered (yes : Bool)
  | crossSim (enabled : Bool)

/-- What can be asked of a provider: to take an event, to wait for those it took, to close, or
something of one of its monitors directly. -/
inductive Op where
  | post (p : Post)
  | flush
  | close
  | calls (o : CallMonitor.Op)
  | connections (o : ConnectionMonitor.Op)
  | registration (o : RegistrationMonitor.Op)

/-- The result of one request: the provider and the shared monitor after it, the answer, and what it
set off. -/
structure Outcome where
  provider : Provider
  availability : AvailabilityMonitor
  answer : Answer
  effects : Effects

/-- Asks the call monitor, which looks at the provider's own data connections. -/
def onCalls (p : Provider) (live : Liveness) (shared : AvailabilityMonitor) (o : CallMonitor.Op) :
    Outcome :=
  let result := p.calls.step live p.connections.isConnected o
  ⟨{ p with calls := result.monitor }, shared, result.answer,
    ⟨result.sent.map (·.map .call), result.pushed, []⟩⟩

/-- Asks the data connection monitor. -/
def onConnections (p : Provider) (live : Liveness) (shared : AvailabilityMonitor)
    (o : ConnectionMonitor.Op) : Outcome :=
  let result := p.connections.step live o
  ⟨{ p with connections := result.monitor }, shared, result.answer,
    ⟨result.sent.map (·.map fun (c, change) => .connection c change), [], []⟩⟩

/-- Asks the registration monitor. -/
def onRegistration (p : Provider) (live : Liveness) (shared : AvailabilityMonitor)
    (o : RegistrationMonitor.Op) : Outcome :=
  let result := p.registration.step live o
  ⟨{ p with registration := result.monitor }, shared, result.answer,
    ⟨result.sent.map (·.map .registration), [], result.calls⟩⟩

/-- Asks the shared availability monitor. -/
def onAvailability (p : Provider) (config : ConfigSource) (live : Liveness)
    (shared : AvailabilityMonitor) (o : AvailabilityMonitor.Op) : Outcome :=
  let result := shared.step config live o
  ⟨p, result.monitor, result.answer, .ofAvailability result.sent⟩

/-- What the worker does with an event. -/
def apply (p : Provider) (config : ConfigSource) (live : Liveness) (shared : AvailabilityMonitor) :
    Post → Outcome
  | .call event => p.onCalls live shared (.update event)
  | .report c r => p.onConnections live shared (.report c r)
  | .poorMedia r => p.onCalls live shared (.poorMedia r)
  | .requestThresholds r => p.onCalls live shared (.requestThresholds r)
  | .preferTransport t => p.onCalls live shared (.preferTransport t)
  | .tryWfc trying => p.onCalls live shared (.tryWfc trying)
  | .registration r => p.onRegistration live shared (.changed r)
  | .registered yes => p.onAvailability config live shared (.registered p.slot yes)
  | .crossSim enabled => p.onAvailability config live shared (.crossSim p.slot enabled)

/-- Whether an event is refused whatever the provider's state: thresholds for a class without media
are. -/
def checkPost : Post → Except StatusError Unit
  | .requestThresholds r => CallMonitor.checkRequest r
  | _ => .ok ()

/-- Why an event is refused, if it is. -/
def accepts (p : Provider) (post : Post) : Except StatusError Unit :=
  match checkPost post with
  | .error e => .error e
  | .ok _ => if p.isClosed then .error (.providerClosed p.slot) else .ok ()

/-- Takes an event. -/
def post (p : Provider) (config : ConfigSource) (live : Liveness) (shared : AvailabilityMonitor)
    (event : Post) : Outcome :=
  match p.accepts event with
  | .error e => ⟨p, shared, .refused e, .none⟩
  | .ok _ => { p.apply config live shared event with answer := .accepted }

/-- The provider with everything torn down, and what that asks of the source of registration
status. -/
def closed (p : Provider) : Provider × List SourceCall :=
  if p.isClosed then (p, [])
  else
    let (registration, calls) := p.registration.close
    ({ p with
        isClosed := true
        calls := p.calls.close
        connections := p.connections.close
        registration := registration }, calls)

/-- Tears the provider down, and its slot in the shared monitor. -/
def close (p : Provider) (shared : AvailabilityMonitor) : Outcome :=
  let (next, calls) := p.closed
  ⟨next, if p.isClosed then shared else shared.closeSlot p.slot, .done, ⟨[], [], calls⟩⟩

/-- The answer to a wish to wait for the events taken so far. -/
def flushed (p : Provider) : Except StatusError Unit :=
  if p.isClosed then .error (.providerClosed p.slot) else .ok ()

/-- Carries out one request. -/
def step (p : Provider) (config : ConfigSource) (live : Liveness) (shared : AvailabilityMonitor) :
    Op → Outcome
  | .post event => p.post config live shared event
  | .flush => ⟨p, shared, .ofExcept p.flushed, .none⟩
  | .close => p.close shared
  | .calls o => p.onCalls live shared o
  | .connections o => p.onConnections live shared o
  | .registration o => p.onRegistration live shared o

/-- The inspection text. -/
def inspect (p : Provider) : String :=
  Text.record "SlotProvider"
    [("slot", p.slot.inspect), ("executor", Executor.inspect p.worker p.isClosed),
     ("closed", Text.bool p.isClosed)]

end Provider

end AccessStatus
