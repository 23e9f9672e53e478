import AccessStatus.Answer
import AccessStatus.Data.Basic
import AccessStatus.Status
import AccessStatus.Stream.Notifier

/-!
# Data connection monitors

The monitor of one slot has a machine for each traffic class. A machine takes raw reports, publishes
what happened to all its consumers, equal values included, and tells a new consumer what happened
last.
-/

namespace AccessStatus

/-- The connection of one class: where it stands since the last accepted report, and those who want
to know of it. -/
structure ConnectionMachine where
  state : ConnectionState
  transport : Transport
  failCause : Int32
  notifier : Notifier ConnectionChange
  deriving DecidableEq

namespace ConnectionMachine

/-- Not connected, over no transport. -/
def fresh : ConnectionMachine :=
  ⟨.inactive, .invalid, 0, .empty Status.connection.key "data_connection_status"⟩

/-- What happened last. -/
def lastChange (m : ConnectionMachine) : Option ConnectionChange := m.notifier.current

/-- What an accepted report amounts to; a report without a transition amounts to nothing. -/
def changeOf (m : ConnectionMachine) (r : ConnectionReport) : Option ConnectionChange :=
  (transition m.state r.state (r.transport != m.transport)).map fun (state, event) =>
    ⟨event, state, r.transport, r.failCause⟩

/-- Takes a report and tells every consumer what it amounts to. -/
def report (m : ConnectionMachine) (live : Liveness) (r : ConnectionReport) :
    ConnectionMachine × List (Delivery ConnectionChange) :=
  match m.changeOf r with
  | none => (m, [])
  | some change =>
    let (notifier, sent) := m.notifier.publish live change
    (⟨change.state, change.transport, change.failCause, notifier⟩, sent)

/-- Registers a consumer and tells it what happened last. -/
def register (m : ConnectionMachine) (live : Liveness) (c : ConsumerId) (tag : Tag) :
    ConnectionMachine × List (Delivery ConnectionChange) :=
  let (notifier, sent) := m.notifier.registerWithReplay live c tag
  ({ m with notifier := notifier }, sent)

/-- Removes a consumer. -/
def unregister (m : ConnectionMachine) (c : ConsumerId) : ConnectionMachine :=
  { m with notifier := m.notifier.unregister c }

/-- Drops every consumer and forgets what happened last; the connection stays where it is. -/
def clear (m : ConnectionMachine) : ConnectionMachine := { m with notifier := m.notifier.clear }

end ConnectionMachine

/-- The data connections of one slot. -/
structure ConnectionMonitor where
  slot : SlotIndex
  machines : PerClass ConnectionMachine
  isClosed : Bool
  deriving DecidableEq

namespace ConnectionMonitor

/-- No connection in any class. -/
def fresh (slot : SlotIndex) : ConnectionMonitor := ⟨slot, .all .fresh, false⟩

/-- Whether a session exists for a class. -/
def isConnected (m : ConnectionMonitor) (c : TrafficClass) : Bool :=
  (m.machines.get c).state.isActive

/-- The class with this number. -/
def resolve (raw : UInt32) : Except StatusError TrafficClass :=
  match TrafficClass.ofRaw? raw with
  | some c => .ok c
  | none => .error (.invalidTrafficClass raw)

/-- Drops every consumer, and takes no reports and no registrations from now on. -/
def close (m : ConnectionMonitor) : ConnectionMonitor :=
  if m.isClosed then m
    else { m with isClosed := true, machines := m.machines.map ConnectionMachine.clear }

/-- What can be asked of a data connection monitor. The requests to a class's machine itself do not
mind whether the monitor is closed. -/
inductive Op where
  | report (c : TrafficClass) (r : ConnectionReport)
  | register (raw : UInt32) (c : ConsumerId) (tag : Tag)
  | unregister (raw : UInt32) (c : ConsumerId)
  | close
  | machineReport (c : TrafficClass) (r : ConnectionReport)
  | machineRegister (cls : TrafficClass) (c : ConsumerId) (tag : Tag)
  | machineUnregister (cls : TrafficClass) (c : ConsumerId)

/-- The result of one request: the monitor after it, the answer, and what consumers were sent, each
value with the class it is about. -/
structure Outcome where
  monitor : ConnectionMonitor
  answer : Answer
  sent : List (Delivery (TrafficClass × ConnectionChange))

/-- Gives a report to the machine of its class. -/
def reportTo (m : ConnectionMonitor) (live : Liveness) (c : TrafficClass) (r : ConnectionReport) :
    Outcome :=
  let machine := m.machines.get c
  let (next, sent) := machine.report live r
  ⟨{ m with machines := m.machines.set c next },
    .event ((machine.changeOf r).map ConnectionChange.event),
    sent.map (·.map (Prod.mk c))⟩

/-- Registers a consumer with the machine of a class. -/
def registerWith (m : ConnectionMonitor) (live : Liveness) (cls : TrafficClass) (c : ConsumerId)
    (tag : Tag) (answer : Answer) : Outcome :=
  let (next, sent) := (m.machines.get cls).register live c tag
  ⟨{ m with machines := m.machines.set cls next }, answer, sent.map (·.map (Prod.mk cls))⟩

/-- Removes a consumer from the machine of a class. -/
def unregisterFrom (m : ConnectionMonitor) (cls : TrafficClass) (c : ConsumerId) : Outcome :=
  let machine := m.machines.get cls
  ⟨{ m with machines := m.machines.set cls (machine.unregister c) },
    .flag (machine.notifier.registry.contains c), []⟩

/-- Carries out one request. -/
def step (m : ConnectionMonitor) (live : Liveness) : Op → Outcome
  | .report c r => if m.isClosed then ⟨m, .event none, []⟩ else m.reportTo live c r
  | .register raw c tag =>
    match resolve raw with
    | .error e => ⟨m, .refused e, []⟩
    | .ok cls =>
      if m.isClosed then ⟨m, .refused (.providerClosed m.slot), []⟩
      else m.registerWith live cls c tag .accepted
  | .unregister raw c =>
    match resolve raw with
    | .error e => ⟨m, .refused e, []⟩
    | .ok cls => m.unregisterFrom cls c
  | .close => ⟨m.close, .done, []⟩
  | .machineReport c r => m.reportTo live c r
  | .machineRegister cls c tag => m.registerWith live cls c tag .done
  | .machineUnregister cls c => m.unregisterFrom cls c

end ConnectionMonitor

end AccessStatus
