import AccessStatus.Answer
import AccessStatus.Ims.Basic
import AccessStatus.Status
import AccessStatus.Stream.Notifier

/-!
# IMS registration monitors

The monitor of one slot passes the slot's IMS registration status on. It subscribes to the source of
that status only while someone wants to know: the first consumer makes it subscribe, and it
unsubscribes when the last one has left or turns out to be dead.
-/

namespace AccessStatus

/-- A request to the source of registration status. -/
inductive SourceCall where
  | subscribe (slot : SlotIndex)
  | unsubscribe (slot : SlotIndex)
  deriving DecidableEq

/-- The slot that a request to the source is for. -/
def SourceCall.slot : SourceCall → SlotIndex
  | subscribe slot => slot
  | unsubscribe slot => slot

/-- The registration status of one slot and those who want to know of it. -/
structure RegistrationMonitor where
  slot : SlotIndex
  /-- The monitor is subscribed to the source. -/
  subscribed : Bool
  notifier : Notifier Registration
  isClosed : Bool
  deriving DecidableEq

namespace RegistrationMonitor

/-- A monitor that nobody has asked. -/
def fresh (slot : SlotIndex) : RegistrationMonitor :=
  ⟨slot, false, .empty Status.registration.key "ims_registration", false⟩

/-- Number of live consumers. -/
def liveCount (m : RegistrationMonitor) (live : Liveness) : Nat := m.notifier.registry.liveSize live

/-- What can be asked of a registration monitor. -/
inductive Op where
  | register (c : ConsumerId) (tag : Tag)
  | unregister (c : ConsumerId)
  | changed (r : Registration)
  | close

/-- The result of one request: the monitor after it, the answer, what consumers were sent, and what
was asked of the source. -/
structure Outcome where
  monitor : RegistrationMonitor
  answer : Answer
  sent : List (Delivery Registration)
  calls : List SourceCall

/-- Sweeps dead consumers away, and unsubscribes when none is left. -/
def releaseIfUnused (m : RegistrationMonitor) (live : Liveness) :
    RegistrationMonitor × List SourceCall :=
  let m := { m with notifier := m.notifier.sweep live }
  if m.subscribed && m.notifier.registry.subscriptions.isEmpty then
    ({ m with subscribed := false }, [.unsubscribe m.slot])
  else (m, [])

/-- Unsubscribes and drops every consumer; takes no registrations and no status from now on. -/
def close (m : RegistrationMonitor) : RegistrationMonitor × List SourceCall :=
  if m.isClosed then (m, [])
  else
    ({ m with isClosed := true, subscribed := false, notifier := m.notifier.clear },
      if m.subscribed then [.unsubscribe m.slot] else [])

/-- Carries out one request. -/
def step (m : RegistrationMonitor) (live : Liveness) : Op → Outcome
  | .register c tag =>
    if m.isClosed then ⟨m, .refused (.providerClosed m.slot), [], []⟩
    else
      let (notifier, sent) := m.notifier.registerWithReplay live c tag
      ⟨{ m with notifier := notifier, subscribed := true }, .accepted, sent,
        if m.subscribed then [] else [.subscribe m.slot]⟩
  | .unregister c =>
    if m.notifier.registry.contains c then
      let (released, calls) := { m with notifier := m.notifier.unregister c }.releaseIfUnused live
      ⟨released, .flag true, [], calls⟩
    else ⟨m, .flag false, [], []⟩
  | .changed r =>
    if m.isClosed then ⟨m, .done, [], []⟩
    else
      let (notifier, sent) := m.notifier.publishIfChanged live r
      let (released, calls) := { m with notifier := notifier }.releaseIfUnused live
      ⟨released, .done, sent, calls⟩
  | .close =>
    let (closed, calls) := m.close
    ⟨closed, .done, [], calls⟩

/-- The inspection text. -/
def inspect (m : RegistrationMonitor) (live : Liveness) : String :=
  Text.record "ImsRegistrationTracker"
    [("slot", m.slot.inspect), ("ref_count", Text.natural (m.liveCount live)),
     ("upstream", Text.bool m.subscribed)]

end RegistrationMonitor

end AccessStatus
