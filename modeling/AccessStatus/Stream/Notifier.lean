import AccessStatus.Stream.Gate
import AccessStatus.Stream.Registry

/-!
# Notifiers

A notifier tells subscribers about one status: a registry beside a gate that caches the last
published value. A value can be published only when it differs from the cached one, or in any case;
a consumer can ask to be told the cached value when it registers.
-/

namespace AccessStatus

/-- A status stream: its name, its subscribers and the value published last. -/
structure Notifier (α : Type) where
  status : String
  registry : Registry
  gate : Gate α
  deriving DecidableEq

namespace Notifier

variable {α : Type}

/-- No subscribers, nothing published. -/
def empty (status name : String) : Notifier α := ⟨status, .empty name, .empty⟩

/-- No subscribers; `v` counts as published. -/
def holding (status name : String) (v : α) : Notifier α := ⟨status, .empty name, .holding v⟩

/-- The value published last. -/
def current (n : Notifier α) : Option α := n.gate.current

/-- Registers a consumer in place of its earlier registration. -/
def register (n : Notifier α) (c : ConsumerId) (tag : Tag) : Notifier α :=
  { n with registry := n.registry.addUnique ⟨c, tag, none⟩ }

/-- What a registered consumer is told when it asks for the cached value. -/
def replay (n : Notifier α) (live : Liveness) (c : ConsumerId) : List (Delivery α) :=
  match n.current with
  | none => []
  | some v => (n.registry.replay live c v).toList

/-- Registers a consumer and tells it the cached value. -/
def registerWithReplay (n : Notifier α) (live : Liveness) (c : ConsumerId) (tag : Tag) :
    Notifier α × List (Delivery α) :=
  (n.register c tag, (n.register c tag).replay live c)

/-- Removes a consumer. -/
def unregister (n : Notifier α) (c : ConsumerId) : Notifier α :=
  { n with registry := n.registry.remove c }

/-- Caches a value and sends it to every live subscriber. -/
def publish (n : Notifier α) (live : Liveness) (v : α) : Notifier α × List (Delivery α) :=
  ({ n with registry := n.registry.sweep live, gate := n.gate.force v },
    n.registry.broadcast live v none)

/-- Publishes a value that differs from the cached one; any other leaves the notifier as it is. -/
def publishIfChanged [BEq α] (n : Notifier α) (live : Liveness) (v : α) :
    Notifier α × List (Delivery α) :=
  if n.gate.wouldChange v then n.publish live v else (n, [])

/-- Keeps the subscribers that are live. -/
def sweep (n : Notifier α) (live : Liveness) : Notifier α :=
  { n with registry := n.registry.sweep live }

/-- Drops the subscribers and the cached value. -/
def clear (n : Notifier α) : Notifier α :=
  { n with registry := n.registry.clear, gate := n.gate.reset }

/-- What can be done with a notifier. -/
inductive Op (α : Type) where
  | register (c : ConsumerId) (tag : Tag)
  | registerWithReplay (c : ConsumerId) (tag : Tag)
  | unregister (c : ConsumerId)
  | publish (v : α)
  | publishIfChanged (v : α)
  | sweep
  | clear

/-- The result of one operation: the notifier after it, the answer, and what was sent, in order. -/
structure Outcome (α : Type) where
  notifier : Notifier α
  answer : Registry.Answer
  sent : List (Delivery α)

/-- Performs one operation. A registration with replay answers whether a value was replayed, a gated
publication whether it was accepted. -/
def step [BEq α] (n : Notifier α) (live : Liveness) : Op α → Outcome α
  | .register c tag => ⟨n.register c tag, .done, []⟩
  | .registerWithReplay c tag =>
    let (registered, sent) := n.registerWithReplay live c tag
    ⟨registered, .found !sent.isEmpty, sent⟩
  | .unregister c => ⟨n.unregister c, .found (n.registry.contains c), []⟩
  | .publish v =>
    let (published, sent) := n.publish live v
    ⟨published, .count sent.length, sent⟩
  | .publishIfChanged v =>
    let (published, sent) := n.publishIfChanged live v
    ⟨published, .found (n.gate.wouldChange v), sent⟩
  | .sweep => ⟨n.sweep live, .count (n.registry.size - (n.sweep live).registry.size), []⟩
  | .clear => ⟨n.clear, .done, []⟩

/-- The inspection text. -/
def inspect (n : Notifier α) : String :=
  Text.record "ChangeNotifier" [("status", Text.quoted n.status), ("registry", n.registry.inspect)]

end Notifier

end AccessStatus
