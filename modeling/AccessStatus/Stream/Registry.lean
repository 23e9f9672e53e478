import AccessStatus.Stream.Consumer

/-!
# Registries of subscriptions

An ordered list of subscriptions. A broadcast goes to every subscription whose consumer is live, in
order of registration, and sweeps the others away; a replay goes to one consumer alone. Which
consumers are live is told by the caller at each operation.
-/

namespace AccessStatus

/-- One consumer's wish to be told, with what it wants to be given back. -/
structure Subscription where
  consumer : ConsumerId
  tag : Tag
  payload : Option String
  deriving DecidableEq

/-- What a subscription makes of a value. -/
def Subscription.delivery {α : Type} (s : Subscription) (value : α) (error : Option String) :
    Delivery α :=
  ⟨s.consumer, ⟨s.tag, s.payload, value, error⟩⟩

/-- A named, ordered list of subscriptions. -/
structure Registry where
  name : String
  subscriptions : List Subscription
  deriving DecidableEq

namespace Registry

variable {α : Type}

/-- A registry without subscriptions. -/
def empty (name : String) : Registry := ⟨name, []⟩

/-- Registers behind all others; the consumer may be registered already. -/
def add (r : Registry) (s : Subscription) : Registry :=
  { r with subscriptions := r.subscriptions ++ [s] }

/-- Removes every registration of a consumer. -/
def remove (r : Registry) (c : ConsumerId) : Registry :=
  { r with subscriptions := r.subscriptions.filter fun s => s.consumer ≠ c }

/-- Replaces every registration of the consumer by this one, which comes last. -/
def addUnique (r : Registry) (s : Subscription) : Registry := (r.remove s.consumer).add s

/-- Whether the consumer is registered. -/
def contains (r : Registry) (c : ConsumerId) : Bool := r.subscriptions.any fun s => s.consumer = c

/-- Drops every registration. -/
def clear (r : Registry) : Registry := { r with subscriptions := [] }

/-- Keeps the registrations of live consumers. -/
def sweep (r : Registry) (live : Liveness) : Registry :=
  { r with subscriptions := r.subscriptions.filter fun s => live s.consumer }

/-- Number of registrations, those of dead consumers included. -/
def size (r : Registry) : Nat := r.subscriptions.length

/-- Number of registrations whose consumer is live. -/
def liveSize (r : Registry) (live : Liveness) : Nat :=
  r.subscriptions.countP fun s => live s.consumer

/-- What a broadcast sends: one delivery for each live registration, in order. -/
def broadcast (r : Registry) (live : Liveness) (value : α) (error : Option String) :
    List (Delivery α) :=
  (r.subscriptions.filter fun s => live s.consumer).map fun s => s.delivery value error

/-- What reaches one consumer alone: a delivery through its first live registration. -/
def replay (r : Registry) (live : Liveness) (c : ConsumerId) (value : α) : Option (Delivery α) :=
  (r.subscriptions.find? fun s => s.consumer = c && live s.consumer).map fun s =>
    s.delivery value none

/-- What can be done with a registry. -/
inductive Op (α : Type) where
  | add (s : Subscription)
  | addUnique (s : Subscription)
  | remove (c : ConsumerId)
  | clear
  | sweep
  | notifyAll (value : α) (error : Option String)
  | notifyOne (c : ConsumerId) (value : α)

/-- What an operation on a registry answers. -/
inductive Answer where
  | done
  | found (yes : Bool)
  | count (n : Nat)
  deriving DecidableEq

/-- The result of one operation: the registry after it, the answer, and what was sent, in order. -/
structure Outcome (α : Type) where
  registry : Registry
  answer : Answer
  sent : List (Delivery α)

/-- Performs one operation. A broadcast answers the number of deliveries and leaves only live
registrations behind; a removal answers whether there was something to remove. -/
def step (r : Registry) (live : Liveness) : Op α → Outcome α
  | .add s => ⟨r.add s, .done, []⟩
  | .addUnique s => ⟨r.addUnique s, .done, []⟩
  | .remove c => ⟨r.remove c, .found (r.contains c), []⟩
  | .clear => ⟨r.clear, .done, []⟩
  | .sweep => ⟨r.sweep live, .count (r.size - (r.sweep live).size), []⟩
  | .notifyAll value error =>
    let sent := r.broadcast live value error
    ⟨r.sweep live, .count sent.length, sent⟩
  | .notifyOne c value =>
    let sent := r.replay live c value
    ⟨r, .found sent.isSome, sent.toList⟩

/-- The inspection text. -/
def inspect (r : Registry) : String :=
  Text.record "NotificationRegistry"
    [("name", Text.quoted r.name), ("registrations", Text.natural r.size)]

end Registry

end AccessStatus
