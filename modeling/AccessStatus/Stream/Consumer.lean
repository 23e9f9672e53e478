import AccessStatus.Text.Decimal
import AccessStatus.Text.Record

/-!
# Consumers and what they receive

A consumer is known by its identity alone. What reaches it is a `Notification`; a `Delivery` is a
notification together with the consumer it goes to. Whether a consumer can still receive is a fact
about the world at one moment, so it is not stored with a subscription: it is a `Liveness`, handed
to every operation that delivers.
-/

namespace AccessStatus

/-- Identity of a consumer; a consumer created later has the larger number. -/
structure ConsumerId where
  number : Nat
  deriving DecidableEq

/-- A mark that a consumer chooses when it subscribes and that comes back on each notification. -/
structure Tag where
  value : UInt32
  deriving DecidableEq

/-- One thing said to a consumer: the value, the tag and the payload of the subscription it came
through, and an error text where the sender added one. -/
structure Notification (α : Type) where
  tag : Tag
  payload : Option String
  value : α
  error : Option String
  deriving DecidableEq

/-- The same notification with its value seen through `f`. -/
def Notification.map {α β : Type} (f : α → β) (n : Notification α) : Notification β :=
  ⟨n.tag, n.payload, f n.value, n.error⟩

/-- The inspection text, the value's text made by `f`. -/
def Notification.inspect {α : Type} (f : α → String) (n : Notification α) : String :=
  Text.record "Notification"
    [("tag", Text.wrapped "Tag" (Text.natural n.tag.value.toNat)),
     ("has_payload", Text.bool n.payload.isSome), ("result", f n.value),
     ("error", Text.optional (n.error.map Text.quoted))]

/-- A notification on its way to one consumer. -/
structure Delivery (α : Type) where
  consumer : ConsumerId
  notification : Notification α
  deriving DecidableEq

/-- The same delivery with its value seen through `f`. -/
def Delivery.map {α β : Type} (f : α → β) (d : Delivery α) : Delivery β :=
  ⟨d.consumer, d.notification.map f⟩

/-- Which consumers can receive at one moment. -/
abbrev Liveness := ConsumerId → Bool

/-- What one consumer receives out of a list of deliveries, in order. -/
def received {α : Type} (c : ConsumerId) (sent : List (Delivery α)) : List (Notification α) :=
  (sent.filter fun d => d.consumer = c).map Delivery.notification

end AccessStatus
