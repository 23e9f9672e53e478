import AccessStatus.Text.Decimal
import AccessStatus.Text.Record

/-!
# Identities

The four numbers by which slots, subscriptions, calls and networks are told apart, each of a type of
its own so that one is never taken for another.
-/

namespace AccessStatus

/-- Index of a SIM slot. -/
structure SlotIndex where
  value : UInt8
  deriving DecidableEq

/-- Number of a mobile subscription. -/
structure SubscriptionId where
  value : Int32
  deriving DecidableEq

/-- Number of a call. -/
structure CallId where
  value : UInt32
  deriving DecidableEq

/-- Number of a network. -/
structure NetworkId where
  value : UInt64
  deriving DecidableEq

/-- The text of a slot in messages. -/
def SlotIndex.text (slot : SlotIndex) : String := "slot" ++ Text.natural slot.value.toNat

/-- The text of a subscription in messages. -/
def SubscriptionId.text (subscription : SubscriptionId) : String :=
  "sub" ++ Text.integer subscription.value.toInt

/-- The text of a call in messages. -/
def CallId.text (call : CallId) : String := "call" ++ Text.natural call.value.toNat

/-- The text of a network in messages. -/
def NetworkId.text (network : NetworkId) : String := "net" ++ Text.natural network.value.toNat

/-- The inspection text of a slot. -/
def SlotIndex.inspect (slot : SlotIndex) : String :=
  Text.wrapped "SlotIndex" (Text.natural slot.value.toNat)

/-- The inspection text of a subscription. -/
def SubscriptionId.inspect (subscription : SubscriptionId) : String :=
  Text.wrapped "SubscriptionId" (Text.integer subscription.value.toInt)

/-- The inspection text of a call. -/
def CallId.inspect (call : CallId) : String := Text.wrapped "CallId" (Text.natural call.value.toNat)

/-- The inspection text of a network. -/
def NetworkId.inspect (network : NetworkId) : String :=
  Text.wrapped "NetworkId" (Text.natural network.value.toNat)

end AccessStatus
