import AccessStatus.Availability.Basic
import AccessStatus.Call.Basic
import AccessStatus.Data.Basic
import AccessStatus.Ims.Basic
import AccessStatus.Json.Decode
import AccessStatus.Json.Printer
import AccessStatus.Json.Reader

/-!
# Documents

How the types of this library are written as JSON texts and read from them. Identities are their
numbers, named alternatives their names, and records have a field for each component, in order; the
fields of a configuration may be left out where a default makes sense.
-/

namespace AccessStatus

/-- A type whose values can be written as JSON and read from it. -/
class Documented (α : Type) where
  encode : α → Json
  decode? : Json → Option α

namespace Documented

variable {α : Type} [Documented α]

/-- The compact text of a value. -/
def write (a : α) : String := (encode a).compact

/-- The value that a text describes. -/
def read? (s : String) : Option α := (Json.read? s).bind decode?

/-- What a text describes, written again in the compact form. -/
def compacted? (α : Type) [Documented α] (s : String) : Option String :=
  (read? s : Option α).map write

end Documented

open Json

instance {α : Type} [Named α] : Documented α := ⟨ofNamed, toNamed?⟩

instance : Documented Bool := ⟨Json.bool, toBool?⟩

instance : Documented UInt32 :=
      ⟨fun n => ofInt n.toNat, fun v => (toInt? 0 4294967295 v).map fun i => .ofNat i.toNat⟩

instance : Documented SlotIndex where
  encode slot := ofInt slot.value.toNat
  decode? v := (toInt? 0 255 v).map fun i => ⟨.ofNat i.toNat⟩

instance : Documented SubscriptionId where
  encode subscription := ofInt subscription.value.toInt
  decode? v := (toInt? (-2147483648) 2147483647 v).map fun i => ⟨.ofInt i⟩

instance {α : Type} [Documented α] : Documented (Option α) :=
  ⟨ofOption Documented.encode, toOption? Documented.decode?⟩

instance {α : Type} [Documented α] : Documented (List α) :=
  ⟨fun as => .list (as.map Documented.encode), toList? Documented.decode?⟩

open Documented in
instance : Documented Thresholds where
  encode t := ofFields
    [("jitter_ms", encode t.jitterMs),
     ("packet_loss_rate", encode t.packetLossRate),
     ("packet_loss_time_ms", encode t.packetLossTimeMs),
     ("no_rtp_interval_ms", encode t.noMediaIntervalMs)]
  decode? v := do
    match ← fields? ["jitter_ms", "packet_loss_rate", "packet_loss_time_ms", "no_rtp_interval_ms"] v
      with
    | [jitter, lossRate, lossTime, noMedia] =>
      some ⟨← required decode? jitter, ← required decode? lossRate, ← required decode? lossTime,
        ← required decode? noMedia⟩
    | _ => none

open Documented in
instance : Documented Availability where
  encode a := ofFields
    [("is_available", encode a.isAvailable),
     ("is_cross_sim_wifi_calling", encode a.isCrossSim),
     ("notify_disabled", encode a.notifyDisabled)]
  decode? v := do
    match ← fields? ["is_available", "is_cross_sim_wifi_calling", "notify_disabled"] v with
    | [available, crossSim, disabled] =>
      some ⟨← required decode? available, ← required decode? crossSim, ← required decode? disabled⟩
    | _ => none

open Documented in
instance : Documented SlotConfig where
  encode entry := ofFields
    [("slot", encode entry.slot),
     ("subscription_id", encode entry.subscription),
     ("block_ipv6_only_wifi", encode entry.blockIpv6OnlyWifi),
     ("cross_sim_calling_enabled", encode entry.crossSimCalling)]
  decode? v := do
    match ← fields? ["slot", "subscription_id", "block_ipv6_only_wifi", "cross_sim_calling_enabled"]
      v with
    | [slot, subscription, block, crossSim] =>
      some ⟨← required decode? slot, ← optional decode? none subscription,
        ← optional decode? false block,
        ← optional decode? false crossSim⟩
    | _ => none

open Documented in
instance : Documented Config where
  encode c :=
    ofFields [("default_data_subscription", encode c.defaultData), ("slots", encode c.slots)]
  decode? v := do
    match ← fields? ["default_data_subscription", "slots"] v with
    | [defaultData, slots] =>
      some ⟨← optional decode? none defaultData, ← optional decode? [] slots⟩
    | _ => none

/-- The configuration that a text describes, refused when it has two entries for a slot. -/
def Config.ofText (s : String) : Except StatusError Config :=
  match (Documented.read? s : Option Config) with
  | none => .error (.config .unreadable)
  | some c => c.checked

end AccessStatus
