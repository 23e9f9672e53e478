import AccessStatus.Config.Basic
import AccessStatus.Network.Basic

/-!
# Availability of calls over the default network

The value that is told about a slot, and how it follows from the default network, from what is known
of the slot, and from the configuration. Over Wi-Fi the slot's own registration decides, unless only
version 6 is usable and the carrier wants that blocked. Otherwise, with cross-SIM calling enabled,
another subscription's cellular connection can carry the slot's calls.
-/

namespace AccessStatus

/-- Whether a slot's calls can run over the default network, whether they do so over another
subscription's connection, and whether the value announces a loss. -/
structure Availability where
  isAvailable : Bool
  isCrossSim : Bool
  notifyDisabled : Bool
  deriving DecidableEq

namespace Availability

/-- Not available. -/
def unavailable : Availability := ⟨false, false, false⟩

/-- Available, directly or over another subscription. -/
def available (crossSim : Bool) : Availability := ⟨true, crossSim, false⟩

/-- The same value as the announcement of a loss. -/
def withDisabledEdge (a : Availability) : Availability := { a with notifyDisabled := true }

/-- The same value without the announcement. -/
def settled (a : Availability) : Availability := { a with notifyDisabled := false }

/-- The inspection text. -/
def inspect (a : Availability) : String :=
  Text.record "AvailabilityInfo"
    [("is_available", Text.bool a.isAvailable),
     ("is_cross_sim_wifi_calling", Text.bool a.isCrossSim),
     ("notify_disabled", Text.bool a.notifyDisabled)]

end Availability

/-- Not available. -/
instance : Inhabited Availability := ⟨.unavailable⟩

/-- The default network as far as it is known. -/
structure DefaultNetwork where
  id : NetworkId
  transport : NetworkTransport
  subscription : Option SubscriptionId
  protocol : LinkProtocol
  deriving DecidableEq

namespace DefaultNetwork

/-- Whether the network is a Wi-Fi network. -/
def isWifi (n : DefaultNetwork) : Bool := n.transport = .wifi

/-- The default network after it was reported as available or changed: the protocols known of it are
kept as long as it stays the same network. -/
def renew (before : Option DefaultNetwork) (id : NetworkId) (transport : NetworkTransport)
    (subscription : Option SubscriptionId) : DefaultNetwork :=
  match before with
  | some n => ⟨id, transport, subscription, if n.id = id then n.protocol else .unknown⟩
  | none => ⟨id, transport, subscription, .unknown⟩

/-- The default network after a report; no value means that the report is about another network and
is to be ignored. -/
def after (before : Option DefaultNetwork) : NetworkEvent → Option (Option DefaultNetwork)
  | .available id transport subscription => some (some (renew before id transport subscription))
  | .capabilities id transport subscription => some (some (renew before id transport subscription))
  | .link id addresses =>
    match before with
    | some n =>
      if n.id = id then some (some { n with protocol := .ofAddresses addresses }) else none
    | none => none
  | .lost id =>
    match before with
    | some n => if n.id = id then some none else none
    | none => none

/-- The inspection text. -/
def inspect (n : DefaultNetwork) : String :=
  Text.record "DefaultNetwork"
    [("id", n.id.inspect), ("transport", Named.name n.transport),
     ("subscription", Text.optional (n.subscription.map SubscriptionId.inspect)),
     ("protocol", Named.name n.protocol)]

end DefaultNetwork

/-- What is reported about a slot. -/
structure SlotInputs where
  registered : Bool
  /-- The last switch of cross-SIM calling; until there is one, the configuration decides. -/
  crossSim : Option Bool
  deriving DecidableEq

/-- Nothing is reported about the slot. -/
instance : Inhabited SlotInputs := ⟨⟨false, none⟩⟩

/-- Whether another subscription's cellular connection can carry the slot's calls: the slot has a
subscription that is not the one for default data, and the default network is cellular and belongs
to a different one. -/
def crossSimPathUp (config : ConfigSource) (network : Option DefaultNetwork) (slot : SlotIndex) :
    Bool :=
  match config.subscription slot, network with
  | some own, some n =>
    config.defaultData != some own && n.transport == .cellular &&
      match n.subscription with
      | some other => other != own
      | none => false
  | _, _ => false

/-- The availability of a slot over Wi-Fi. -/
def overWifi (config : ConfigSource) (n : DefaultNetwork) (inputs : SlotInputs) (slot : SlotIndex) :
    Availability :=
  if inputs.registered && !(config.blockIpv6OnlyWifi slot && n.protocol.lacksIpv4) then
    .available false
  else .unavailable

/-- The availability of a slot without Wi-Fi. -/
def withoutWifi (config : ConfigSource) (network : Option DefaultNetwork) (inputs : SlotInputs)
    (slot : SlotIndex) : Availability :=
  if inputs.crossSim.getD (config.crossSimCalling slot) && inputs.registered &&
      crossSimPathUp config network slot then .available true
  else .unavailable

/-- The availability of a slot. -/
def availability (config : ConfigSource) (network : Option DefaultNetwork) (inputs : SlotInputs)
    (slot : SlotIndex) : Availability :=
  match network with
  | some n =>
    if n.isWifi then overWifi config n inputs slot else withoutWifi config network inputs slot
  | none => withoutWifi config network inputs slot

/-- What a change of the default network means. -/
inductive Trigger where
  /-- Nothing that has to be announced. -/
  | update
  /-- Wi-Fi is gone. -/
  | wifiLost
  /-- Wi-Fi stayed and lost its version 4 addresses. -/
  | ipv6OnlyWifi
  deriving DecidableEq

/-- Compares the default network before and after a report. -/
def classify (before next : Option DefaultNetwork) : Trigger :=
  match before with
  | none => .update
  | some old =>
    if !old.isWifi then .update
    else
      match next with
      | none => .wifiLost
      | some new =>
        if !new.isWifi then .wifiLost
        else if old.id = new.id && !old.protocol.lacksIpv4 &&
          new.protocol.lacksIpv4 then .ipv6OnlyWifi
        else .update

/-- Whether a newly found value has to be announced as a loss. -/
def raisesEdge (config : ConfigSource) (trigger : Trigger) (slot : SlotIndex) (a : Availability) :
    Bool :=
  !a.isAvailable &&
    match trigger with
    | .wifiLost => true
    | .ipv6OnlyWifi => config.blockIpv6OnlyWifi slot
    | .update => false

end AccessStatus
