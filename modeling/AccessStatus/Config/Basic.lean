import AccessStatus.Error

/-!
# Configuration

What carriers and subscriptions prescribe for each slot. A configuration is a list of entries in the
order in which slots were first configured; it is refused when a slot has two entries, and no change
made later gives a slot a second one. Whoever evaluates asks a `ConfigSource`, which a configuration
is one form of.
-/

namespace AccessStatus

/-- What is configured for one slot. -/
structure SlotConfig where
  slot : SlotIndex
  subscription : Option SubscriptionId
  blockIpv6OnlyWifi : Bool
  crossSimCalling : Bool
  deriving DecidableEq

/-- Nothing is configured for the slot but its existence. -/
def SlotConfig.fresh (slot : SlotIndex) : SlotConfig := ⟨slot, none, false, false⟩

/-- The subscription for default data and the entries of the slots. -/
structure Config where
  defaultData : Option SubscriptionId
  slots : List SlotConfig
  deriving DecidableEq

/-- Answers to the questions that an evaluation asks. -/
structure ConfigSource where
  defaultData : Option SubscriptionId
  subscription : SlotIndex → Option SubscriptionId
  blockIpv6OnlyWifi : SlotIndex → Bool
  crossSimCalling : SlotIndex → Bool

namespace Config

/-- Nothing is configured. -/
def empty : Config := ⟨none, []⟩

/-- The slot of the first entry whose slot was seen before it. -/
def firstRepeat (seen : List SlotIndex) : List SlotConfig → Option SlotIndex
  | [] => none
  | entry :: rest =>
    if entry.slot ∈ seen then some entry.slot else firstRepeat (entry.slot :: seen) rest

/-- Refuses a configuration that has two entries for a slot. -/
def checked (c : Config) : Except StatusError Config :=
  match firstRepeat [] c.slots with
  | some slot => .error (.config (.duplicateSlot slot))
  | none => .ok c

/-- The entry of a slot. -/
def find? (c : Config) (slot : SlotIndex) : Option SlotConfig :=
  c.slots.find? fun entry => entry.slot = slot

/-- Changes the entry of a slot where it stands; a slot without one gets a fresh one, changed, at
the end. -/
def updateEntry (slot : SlotIndex) (change : SlotConfig → SlotConfig) :
    List SlotConfig → List SlotConfig
  | [] => [change (.fresh slot)]
  | entry :: rest =>
    if entry.slot = slot then change entry :: rest else entry :: updateEntry slot change rest

/-- The four answers that follow from a configuration; a slot without an entry has no subscription
and nothing enabled. -/
def source (c : Config) : ConfigSource where
  defaultData := c.defaultData
  subscription slot := (c.find? slot).bind SlotConfig.subscription
  blockIpv6OnlyWifi slot := (c.find? slot).any SlotConfig.blockIpv6OnlyWifi
  crossSimCalling slot := (c.find? slot).any SlotConfig.crossSimCalling

/-- What can be changed in a configuration. -/
inductive Op where
  | setDefaultData (subscription : Option SubscriptionId)
  | setSlot (entry : SlotConfig)
  | setCrossSim (slot : SlotIndex) (enabled : Bool)
  | setBlock (slot : SlotIndex) (block : Bool)

/-- Makes one change. -/
def step (c : Config) : Op → Config
  | .setDefaultData subscription => { c with defaultData := subscription }
  | .setSlot entry => { c with slots := updateEntry entry.slot (fun _ => entry) c.slots }
  | .setCrossSim slot enabled =>
    { c with
      slots := updateEntry slot (fun entry => { entry with crossSimCalling := enabled }) c.slots }
  | .setBlock slot block =>
    { c with
      slots := updateEntry slot (fun entry => { entry with blockIpv6OnlyWifi := block }) c.slots }

end Config

/-- The inspection text of an entry. -/
def SlotConfig.inspect (entry : SlotConfig) : String :=
  Text.record "SlotConfig"
    [("slot", entry.slot.inspect),
     ("subscription_id", Text.optional (entry.subscription.map SubscriptionId.inspect)),
     ("block_ipv6_only_wifi", Text.bool entry.blockIpv6OnlyWifi),
     ("cross_sim_calling_enabled", Text.bool entry.crossSimCalling)]

/-- The inspection text of a configuration, as what a lock guards. -/
def Config.inspect (c : Config) : String :=
  let snapshot := Text.record "ConfigSnapshot"
    [("default_data_subscription", Text.optional (c.defaultData.map SubscriptionId.inspect)),
     ("slots", Text.list (c.slots.map SlotConfig.inspect))]
  Text.record "StaticConfig" [("inner", Text.record "RwLock" [("data", snapshot)])]

end AccessStatus
