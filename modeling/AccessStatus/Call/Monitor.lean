import AccessStatus.Answer
import AccessStatus.Call.Basic
import AccessStatus.Status
import AccessStatus.Stream.Notifier
import AccessStatus.Table

/-!
# Call monitors

The monitor of one slot collapses the slot's calls into one call type. Voice and video calls are
legs, kept by their identity; of emergency calls only the latest is kept. While an emergency call is
carried over the IMS connection because the emergency connection is down, an overlay forces the call
type to emergency.

The monitor also routes reports of poor media to the consumers they concern, remembers the last
request for media thresholds and pushes it to calls, and passes two status values of the IMS stack
on.
-/

namespace AccessStatus

/-- Calls are ordered by their number. -/
instance : Ranked CallId where
  rank call := call.value.toNat
  rank_inj {a b} h := by
    cases a
    cases b
    exact congrArg CallId.mk (UInt32.toNat_inj.1 h)

/-- A voice or video call. -/
structure Leg where
  kind : CallKind
  state : LegState
  deriving DecidableEq

/-- The latest emergency call. -/
structure EmergencyCall where
  id : CallId
  state : LegState
  deriving DecidableEq

/-- What the consumers of a call monitor are told, by stream. -/
inductive CallNotice where
  | callType (v : CallType)
  | emergencyType (v : CallType)
  | preferredTransport (v : Transport)
  | tryingWfc (v : Bool)
  | imsMedia (v : PoorMedia)
  | emergencyMedia (v : PoorMedia)
  deriving DecidableEq

/-- Thresholds handed to the media stack for one call. -/
structure ThresholdPush where
  slot : SlotIndex
  call : CallId
  request : ThresholdRequest
  deriving DecidableEq

/-- The call type that legs alone amount to. -/
def aggregateLegs (legs : Table CallId Leg) : CallType :=
  if legs.values.isEmpty then .idle
  else if legs.values.any fun leg => leg.kind = .video then .video
  else .voice

/-- The legs after a report about a voice or video call: the first active report makes a leg, a
disconnection removes it, and of the states in between only active and holding are kept. -/
def legsAfter (legs : Table CallId Leg) (event : CallEvent) : Table CallId Leg :=
  match legs.get? event.id, event.state with
  | none, .active => legs.set event.id ⟨event.kind, .active⟩
  | none, _ => legs
  | some _, .disconnected => legs.erase event.id
  | some leg, state =>
    legs.set event.id ⟨event.kind, if state = .active || state = .holding then state else leg.state⟩

/-- The call type of the emergency stream. -/
def emergencyCallType : Option EmergencyCall → CallType
  | none => .idle
  | some call => if call.state = .idle || call.state = .disconnected then .idle else .emergency

/-- The emergency call after a report about one. A disconnection counts only for the call that is
kept, and no value means that the report is to be ignored. -/
def emergencyAfter (stored : Option EmergencyCall) (event : CallEvent) :
    Option (Option EmergencyCall) :=
  if event.state = .disconnected then
    match stored with
    | some call => if call.id = event.id then some none else none
    | none => none
  else some (some ⟨event.id, event.state⟩)

/-- The streams to which a consumer can register by name. -/
inductive CallStream where
  | callType | emergencyType | preferredTransport | tryingWfc
  deriving DecidableEq

/-- The calls of one slot and those who want to know of them. -/
structure CallMonitor where
  slot : SlotIndex
  legs : Table CallId Leg
  emergency : Option EmergencyCall
  overlay : Bool
  pending : Option ThresholdRequest
  isClosed : Bool
  callType : Notifier CallType
  emergencyType : Notifier CallType
  preferredTransport : Notifier Transport
  tryingWfc : Notifier Bool
  imsMedia : Registry
  emergencyMedia : Registry

namespace CallMonitor

/-- A monitor that knows of no call. -/
def fresh (slot : SlotIndex) : CallMonitor where
  slot := slot
  legs := .empty
  emergency := none
  overlay := false
  pending := none
  isClosed := false
  callType := .holding Status.callType.key "call_type" .idle
  emergencyType := .holding Status.callType.key "emergency_call_type" .idle
  preferredTransport := .empty Status.preferredTransport.key "emergency_preferred_transport"
  tryingWfc := .empty Status.tryingWfc.key "try_wfc_connection_state"
  imsMedia := .empty "ims_low_rtp_quality"
  emergencyMedia := .empty "emergency_low_rtp_quality"

/-- A fresh monitor, if both collaborators are supplied. -/
def build (slot : SlotIndex) (supplied : Dependency → Bool) : Except StatusError CallMonitor :=
  if !supplied .mediaQuality then .error (.missingDependency .mediaQuality)
  else if !supplied .dataStatus then .error (.missingDependency .dataStatus)
  else .ok (fresh slot)

/-! ## Queries -/

/-- The call type published last. -/
def currentType (m : CallMonitor) : CallType := m.callType.current.getD .idle

/-- Whether the call type published last is idle. -/
def isIdle (m : CallMonitor) : Bool := m.currentType = .idle

/-- Whether the kept emergency call counts as none. -/
def isEmergencyIdle (m : CallMonitor) : Bool := emergencyCallType m.emergency = .idle

/-- The call to which thresholds for a traffic class go: the emergency call if it is active, and for
any other class the active leg with the least number. -/
def activeCall (m : CallMonitor) : TrafficClass → Option CallId
  | .emergency => (m.emergency.filter fun call => call.state = .active).map EmergencyCall.id
  | _ => (m.legs.entries.find? fun x => x.2.state = .active).map Prod.fst

/-! ## Changes -/

/-- Publishes a call type that differs from the last one. -/
def publishType (m : CallMonitor) (live : Liveness) (v : CallType) :
    CallMonitor × List (Delivery CallNotice) :=
  let (notifier, sent) := m.callType.publishIfChanged live v
  ({ m with callType := notifier }, sent.map (·.map .callType))

/-- Publishes an emergency call type that differs from the last one. -/
def publishEmergencyType (m : CallMonitor) (live : Liveness) (v : CallType) :
    CallMonitor × List (Delivery CallNotice) :=
  let (notifier, sent) := m.emergencyType.publishIfChanged live v
  ({ m with emergencyType := notifier }, sent.map (·.map .emergencyType))

/-- Takes a report about a voice or video call. Under the overlay the call type stays as it is. -/
def updateLeg (m : CallMonitor) (live : Liveness) (event : CallEvent) :
    CallMonitor × List (Delivery CallNotice) :=
  let m := { m with legs := legsAfter m.legs event }
  if m.overlay then (m, []) else m.publishType live (aggregateLegs m.legs)

/-- Begins or ends the overlay after the kept emergency call changed by `event`. -/
def updateOverlay (m : CallMonitor) (live : Liveness) (connected : TrafficClass → Bool)
    (event : CallEvent) : CallMonitor × List (Delivery CallNotice) :=
  if event.state.isEmergencyInProgress && !connected .emergency && connected .ims then
    { m with overlay := true }.publishType live .emergency
  else if event.state = .disconnected then
    let m := { m with overlay := false }
    if m.callType.current = some .emergency then m.publishType live (aggregateLegs m.legs)
    else (m, [])
  else (m, [])

/-- Takes a report about an emergency call. -/
def updateEmergency (m : CallMonitor) (live : Liveness) (connected : TrafficClass → Bool)
    (event : CallEvent) : CallMonitor × List (Delivery CallNotice) :=
  match emergencyAfter m.emergency event with
  | none => (m, [])
  | some kept =>
    let (told, first) :=
      { m with emergency := kept }.publishEmergencyType live (emergencyCallType kept)
    let (settled, second) := told.updateOverlay live connected event
    (settled, first ++ second)

/-- The remembered thresholds that an active call is given. -/
def thresholdsFor (m : CallMonitor) (event : CallEvent) : List ThresholdPush :=
  if event.state = .active then m.pending.toList.map fun request =>
    ⟨m.slot, event.id, request⟩ else []

/-- The consumers to whom a report of poor media goes, and what they are told. -/
def mediaDeliveries (m : CallMonitor) (live : Liveness) (r : PoorMedia) :
    List (Delivery CallNotice) :=
  let toIms := (m.imsMedia.broadcast live r none).map (·.map .imsMedia)
  match r.callType with
  | .idle => []
  | .voice | .video => toIms
  | .emergency =>
    (m.emergencyMedia.broadcast live r none).map (·.map .emergencyMedia) ++
      if m.overlay then toIms else []

/-- The monitor after a report of poor media: a registry that was told keeps its live consumers. -/
def afterMedia (m : CallMonitor) (live : Liveness) (r : PoorMedia) : CallMonitor :=
  let imsTold :=
    r.callType = .voice || r.callType = .video || (r.callType = .emergency && m.overlay)
  { m with
    imsMedia := if imsTold then m.imsMedia.sweep live else m.imsMedia
    emergencyMedia :=
      if r.callType = .emergency then m.emergencyMedia.sweep live else m.emergencyMedia }

/-- Refuses thresholds for a class that carries no media. -/
def checkRequest (r : ThresholdRequest) : Except StatusError Unit :=
  if r.trafficClass.carriesMedia then .ok () else .error (.invalidTrafficClass r.trafficClass.raw)

/-- The class with this number, if reports of poor media exist for it. -/
def mediaClass (raw : UInt32) : Except StatusError TrafficClass :=
  match TrafficClass.ofRaw? raw with
  | some .ims => .ok .ims
  | some .emergency => .ok .emergency
  | _ => .error (.invalidTrafficClass raw)

/-- The consumers of poor-media reports for a class. -/
def mediaRegistry (m : CallMonitor) : TrafficClass → Registry
  | .emergency => m.emergencyMedia
  | _ => m.imsMedia

/-- Replaces the consumers of poor-media reports for a class. -/
def withMediaRegistry (m : CallMonitor) (c : TrafficClass) (r : Registry) : CallMonitor :=
  match c with
  | .emergency => { m with emergencyMedia := r }
  | _ => { m with imsMedia := r }

/-- Registers a consumer. The streams of the call types replay nothing. -/
def register (m : CallMonitor) (live : Liveness) (c : ConsumerId) (tag : Tag) :
    CallStream → CallMonitor × List (Delivery CallNotice)
  | .callType => ({ m with callType := m.callType.register c tag }, [])
  | .emergencyType => ({ m with emergencyType := m.emergencyType.register c tag }, [])
  | .preferredTransport =>
    let (notifier, sent) := m.preferredTransport.registerWithReplay live c tag
    ({ m with preferredTransport := notifier }, sent.map (·.map .preferredTransport))
  | .tryingWfc =>
    let (notifier, sent) := m.tryingWfc.registerWithReplay live c tag
    ({ m with tryingWfc := notifier }, sent.map (·.map .tryingWfc))

/-- Removes a consumer from a stream. -/
def unregister (m : CallMonitor) (c : ConsumerId) : CallStream → CallMonitor
  | .callType => { m with callType := m.callType.unregister c }
  | .emergencyType => { m with emergencyType := m.emergencyType.unregister c }
  | .preferredTransport => { m with preferredTransport := m.preferredTransport.unregister c }
  | .tryingWfc => { m with tryingWfc := m.tryingWfc.unregister c }

/-- The consumers of a stream. -/
def streamRegistry (m : CallMonitor) : CallStream → Registry
  | .callType => m.callType.registry
  | .emergencyType => m.emergencyType.registry
  | .preferredTransport => m.preferredTransport.registry
  | .tryingWfc => m.tryingWfc.registry

/-- Drops every consumer and every published value, and takes no call reports from now on. -/
def close (m : CallMonitor) : CallMonitor :=
  if m.isClosed then m
  else
    { m with
      isClosed := true
      callType := m.callType.clear
      emergencyType := m.emergencyType.clear
      preferredTransport := m.preferredTransport.clear
      tryingWfc := m.tryingWfc.clear
      imsMedia := m.imsMedia.clear
      emergencyMedia := m.emergencyMedia.clear }

/-! ## Requests -/

/-- What can be asked of a call monitor. -/
inductive Op where
  | update (event : CallEvent)
  | poorMedia (r : PoorMedia)
  | requestThresholds (r : ThresholdRequest)
  | preferTransport (t : Transport)
  | tryWfc (trying : Bool)
  | register (stream : CallStream) (c : ConsumerId) (tag : Tag)
  | unregister (stream : CallStream) (c : ConsumerId)
  | registerMedia (raw : UInt32) (c : ConsumerId) (tag : Tag)
  | unregisterMedia (raw : UInt32) (c : ConsumerId)
  | close

/-- The result of one request: the monitor after it, the answer, what consumers were sent, and what
was pushed to the media stack. -/
structure Outcome where
  monitor : CallMonitor
  answer : Answer
  sent : List (Delivery CallNotice)
  pushed : List ThresholdPush

/-- Carries out one request. `connected` says for which traffic classes a session exists at that
moment. -/
def step (m : CallMonitor) (live : Liveness) (connected : TrafficClass → Bool) : Op → Outcome
  | .update event =>
    if m.isClosed then ⟨m, .done, [], []⟩
    else
      let (updated, sent) :=
        if event.kind = .emergency then m.updateEmergency live connected event
          else m.updateLeg live event
      ⟨updated, .done, sent, m.thresholdsFor event⟩
  | .poorMedia r => ⟨m.afterMedia live r, .done, m.mediaDeliveries live r, []⟩
  | .requestThresholds r =>
    match checkRequest r with
    | .error e => ⟨m, .refused e, [], []⟩
    | .ok _ =>
      let pushed := (m.activeCall r.trafficClass).toList.map fun call => ⟨m.slot, call, r⟩
      ⟨{ m with pending := some r }, .accepted, [], pushed⟩
  | .preferTransport t =>
    let (notifier, sent) := m.preferredTransport.publishIfChanged live t
    ⟨{ m with preferredTransport := notifier }, .done, sent.map (·.map .preferredTransport), []⟩
  | .tryWfc trying =>
    let (notifier, sent) := m.tryingWfc.publishIfChanged live trying
    ⟨{ m with tryingWfc := notifier }, .done, sent.map (·.map .tryingWfc), []⟩
  | .register stream c tag =>
    let (registered, sent) := m.register live c tag stream
    ⟨registered, .done, sent, []⟩
  | .unregister stream c =>
    ⟨m.unregister c stream, .flag ((m.streamRegistry stream).contains c), [], []⟩
  | .registerMedia raw c tag =>
    match mediaClass raw with
    | .error e => ⟨m, .refused e, [], []⟩
    | .ok cls =>
      ⟨m.withMediaRegistry cls ((m.mediaRegistry cls).addUnique ⟨c, tag, none⟩), .accepted, [], []⟩
  | .unregisterMedia raw c =>
    match mediaClass raw with
    | .error e => ⟨m, .refused e, [], []⟩
    | .ok cls =>
      let registry := m.mediaRegistry cls
      ⟨m.withMediaRegistry cls (registry.remove c), .flag (registry.contains c), [], []⟩
  | .close => ⟨m.close, .done, [], []⟩

/-- The inspection text. -/
def inspect (m : CallMonitor) : String :=
  Text.record "CallStateAggregator"
    [("slot", m.slot.inspect), ("call_type", Named.name m.currentType),
      ("closed", Text.bool m.isClosed)]

end CallMonitor

end AccessStatus
