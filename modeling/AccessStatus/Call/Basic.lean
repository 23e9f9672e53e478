import AccessStatus.Ident
import AccessStatus.TrafficClass

/-!
# Calls

What is reported about single calls, what is told about all calls of a slot, and the quality limits
that are asked for their media streams.
-/

namespace AccessStatus

/-- What kind of call a report is about. -/
inductive CallKind where
  | voice | video | emergency
  deriving DecidableEq

instance : Named CallKind where
  name
    | .voice => "Voice"
    | .video => "Video"
    | .emergency => "Emergency"
  all := [.voice, .video, .emergency]
  find_name k := by cases k <;> decide

/-- The state of one leg of a call. -/
inductive LegState where
  | idle | dialing | alerting | active | holding | disconnected
  deriving DecidableEq

/-- Whether an emergency call in this state is being set up or is up. -/
def LegState.isEmergencyInProgress : LegState → Bool
  | active | dialing | alerting => true
  | idle | holding | disconnected => false

instance : Named LegState where
  name
    | .idle => "Idle"
    | .dialing => "Dialing"
    | .alerting => "Alerting"
    | .active => "Active"
    | .holding => "Holding"
    | .disconnected => "Disconnected"
  all := [.idle, .dialing, .alerting, .active, .holding, .disconnected]
  find_name s := by cases s <;> decide

/-- A report about one call. -/
structure CallEvent where
  id : CallId
  kind : CallKind
  state : LegState
  deriving DecidableEq

/-- What a slot's calls amount to. -/
inductive CallType where
  | idle | voice | video | emergency
  deriving DecidableEq

/-- No call. -/
instance : Inhabited CallType := ⟨.idle⟩

instance : Named CallType where
  name
    | .idle => "Idle"
    | .voice => "Voice"
    | .video => "Video"
    | .emergency => "Emergency"
  all := [.idle, .voice, .video, .emergency]
  find_name t := by cases t <;> decide

/-- Why a media stream is said to be poor. -/
inductive PoorMediaReason where
  | jitter | packetLoss | noMedia
  deriving DecidableEq

instance : Named PoorMediaReason where
  name
    | .jitter => "Jitter"
    | .packetLoss => "PacketLoss"
    | .noMedia => "NoRtp"
  all := [.jitter, .packetLoss, .noMedia]
  find_name r := by cases r <;> decide

/-- A report that the media of a call is poor. -/
structure PoorMedia where
  callType : CallType
  reason : PoorMediaReason
  deriving DecidableEq

/-- Limits beyond which a media stream counts as poor. -/
structure Thresholds where
  jitterMs : UInt32
  packetLossRate : UInt32
  packetLossTimeMs : UInt32
  noMediaIntervalMs : UInt32
  deriving DecidableEq

/-- No limits set. -/
instance : Inhabited Thresholds := ⟨⟨0, 0, 0, 0⟩⟩

/-- A wish for limits on the calls of a traffic class. -/
structure ThresholdRequest where
  trafficClass : TrafficClass
  thresholds : Thresholds
  deriving DecidableEq

end AccessStatus
