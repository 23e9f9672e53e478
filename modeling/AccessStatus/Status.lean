/-!
# The statuses that are told

Each status has a key by which it is known outside.
-/

namespace AccessStatus

/-- A status that consumers can ask to be told. -/
inductive Status where
  | callType | poorMedia | preferredTransport | tryingWfc | connection | registration | availability
  deriving DecidableEq

/-- The key of a status. -/
def Status.key : Status → String
  | callType => "call_type"
  | poorMedia => "rtp_low_quality"
  | preferredTransport => "emergency_preferred_transport"
  | tryingWfc => "try_wfc_connection_state"
  | connection => "data_connection_status"
  | registration => "ims_registration"
  | availability => "iwlan_availability"

end AccessStatus
