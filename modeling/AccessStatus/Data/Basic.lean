import AccessStatus.TrafficClass

/-!
# Data connections

The states of a data connection, the raw reports about it, and the table that turns a report into an
event. A report that the table has no row for is dropped.
-/

namespace AccessStatus

/-- The state of a data connection. -/
inductive ConnectionState where
  | inactive | connecting | connected | handover
  deriving DecidableEq

/-- Not connected. -/
instance : Inhabited ConnectionState := ⟨.inactive⟩

/-- Whether a session exists. -/
def ConnectionState.isActive : ConnectionState → Bool
  | connected | handover => true
  | inactive | connecting => false

theorem ConnectionState.isActive_iff (s : ConnectionState) :
    s.isActive = true ↔ s = connected ∨ s = handover := by
  cases s <;> decide

instance : Named ConnectionState where
  name
    | .inactive => "Inactive"
    | .connecting => "Connecting"
    | .connected => "Connected"
    | .handover => "Handover"
  all := [.inactive, .connecting, .connected, .handover]
  find_name s := by cases s <;> decide

/-- The state of a connection as the modem reports it. -/
inductive ReportedState where
  | disconnected | connecting | connected | disconnecting | handoverInProgress | suspended | unknown
  deriving DecidableEq

instance : Named ReportedState where
  name
    | .disconnected => "Disconnected"
    | .connecting => "Connecting"
    | .connected => "Connected"
    | .disconnecting => "Disconnecting"
    | .handoverInProgress => "HandoverInProgress"
    | .suspended => "Suspended"
    | .unknown => "Unknown"
  all :=
    [.disconnected, .connecting, .connected, .disconnecting, .handoverInProgress, .suspended,
      .unknown]
  find_name s := by cases s <;> decide

/-- What happened to a data connection. -/
inductive ConnectionEvent where
  | started | connected | failed | disconnected | handoverStarted | handoverSuccess | handoverFailed
  deriving DecidableEq

instance : Named ConnectionEvent where
  name
    | .started => "Started"
    | .connected => "Connected"
    | .failed => "Failed"
    | .disconnected => "Disconnected"
    | .handoverStarted => "HandoverStarted"
    | .handoverSuccess => "HandoverSuccess"
    | .handoverFailed => "HandoverFailed"
  all :=
    [.started, .connected, .failed, .disconnected, .handoverStarted, .handoverSuccess,
      .handoverFailed]
  find_name e := by cases e <;> decide

/-- A raw report about the connection of one class. -/
structure ConnectionReport where
  transport : Transport
  state : ReportedState
  failCause : Int32
  deriving DecidableEq

/-- What subscribers are told about a connection: the event and what it led to. -/
structure ConnectionChange where
  event : ConnectionEvent
  state : ConnectionState
  transport : Transport
  failCause : Int32
  deriving DecidableEq

/-- The transition table. `moved` says that the report names another transport than the last
accepted one: a handover can only start where the connection is, and it succeeds exactly when the
connection comes up elsewhere. -/
def transition (state : ConnectionState) (reported : ReportedState) (moved : Bool) :
    Option (ConnectionState × ConnectionEvent) :=
  match state, reported with
  | .inactive, .connecting => some (.connecting, .started)
  | .connecting, .disconnected => some (.inactive, .failed)
  | .connecting, .connected => some (.connected, .connected)
  | .inactive, .connected => some (.connected, .connected)
  | .connected, .disconnected => some (.inactive, .disconnected)
  | .handover, .disconnected => some (.inactive, .disconnected)
  | .connected, .handoverInProgress => if moved then none else some (.handover, .handoverStarted)
  | .handover, .connected =>
    some (.connected, if moved then .handoverSuccess else .handoverFailed)
  | _, _ => none

end AccessStatus
