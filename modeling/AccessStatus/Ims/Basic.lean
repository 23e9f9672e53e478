import AccessStatus.TrafficClass

/-!
# IMS registration status
-/

namespace AccessStatus

/-- How far a slot is registered with the IMS. -/
inductive RegistrationState where
  | unregistered | registering | registered
  deriving DecidableEq

/-- Not registered. -/
instance : Inhabited RegistrationState := ⟨.unregistered⟩

instance : Named RegistrationState where
  name
    | .unregistered => "Unregistered"
    | .registering => "Registering"
    | .registered => "Registered"
  all := [.unregistered, .registering, .registered]
  find_name s := by cases s <;> decide

/-- The registration status of a slot. -/
structure Registration where
  state : RegistrationState
  transport : Transport
  reason : Int32
  deriving DecidableEq

/-- Registered over a transport. -/
def Registration.registered (transport : Transport) : Registration := ⟨.registered, transport, 0⟩

/-- Not registered, for a reason. -/
def Registration.unregistered (reason : Int32) : Registration := ⟨.unregistered, .invalid, reason⟩

end AccessStatus
