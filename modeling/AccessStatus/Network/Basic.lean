import AccessStatus.Ident
import AccessStatus.Named

/-!
# Networks

The default network as the system reports it, and the protocols that its addresses make usable.
-/

namespace AccessStatus

/-- What a network runs over. -/
inductive NetworkTransport where
  | wifi | cellular | other
  deriving DecidableEq

instance : Named NetworkTransport where
  name
    | .wifi => "Wifi"
    | .cellular => "Cellular"
    | .other => "Other"
  all := [.wifi, .cellular, .other]
  find_name t := by cases t <;> decide

/-- An address of a link: four bytes, or eight groups of sixteen bits. -/
inductive Address where
  | v4 (a b c d : UInt8)
  | v6 (a b c d e f g h : UInt16)
  deriving DecidableEq

namespace Address

/-- A version 4 address that is neither a loopback address nor all zeros. -/
def isUsableV4 : Address → Bool
  | v4 a b c d => a != 127 && !(a == 0 && b == 0 && c == 0 && d == 0)
  | v6 .. => false

/-- A version 6 address that is neither loopback, nor all zeros, nor link-local, nor unique
local. -/
def isUsableV6 : Address → Bool
  | v4 .. => false
  | v6 a b c d e f g h =>
    let upperZero := a == 0 && b == 0 && c == 0 && d == 0 && e == 0 && f == 0 && g == 0
    !(upperZero && h == 1) && !(upperZero && h == 0) && (a &&& 0xffc0) != 0xfe80 &&
      (a &&& 0xfe00) != 0xfc00

end Address

/-- The protocols that a link's addresses make usable. -/
inductive LinkProtocol where
  | unknown | ipv4 | ipv6 | ipv4v6
  deriving DecidableEq

/-- Nothing is known of the link. -/
instance : Inhabited LinkProtocol := ⟨.unknown⟩

instance : Named LinkProtocol where
  name
    | .unknown => "Unknown"
    | .ipv4 => "Ipv4"
    | .ipv6 => "Ipv6"
    | .ipv4v6 => "Ipv4v6"
  all := [.unknown, .ipv4, .ipv6, .ipv4v6]
  find_name p := by cases p <;> decide

namespace LinkProtocol

/-- The protocols for which the list has a usable address. -/
def ofAddresses (addresses : List Address) : LinkProtocol :=
  match addresses.any Address.isUsableV4, addresses.any Address.isUsableV6 with
  | true, true => ipv4v6
  | true, false => ipv4
  | false, true => ipv6
  | false, false => unknown

/-- Whether version 4 is not usable. -/
def lacksIpv4 : LinkProtocol → Bool
  | unknown | ipv6 => true
  | ipv4 | ipv4v6 => false

end LinkProtocol

/-- A report about the system's default network. -/
inductive NetworkEvent where
  /-- A network became the default. -/
  | available (network : NetworkId) (transport : NetworkTransport)
    (subscription : Option SubscriptionId)
  /-- The default network's properties changed. -/
  | capabilities (network : NetworkId) (transport : NetworkTransport)
    (subscription : Option SubscriptionId)
  /-- A network has these addresses now. -/
  | link (network : NetworkId) (addresses : List Address)
  /-- A network is gone. -/
  | lost (network : NetworkId)
  deriving DecidableEq

end AccessStatus
