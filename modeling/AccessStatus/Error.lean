import AccessStatus.Executor.Basic
import AccessStatus.Ident

/-!
# Errors

Why a request is refused, and the wording of each refusal.
-/

namespace AccessStatus

/-- A collaborator that a call monitor cannot do without. -/
inductive Dependency where
  | mediaQuality | dataStatus
  deriving DecidableEq

/-- What is wrong with a configuration. -/
inductive ConfigFault where
  /-- The document cannot be read. -/
  | unreadable
  /-- A slot has two entries. -/
  | duplicateSlot (slot : SlotIndex)
  /-- There is to be no slot at all. -/
  | noSlots
  /-- The names of worker threads would have nothing in front. -/
  | emptyThreadPrefix
  deriving DecidableEq

/-- Why a request is refused. -/
inductive StatusError where
  /-- The number is no traffic class for which the request makes sense. -/
  | invalidTrafficClass (raw : UInt32)
  /-- A collaborator was not supplied. -/
  | missingDependency (dependency : Dependency)
  /-- The slot does not exist. -/
  | invalidSlot (slot : SlotIndex) (slotCount : UInt8)
  /-- The slot's provider has been closed. -/
  | providerClosed (slot : SlotIndex)
  /-- The configuration cannot be used. -/
  | config (fault : ConfigFault)
  /-- An executor refused the work. -/
  | dispatch (error : DispatchError)
  deriving DecidableEq

/-- The wording for a collaborator. -/
def Dependency.text : Dependency → String
  | mediaQuality => "media quality controller"
  | dataStatus => "data connection status"

/-- The wording for a fault of a configuration. -/
def ConfigFault.text : ConfigFault → String
  | unreadable => "the document cannot be read"
  | duplicateSlot slot => slot.text ++ " is configured more than once"
  | noSlots => "slot_count must be at least 1"
  | emptyThreadPrefix => "thread_name_prefix must not be empty"

/-- The name of a refusal's kind. -/
def StatusError.kind : StatusError → String
  | invalidTrafficClass _ => "InvalidTrafficClass"
  | missingDependency _ => "MissingDependency"
  | invalidSlot .. => "InvalidSlot"
  | providerClosed _ => "ProviderClosed"
  | config _ => "Config"
  | dispatch _ => "Dispatch"

/-- The wording of a refusal. -/
def StatusError.message : StatusError → String
  | invalidTrafficClass raw =>
    "Traffic class " ++ Text.hexadecimal raw.toNat ++ " is not valid for this registration"
  | missingDependency dependency => "Missing required dependency: " ++ dependency.text
  | invalidSlot slot slotCount =>
    "Slot " ++ slot.text ++ " is out of range (slot count " ++ Text.natural slotCount.toNat ++ ")"
  | providerClosed slot => "Provider for " ++ slot.text ++ " has been closed"
  | config fault => "Configuration error: " ++ fault.text
  | dispatch error => "Dispatch error: " ++ error.message

end AccessStatus
