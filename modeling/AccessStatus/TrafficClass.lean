import AccessStatus.Named

/-!
# Traffic classes and transports

A traffic class is what a data connection is for. Outside it is known by a number with a single bit
set; no combination of bits is a class.
-/

namespace AccessStatus

/-- What a data connection is for. -/
inductive TrafficClass where
  | mms | ims | emergency | xcap
  deriving DecidableEq

namespace TrafficClass

/-- The classes, in order. -/
def all : List TrafficClass := [mms, ims, emergency, xcap]

/-- The number of a class. -/
def raw : TrafficClass → UInt32
  | mms => 2
  | ims => 64
  | emergency => 512
  | xcap => 2048

/-- The class with this number. -/
def ofRaw? (n : UInt32) : Option TrafficClass := all.find? fun c => c.raw = n

theorem ofRaw?_raw (c : TrafficClass) : ofRaw? c.raw = some c := by cases c <;> decide

theorem raw_of_ofRaw? {n : UInt32} {c : TrafficClass} (found : ofRaw? n = some c) : c.raw = n := by
  simpa using List.find?_some found

/-- Whether calls, and so media streams, run over connections of the class. -/
def carriesMedia : TrafficClass → Bool
  | ims | emergency => true
  | mms | xcap => false

/-- The text of a class in messages. -/
def text : TrafficClass → String
  | mms => "mms"
  | ims => "ims"
  | emergency => "emergency"
  | xcap => "xcap"

end TrafficClass

instance : Named TrafficClass where
  name
    | .mms => "Mms"
    | .ims => "Ims"
    | .emergency => "Emergency"
    | .xcap => "Xcap"
  all := TrafficClass.all
  find_name c := by cases c <;> decide

/-- One thing for each traffic class. -/
structure PerClass (α : Type) where
  mms : α
  ims : α
  emergency : α
  xcap : α
  deriving DecidableEq

namespace PerClass

variable {α : Type}

/-- The same thing for every class. -/
def all (a : α) : PerClass α := ⟨a, a, a, a⟩

/-- What belongs to a class. -/
def get (p : PerClass α) : TrafficClass → α
  | .mms => p.mms
  | .ims => p.ims
  | .emergency => p.emergency
  | .xcap => p.xcap

/-- Replaces what belongs to a class. -/
def set (p : PerClass α) (c : TrafficClass) (a : α) : PerClass α :=
  match c with
  | .mms => { p with mms := a }
  | .ims => { p with ims := a }
  | .emergency => { p with emergency := a }
  | .xcap => { p with xcap := a }

/-- Changes what belongs to every class. -/
def map {β : Type} (f : α → β) (p : PerClass α) : PerClass β :=
  ⟨f p.mms, f p.ims, f p.emergency, f p.xcap⟩

@[simp] theorem get_all (a : α) (c : TrafficClass) : (all a).get c = a := by cases c <;> rfl

@[simp] theorem get_set_self (p : PerClass α) (c : TrafficClass) (a : α) :
    (p.set c a).get c = a := by
  cases c <;> rfl

theorem get_set_of_ne (p : PerClass α) {c d : TrafficClass} (a : α) (h : d ≠ c) :
    (p.set c a).get d = p.get d := by
  cases c <;> cases d <;> first | rfl | exact absurd rfl h

@[simp] theorem get_map {β : Type} (f : α → β) (p : PerClass α) (c : TrafficClass) :
    (p.map f).get c = f (p.get c) := by
  cases c <;> rfl

end PerClass

/-- The access over which a connection runs. -/
inductive Transport where
  | wwan | wlan | invalid
  deriving DecidableEq

namespace Transport

/-- Whether there is an access at all. -/
def isValid : Transport → Bool
  | wwan | wlan => true
  | invalid => false

/-- The text of a transport in messages. -/
def text : Transport → String
  | wwan => "WWAN"
  | wlan => "WLAN"
  | invalid => "INVALID"

end Transport

/-- Nothing is known of the access. -/
instance : Inhabited Transport := ⟨.invalid⟩

instance : Named Transport where
  name
    | .wwan => "Wwan"
    | .wlan => "Wlan"
    | .invalid => "Invalid"
  all := [.wwan, .wlan, .invalid]
  find_name t := by cases t <;> decide

end AccessStatus
