/-!
# Named alternatives

A type with finitely many values, each known by a name of its own. The name is how a value is
written in documents and in inspection texts; reading a name gives back the value it was written
from.
-/

namespace AccessStatus

/-- A list of all values of a type and a name for each, which finds the value again. -/
class Named (α : Type) where
  name : α → String
  all : List α
  find_name : ∀ a, all.find? (fun b => name b = name a) = some a

namespace Named

variable {α : Type} [Named α]

/-- The value with this name. -/
def ofName? (s : String) : Option α := (all : List α).find? fun a => name a = s

/-- A name finds its value. -/
@[simp] theorem ofName?_name (a : α) : ofName? (name a) = some a := find_name a

end Named

end AccessStatus
