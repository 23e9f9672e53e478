/-!
# Change gates

A gate remembers the last value that passed. An offered value passes when nothing is remembered or
when it differs from what is; "differs" is the type's own test, which need not be an equivalence (a
number that is not equal to itself always passes, and the two zeros do not pass after each other).
-/

namespace AccessStatus

/-- A gate and the value that passed it last. -/
structure Gate (α : Type) where
  current : Option α
  deriving DecidableEq

namespace Gate

variable {α : Type}

/-- Nothing has passed yet. -/
def empty : Gate α := ⟨none⟩

/-- A gate that `v` passed. -/
def holding (v : α) : Gate α := ⟨some v⟩

/-- Whether `v` would pass. -/
def wouldChange [BEq α] (g : Gate α) (v : α) : Bool :=
  match g.current with
  | none => true
  | some last => last != v

/-- Remembers `v` whether it differs or not. -/
def force (_ : Gate α) (v : α) : Gate α := ⟨some v⟩

/-- Remembers `v` if it passes, and says whether it did. -/
def offer [BEq α] (g : Gate α) (v : α) : Gate α × Bool :=
  match g.current with
  | none => (⟨some v⟩, true)
  | some last => if last != v then (⟨some v⟩, true) else (g, false)

/-- Forgets what passed. -/
def reset (_ : Gate α) : Gate α := ⟨none⟩

/-- What can be done with a gate. -/
inductive Op (α : Type) where
  | offer (v : α)
  | force (v : α)
  | wouldChange (v : α)
  | reset

/-- What an operation on a gate answers. -/
inductive Answer (α : Type) where
  | done
  | accepted (yes : Bool)
  | removed (v : Option α)

/-- Performs one operation. -/
def step [BEq α] (g : Gate α) : Op α → Gate α × Answer α
  | .offer v => ((g.offer v).1, .accepted (g.offer v).2)
  | .force v => (g.force v, .done)
  | .wouldChange v => (g, .accepted (g.wouldChange v))
  | .reset => (g.reset, .removed g.current)

end Gate

end AccessStatus
