import AccessStatus.Stream.Gate

/-!
# What a gate remembers
-/

namespace AccessStatus

namespace Gate

variable {α : Type} [BEq α]

/-- Offering a value is asking whether it would pass and remembering it if so. -/
theorem offer_eq (g : Gate α) (v : α) :
    g.offer v = if g.wouldChange v then (g.force v, true) else (g, false) := by
  unfold offer wouldChange
  cases g.current <;> rfl

/-- An offer is accepted exactly if it would change the value. -/
theorem accepted_offer (g : Gate α) (v : α) : (g.offer v).2 = g.wouldChange v := by
  rw [offer_eq]
  cases h : g.wouldChange v <;> rfl

/-- A gate that a value does not pass remembers that very value, if equality is lawful. -/
theorem current_eq_of_not_wouldChange [LawfulBEq α] (g : Gate α) {v : α}
    (refused : g.wouldChange v = false) :
    g.current = some v := by
  unfold wouldChange at refused
  cases h : g.current with
  | none => simp [h] at refused
  | some last => simpa [h] using refused

/-- A value that passes is not the one remembered. -/
theorem current_ne_of_wouldChange [LawfulBEq α] (g : Gate α) {v : α}
    (passes : g.wouldChange v = true) :
    g.current ≠ some v := by
  intro same
  simp [wouldChange, same] at passes

/-- After an offer the gate remembers the offered value, whether it passed or not. -/
@[simp] theorem current_offer [LawfulBEq α] (g : Gate α) (v : α) :
    (g.offer v).1.current = some v := by
  rw [offer_eq]
  split
  · rfl
  · rename_i refused
    exact g.current_eq_of_not_wouldChange (by simpa using refused)

end Gate

end AccessStatus
