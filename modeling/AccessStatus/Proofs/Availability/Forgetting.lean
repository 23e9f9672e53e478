import AccessStatus.Proofs.Availability.Isolation

/-!
# Slots that are forgotten

A monitor that forgets a slot is as if nothing had ever been asked about that slot. What is asked
about the slot makes no difference to what is left once it is forgotten (`forget_next_of_slot`), and
whatever else is asked comes to the same whether the slot is forgotten before or after
(`forget_next_of_other`).
-/

namespace AccessStatus

namespace AvailabilityMonitor

/-- A monitor is what its four parts are. -/
theorem eq_of_parts {m n : AvailabilityMonitor} (network : m.network = n.network)
    (inputs : m.inputs = n.inputs) (contexts : m.contexts = n.contexts)
    (isClosed : m.isClosed = n.isClosed) : m = n := by
  obtain ⟨network', inputs', contexts', isClosed'⟩ := m
  obtain rfl := network
  obtain rfl := inputs
  obtain rfl := contexts
  obtain rfl := isClosed
  rfl

/-- A new monitor has nothing to forget. -/
theorem forget_fresh (slot : SlotIndex) : fresh.closeSlot slot = fresh :=
  eq_of_parts rfl (Table.erase_empty slot) (Table.erase_empty slot) rfl

/-- A slot that is forgotten is not there to be forgotten again. -/
theorem forget_twice (m : AvailabilityMonitor) (slot : SlotIndex) :
    (m.closeSlot slot).closeSlot slot = m.closeSlot slot :=
  eq_of_parts rfl (Table.erase_erase_self _ slot) (Table.erase_erase_self _ slot) rfl

/-- What is refused by a closed monitor is nothing to a slot that is forgotten. -/
theorem forget_unlessClosed (m : AvailabilityMonitor) (slot : SlotIndex)
    {change changeToo : AvailabilityMonitor × List (Delivery (SlotIndex × Availability))}
    (same : change.1.closeSlot slot = changeToo.1) :
    (m.unlessClosed change).monitor.closeSlot slot =
      ((m.closeSlot slot).unlessClosed changeToo).monitor := by
  have guard : (m.closeSlot slot).isClosed = m.isClosed := rfl
  unfold unlessClosed
  rw [guard]
  split
  · rfl
  · exact same

section Evaluate

variable (m : AvailabilityMonitor) (config : ConfigSource) (live : Liveness) {slot j : SlotIndex}

/-- Other slots are evaluated as before. -/
theorem evaluateContext_forget (other : j ≠ slot) (trigger : Trigger) (ctx : SlotContext) :
    (m.closeSlot slot).evaluateContext config live trigger j ctx =
      m.evaluateContext config live trigger j ctx := by
  have inputs : (m.closeSlot slot).inputsOf j = m.inputsOf j := by
    unfold inputsOf closeSlot
    rw [Table.get?_erase_of_ne _ other]
  unfold evaluateContext compute
  rw [inputs]
  rfl

/-- It makes no difference whether a slot is forgotten before or after another one is evaluated. -/
theorem forget_evaluateSlot_of_other (other : j ≠ slot) :
    (m.evaluateSlot config live j).1.closeSlot slot =
      ((m.closeSlot slot).evaluateSlot config live j).1 := by
  have context : (m.closeSlot slot).contexts.get? j = m.contexts.get? j :=
    Table.get?_erase_of_ne _ other
  unfold evaluateSlot
  rw [context]
  cases m.contexts.get? j with
  | none => rfl
  | some ctx =>
    dsimp only
    rw [m.evaluateContext_forget config live other]
    exact eq_of_parts rfl rfl (Table.erase_set_of_ne _ other _) rfl

/-- What an evaluation finds for a slot is forgotten with the slot. -/
theorem forget_evaluateSlot (slot : SlotIndex) :
    (m.evaluateSlot config live slot).1.closeSlot slot = m.closeSlot slot := by
  unfold evaluateSlot
  split
  · rfl
  · exact eq_of_parts rfl rfl (Table.erase_set_self _ slot _) rfl

/-- An evaluation of all slots leaves the others as it does when this one is forgotten before. -/
theorem forget_evaluateAll (slot : SlotIndex) (trigger : Trigger) :
    (m.evaluateAll config live trigger).1.closeSlot slot =
      ((m.closeSlot slot).evaluateAll config live trigger).1 := by
  refine eq_of_parts rfl rfl ?_ rfl
  -- the slot itself is not among those that are left
  have left (j : SlotIndex) (ctx : SlotContext)
    (found : (m.contexts.erase slot).get? j = some ctx) :
      (m.evaluateContext config live trigger j ctx).1 =
        ((m.closeSlot slot).evaluateContext config live trigger j ctx).1 := by
    have other : j ≠ slot := by
      rintro rfl
      rw [Table.get?_erase_self] at found
      cases found
    rw [m.evaluateContext_forget config live other]
  exact (Table.erase_mapEntries _ m.contexts slot).trans (Table.mapEntries_congr left)

/-- A report about a slot is forgotten with it. -/
theorem forget_inputChanged (slot : SlotIndex) (inputs : SlotInputs) :
    (m.inputChanged config live slot inputs).1.closeSlot slot = m.closeSlot slot := by
  unfold inputChanged
  rw [forget_evaluateSlot]
  exact eq_of_parts rfl (Table.erase_set_self _ slot inputs) rfl rfl

/-- The same is so of what is reported about another slot. -/
theorem forget_inputChanged_of_other (other : j ≠ slot) (inputs : SlotInputs) :
    (m.inputChanged config live j inputs).1.closeSlot slot =
      ((m.closeSlot slot).inputChanged config live j inputs).1 := by
  unfold inputChanged
  rw [forget_evaluateSlot_of_other _ config live other]
  refine congrArg (fun n => (evaluateSlot n config live j).1) ?_
  exact eq_of_parts rfl (Table.erase_set_of_ne _ other inputs) rfl rfl

end Evaluate

section Next

variable (m : AvailabilityMonitor) (config : ConfigSource) (live : Liveness) {slot : SlotIndex}
  {op : Op}

/-- What was asked about a slot is forgotten with it. -/
theorem forget_next_of_slot (mine : op.slot? = some slot) :
    (m.next config live op).closeSlot slot = m.closeSlot slot := by
  have guarded {change : AvailabilityMonitor × List (Delivery (SlotIndex × Availability))}
      (same : change.1.closeSlot slot = m.closeSlot slot) :
        (m.unlessClosed change).monitor.closeSlot slot = m.closeSlot slot := by
    unfold unlessClosed
    split
    · rfl
    · exact same
  cases op with
  | registered j yes | crossSim j enabled =>
    obtain rfl : j = slot := Option.some.inj mine
    exact guarded (m.forget_inputChanged config live j _)
  | register j c tag =>
    obtain rfl : j = slot := Option.some.inj mine
    exact guarded (eq_of_parts rfl rfl (Table.erase_set_self _ j _) rfl)
  | unregister j c =>
    obtain rfl : j = slot := Option.some.inj mine
    show (m.unregister j c).1.closeSlot j = m.closeSlot j
    unfold unregister
    split
    · rfl
    · exact eq_of_parts rfl rfl (Table.erase_set_self _ j _) rfl
  | closeSlot j =>
    obtain rfl : j = slot := Option.some.inj mine
    exact m.forget_twice j
  | network event => cases mine
  | configChanged => cases mine
  | close => cases mine

/-- Whatever is asked that is not about a slot, it comes to the same whether the slot is forgotten
before or after. -/
theorem forget_next_of_other (other : op.slot? ≠ some slot) :
    (m.next config live op).closeSlot slot = (m.closeSlot slot).next config live op := by
  have inputs {j : SlotIndex} (differs : j ≠ slot) :
      (m.closeSlot slot).inputsOf j = m.inputsOf j := by
    unfold inputsOf closeSlot
    rw [Table.get?_erase_of_ne _ differs]
  -- a request about another slot works on entries that forgetting does not touch
  cases op with
  | network event =>
    refine m.forget_unlessClosed slot ?_
    unfold networkChanged
    have known : (m.closeSlot slot).network = m.network := rfl
    rw [known]
    split
    · rfl
    · exact forget_evaluateAll _ config live slot _
  | registered j yes | crossSim j enabled =>
    have differs : j ≠ slot := fun same => other (congrArg some same)
    refine m.forget_unlessClosed slot ?_
    rw [inputs differs]
    exact m.forget_inputChanged_of_other config live differs _
  | configChanged =>
    exact m.forget_unlessClosed slot (m.forget_evaluateAll config live slot .update)
  | register j c tag =>
    have differs : j ≠ slot := fun same => other (congrArg some same)
    have context : (m.closeSlot slot).contexts.get? j = m.contexts.get? j :=
      Table.get?_erase_of_ne _ differs
    have value : (m.closeSlot slot).compute config j = m.compute config j := by
      unfold compute
      rw [inputs differs]
      rfl
    refine m.forget_unlessClosed slot ?_
    unfold register
    rw [context, value]
    exact eq_of_parts rfl rfl (Table.erase_set_of_ne _ differs _) rfl
  | unregister j c =>
    have differs : j ≠ slot := fun same => other (congrArg some same)
    have context : (m.closeSlot slot).contexts.get? j = m.contexts.get? j :=
      Table.get?_erase_of_ne _ differs
    show (m.unregister j c).1.closeSlot slot = ((m.closeSlot slot).unregister j c).1
    unfold unregister
    rw [context]
    cases m.contexts.get? j with
    | none => rfl
    | some ctx => exact eq_of_parts rfl rfl (Table.erase_set_of_ne _ differs _) rfl
  | closeSlot j => exact eq_of_parts rfl (Table.erase_comm _ slot j) (Table.erase_comm _ slot j) rfl
  | close =>
    show m.close.closeSlot slot = (m.closeSlot slot).close
    have guard : (m.closeSlot slot).isClosed = m.isClosed := rfl
    unfold close
    rw [guard]
    split
    · rfl
    · exact eq_of_parts rfl (Table.erase_empty slot) (Table.erase_empty slot) rfl

end Next

end AvailabilityMonitor

end AccessStatus
