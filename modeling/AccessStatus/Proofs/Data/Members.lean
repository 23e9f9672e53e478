import AccessStatus.Data.Monitor
import AccessStatus.Proofs.Stream.Members
import AccessStatus.Proofs.Stream.World

/-!
# Who is registered with a connection monitor

Whatever property the consumers have that register, all who are registered with any machine of a
monitor have it, and whoever is sent anything is live and has it (`Within.step`).
-/

namespace AccessStatus

namespace ConnectionMonitor

/-- All consumers that are registered with a monitor have the property. -/
def Within (P : ConsumerId → Prop) (m : ConnectionMonitor) : Prop :=
  ∀ c, (m.machines.get c).notifier.registry.Within P

/-- The consumer that a request registers. -/
def Op.registers : Op → Option ConsumerId
  | .register _ c _ | .machineRegister _ c _ => some c
  | _ => none

section Within

variable {P : ConsumerId → Prop} {m : ConnectionMonitor}

theorem within_fresh (slot : SlotIndex) : (fresh slot).Within P := by
  intro c
  rw [fresh, PerClass.get_all]
  exact Registry.within_empty _

/-- One class may get another machine whose consumers are within the set. -/
theorem Within.set (within : m.Within P) (c : TrafficClass) {machine : ConnectionMachine}
    (members : machine.notifier.registry.Within P) :
    { m with machines := m.machines.set c machine }.Within P := by
  intro d
  by_cases same : d = c
  · subst same
    rw [PerClass.get_set_self]
    exact members
  · rw [PerClass.get_set_of_ne _ _ same]
    exact within d

/-- A report reaches registered consumers only. -/
theorem Within.reportTo (within : m.Within P) (live : Liveness) (c : TrafficClass)
    (r : ConnectionReport) :
    (m.reportTo live c r).monitor.Within P ∧ Reaches live P (m.reportTo live c r).sent := by
  have reported : ((m.machines.get c).report live r).1.notifier.registry.Within P ∧
      Reaches live P ((m.machines.get c).report live r).2 := by
    unfold ConnectionMachine.report
    split
    · exact ⟨within c, reaches_nil⟩
    · exact Notifier.within_publish (within c) live _
  exact ⟨within.set c reported.1, reported.2.map _⟩

/-- A registration adds a consumer that is to be there, and reaches nobody else. -/
theorem Within.registerWith (within : m.Within P) (live : Liveness) (cls : TrafficClass)
    {c : ConsumerId} (own : P c) (tag : Tag) (answer : Answer) :
    (m.registerWith live cls c tag answer).monitor.Within P ∧
      Reaches live P (m.registerWith live cls c tag answer).sent := by
  obtain ⟨kept, reaches⟩ := Notifier.within_registerWithReplay (within cls) live own tag
  exact ⟨within.set cls kept, reaches.map _⟩

/-- A removal adds nobody. -/
theorem Within.unregisterFrom (within : m.Within P) (cls : TrafficClass) (c : ConsumerId) :
    (m.unregisterFrom cls c).monitor.Within P := within.set cls ((within cls).remove c)

/-- Nor does a closing. -/
theorem Within.close (within : m.Within P) : m.close.Within P := by
  unfold ConnectionMonitor.close
  split
  · exact within
  · intro c
    rw [PerClass.get_map]
    exact Registry.within_clear _

/-- Whatever is asked, all who are registered keep a property that those who register have, and only
they are reached. -/
theorem Within.step (within : m.Within P) (live : Liveness) {op : Op}
    (own : ∀ c, op.registers = some c → P c) :
    (m.step live op).monitor.Within P ∧ Reaches live P (m.step live op).sent := by
  cases op with
  | report c r =>
    unfold ConnectionMonitor.step
    dsimp only
    split
    · exact ⟨within, reaches_nil⟩
    · exact within.reportTo live c r
  | register raw c tag =>
    unfold ConnectionMonitor.step
    dsimp only
    split
    · exact ⟨within, reaches_nil⟩
    · split
      · exact ⟨within, reaches_nil⟩
      · exact within.registerWith live _ (own c rfl) tag _
  | unregister raw c =>
    unfold ConnectionMonitor.step
    dsimp only
    split
    · exact ⟨within, reaches_nil⟩
    · exact ⟨within.unregisterFrom _ c, reaches_nil⟩
  | close => exact ⟨within.close, reaches_nil⟩
  | machineReport c r => exact within.reportTo live c r
  | machineRegister cls c tag => exact within.registerWith live cls (own c rfl) tag _
  | machineUnregister cls c => exact ⟨within.unregisterFrom cls c, reaches_nil⟩

end Within

/-! ## Monitors in a world of consumers -/

/-- The monitor after a request, and what is sent. -/
def serve : Serving ConnectionMonitor Op (TrafficClass × ConnectionChange) := fun m live op =>
  ((m.step live op).monitor, (m.step live op).sent)

/-- The beginning of a run: the monitor is fresh, consumers may exist. -/
def beginning (slot : SlotIndex) (room : Mailroom (TrafficClass × ConnectionChange)) :
    World ConnectionMonitor (TrafficClass × ConnectionChange) := ⟨fresh slot, room⟩

/-- Nothing is sent to consumers that are not live. -/
theorem discreet_serve : serve.Discreet := by
  intro m live op c dead
  have anyone : m.Within fun _ => True := fun _ _ _ => trivial
  obtain ⟨-, reaches⟩ : (m.step live op).monitor.Within (fun _ => True) ∧
      Reaches live (fun _ => True) (m.step live op).sent := anyone.step live fun _ _ => trivial
  exact reaches.received fun ⟨alive, _⟩ => Bool.false_ne_true (dead.symm.trans alive)

end ConnectionMonitor

end AccessStatus
