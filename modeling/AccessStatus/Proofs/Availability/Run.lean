import AccessStatus.Availability.Monitor
import AccessStatus.Proofs.Availability.DefaultNetwork
import AccessStatus.Proofs.Stream.Gate
import AccessStatus.Proofs.Table

/-!
# Runs of an availability monitor

In a run requests alternate with changes of what the configuration answers. The monitor is not told
of such a change; it is up to date with the configuration again once it has been asked to evaluate
(`upToDate_next_configChanged`), and no other request leaves it behind (`UpToDate.next`).
-/

namespace AccessStatus

/-! ## The value told last -/

namespace SlotContext

/-- A newly found value is remembered without the announcement of a loss, whether it is sent or
not. -/
@[simp] theorem current_take (c : SlotContext) (live : Liveness) (edge : Bool) (a : Availability) :
    (c.take live edge a).1.gate.current = some a := by
  unfold take
  split
  · rfl
  · dsimp only
    rw [Gate.accepted_offer]
    split
    · exact c.gate.current_offer a
    · rename_i refused
      exact c.gate.current_eq_of_not_wouldChange (by simpa using refused)

/-- After a registration the value found for it is remembered. -/
@[simp] theorem current_register (ctx : SlotContext) (live : Liveness) (c : ConsumerId) (tag : Tag)
    (a : Availability) : (ctx.register live c tag a).1.gate.current = some a := by
  have offered := ctx.gate.current_offer a
  unfold register
  dsimp only
  split <;> exact offered

end SlotContext

namespace AvailabilityMonitor

/-! ## Runs -/

/-- What happens to a monitor: the configuration answers otherwise from now on, or a request is
made. -/
inductive Happening where
  | configure (source : ConfigSource)
  | ask (live : Liveness) (op : Op)

/-- The request that is made, if one is. -/
def Happening.request? : Happening → Option Op
  | .configure _ => none
  | .ask _ op => some op

/-- A monitor and the configuration in force. -/
structure Scene where
  config : ConfigSource
  monitor : AvailabilityMonitor

/-- The monitor after one request. -/
def next (m : AvailabilityMonitor) (config : ConfigSource) (live : Liveness) (op : Op) :
    AvailabilityMonitor :=
  (m.step config live op).monitor

/-- The scene after one happening. -/
def Scene.next (s : Scene) : Happening → Scene
  | .configure source => { s with config := source }
  | .ask live op => { s with monitor := s.monitor.next s.config live op }

/-- The scene after a run. -/
def Scene.after (s : Scene) (run : List Happening) : Scene := run.foldl Scene.next s

/-- The requests of a run, in order. -/
def requests (run : List Happening) : List Op := run.filterMap Happening.request?

theorem Scene.after_concat (s : Scene) (run : List Happening) (h : Happening) :
    s.after (run ++ [h]) = (s.after run).next h := by
  rw [after, List.foldl_append, List.foldl_cons, List.foldl_nil, ← after]

theorem requests_concat (run : List Happening) (h : Happening) :
    requests (run ++ [h]) = requests run ++ h.request?.toList := by
  rw [requests, List.filterMap_append, ← requests]
  cases h <;> rfl

/-! ## The parts of a request's outcome -/

/-- The report about the default network that a request brings. -/
def Op.networkEvent? : Op → Option NetworkEvent
  | .network event => some event
  | _ => none

/-- The request forgets the slot. -/
def Op.closes (slot : SlotIndex) : Op → Bool
  | .closeSlot other => other = slot
  | _ => false

/-- What a request reports about the slot's own registration. -/
def Op.registration? (slot : SlotIndex) : Op → Option Bool
  | .registered other yes => if other = slot then some yes else none
  | _ => none

/-- The switch of cross-SIM calling that a request brings for the slot. -/
def Op.toggle? (slot : SlotIndex) : Op → Option Bool
  | .crossSim other enabled => if other = slot then some enabled else none
  | _ => none

/-- What is known of a slot after a request. -/
def inputsAfter (i : SlotInputs) (slot : SlotIndex) (op : Op) : SlotInputs :=
  if op.closes slot then default
  else ⟨(op.registration? slot).getD i.registered, (op.toggle? slot).or i.crossSim⟩

section Evaluate

variable (m : AvailabilityMonitor) (config : ConfigSource) (live : Liveness)

/-- An evaluation of a slot is not about the network. -/
@[simp] theorem network_evaluateSlot (slot : SlotIndex) :
    (m.evaluateSlot config live slot).1.network = m.network := by
  unfold evaluateSlot
  split <;> rfl

/-- Nor is it about what was reported of slots. -/
@[simp] theorem inputs_evaluateSlot (slot : SlotIndex) :
    (m.evaluateSlot config live slot).1.inputs = m.inputs := by
  unfold evaluateSlot
  split <;> rfl

/-- A report about the network leaves what was reported of slots. -/
@[simp] theorem inputs_networkChanged (event : NetworkEvent) :
    (m.networkChanged config live event).1.inputs = m.inputs := by
  unfold networkChanged
  split <;> rfl

/-- It moves the default network if it says anything about that. -/
theorem network_networkChanged (event : NetworkEvent) :
    (m.networkChanged config live event).1.network =
      (DefaultNetwork.after m.network event).getD m.network := by
  unfold networkChanged
  split <;> simp [*, evaluateAll]

/-- A removal leaves everything but who is registered. -/
theorem unregister_frame (slot : SlotIndex) (c : ConsumerId) :
    (m.unregister slot c).1.network = m.network ∧ (m.unregister slot c).1.inputs = m.inputs ∧
      (m.unregister slot c).1.isClosed = m.isClosed := by
  unfold unregister
  split <;> exact ⟨rfl, rfl, rfl⟩

/-- Inputs that are set for a slot are found there, and nowhere else. -/
theorem inputsOf_set (slot j : SlotIndex) (i : SlotInputs) :
    ({ m with inputs := m.inputs.set slot i }).inputsOf j =
      if j = slot then i else m.inputsOf j := by
  unfold inputsOf
  rw [Table.get?_set]
  split <;> rfl

end Evaluate

section Next

variable {m : AvailabilityMonitor} (config : ConfigSource) (live : Liveness)

/-- A monitor that is open after a request was open before it, and the request was not to close
it. -/
theorem open_before (op : Op) (stillOpen : (m.next config live op).isClosed = false) :
    m.isClosed = false ∧ op ≠ .close := by
  cases closed : m.isClosed with
  | false =>
    refine ⟨rfl, ?_⟩
    rintro rfl
    simp [next, step, close, closed] at stillOpen
  | true =>
    cases op <;> simp_all [next, step, unlessClosed, closeSlot, close, unregister_frame]

/-! An open monitor carries a request out. -/

variable (isOpen : m.isClosed = false)

include isOpen

theorem next_network (event : NetworkEvent) :
    m.next config live (.network event) = (m.networkChanged config live event).1 := by
  simp [next, step, unlessClosed, isOpen]

theorem next_registered (slot : SlotIndex) (yes : Bool) :
    m.next config live (.registered slot yes) =
      (m.inputChanged config live slot { m.inputsOf slot with registered := yes }).1 := by
  simp [next, step, unlessClosed, isOpen]

theorem next_crossSim (slot : SlotIndex) (enabled : Bool) :
    m.next config live (.crossSim slot enabled) =
      (m.inputChanged config live slot { m.inputsOf slot with crossSim := some enabled }).1 := by
  simp [next, step, unlessClosed, isOpen]

theorem next_configChanged :
    m.next config live .configChanged = (m.evaluateAll config live .update).1 := by
  simp [next, step, unlessClosed, isOpen]

theorem next_register (slot : SlotIndex) (c : ConsumerId) (tag : Tag) :
    m.next config live (.register slot c tag) = (m.register config live slot c tag).1 := by
  simp [next, step, unlessClosed, isOpen]

/-- Only a report about the default network changes it. -/
theorem network_next (op : Op) (notClose : op ≠ .close) :
    (m.next config live op).network =
      (op.networkEvent?.bind (DefaultNetwork.after m.network)).getD m.network := by
  cases op with
  | network event =>
    exact next_network config live isOpen event ▸ network_networkChanged m config live event
  | registered slot yes =>
    exact next_registered config live isOpen slot yes ▸ network_evaluateSlot _ config live slot
  | crossSim slot enabled =>
    exact next_crossSim config live isOpen slot enabled ▸ network_evaluateSlot _ config live slot
  | configChanged => rw [next_configChanged config live isOpen]; rfl
  | register slot c tag => rw [next_register config live isOpen]; rfl
  | unregister slot c => exact (m.unregister_frame slot c).1
  | closeSlot slot => rfl
  | close => exact absurd rfl notClose

/-- A request changes what is known of a slot as it is reported or forgotten, and leaves other slots
alone. -/
theorem inputsOf_next (op : Op) (notClose : op ≠ .close) (slot : SlotIndex) :
    (m.next config live op).inputsOf slot = inputsAfter (m.inputsOf slot) slot op := by
  -- only reports and forgetting touch the inputs; an evaluation leaves them
  cases op with
  | network event =>
    rw [next_network config live isOpen, inputsOf, inputs_networkChanged]
    rfl
  | registered other yes =>
    rw [next_registered config live isOpen, inputChanged, inputsOf, inputs_evaluateSlot, ← inputsOf,
      inputsOf_set]
    by_cases same : slot = other
    · simp [same, inputsAfter, Op.closes, Op.registration?, Op.toggle?]
    · simp [same, Ne.symm same, inputsAfter, Op.closes, Op.registration?, Op.toggle?]
  | crossSim other enabled =>
    rw [next_crossSim config live isOpen, inputChanged, inputsOf, inputs_evaluateSlot, ← inputsOf,
      inputsOf_set]
    by_cases same : slot = other
    · simp [same, inputsAfter, Op.closes, Op.registration?, Op.toggle?]
    · simp [same, Ne.symm same, inputsAfter, Op.closes, Op.registration?, Op.toggle?]
  | configChanged =>
    rw [next_configChanged config live isOpen]
    rfl
  | register other c tag =>
    rw [next_register config live isOpen]
    rfl
  | unregister other c =>
    show ((m.unregister other c).1.inputs.get? slot).getD default = _
    rw [(m.unregister_frame other c).2.1]
    rfl
  | closeSlot other =>
    show ((m.inputs.erase other).get? slot).getD default = _
    rw [Table.get?_erase]
    by_cases same : slot = other
    · simp [same, inputsAfter, Op.closes]
    · simp [same, Ne.symm same, inputsAfter, Op.closes, Op.registration?, Op.toggle?, inputsOf]
  | close => exact absurd rfl notClose

end Next

/-! ## Up to date with the configuration -/

/-- The value told last about a slot, if anybody registered for it, is its availability now. -/
def UpToDateAt (m : AvailabilityMonitor) (config : ConfigSource) (slot : SlotIndex) : Prop :=
  ∀ c, m.contexts.get? slot = some c → c.gate.current = some (m.compute config slot)

/-- The value told last about every slot is its availability now. -/
def UpToDate (m : AvailabilityMonitor) (config : ConfigSource) : Prop :=
  ∀ slot, m.UpToDateAt config slot

/-- A slot whose context, inputs and network are unchanged is as up to date as it was. -/
theorem UpToDateAt.congr {m n : AvailabilityMonitor} {config : ConfigSource} {slot : SlotIndex}
    (h : m.UpToDateAt config slot) (context : n.contexts.get? slot = m.contexts.get? slot)
    (network : n.network = m.network) (inputs : n.inputsOf slot = m.inputsOf slot) :
    n.UpToDateAt config slot := by
  intro c found
  rw [compute, network, inputs]
  exact h c (context ▸ found)

/-- After an evaluation of all slots what is remembered is up to date, whatever it was before. -/
theorem upToDate_evaluateAll (m : AvailabilityMonitor) (config : ConfigSource) (live : Liveness)
    (trigger : Trigger) : (m.evaluateAll config live trigger).1.UpToDate config := by
  intro slot c found
  rw [evaluateAll, Table.get?_mapEntries] at found
  obtain ⟨old, -, rfl⟩ := Option.map_eq_some_iff.1 found
  exact SlotContext.current_take old live _ _

/-- An evaluation of a slot touches the context of that slot only. -/
theorem get?_contexts_evaluateSlot (m : AvailabilityMonitor) (config : ConfigSource)
    (live : Liveness) (slot j : SlotIndex) :
    (m.evaluateSlot config live slot).1.contexts.get? j =
      if j = slot then (m.contexts.get? slot).map fun c =>
        (m.evaluateContext config live .update slot c).1
      else m.contexts.get? j := by
  unfold evaluateSlot
  split
  · rename_i missing
    by_cases same : j = slot
    · simp [same, missing]
    · simp [same]
  · rename_i c found
    simp only [Table.get?_set, found, Option.map_some]

/-- An evaluated slot is up to date, whatever it was before. -/
theorem upToDateAt_evaluateSlot (m : AvailabilityMonitor) (config : ConfigSource)
    (live : Liveness) (slot : SlotIndex) :
    (m.evaluateSlot config live slot).1.UpToDateAt config slot := by
  intro c found
  rw [get?_contexts_evaluateSlot, if_pos rfl] at found
  obtain ⟨old, -, rfl⟩ := Option.map_eq_some_iff.1 found
  rw [compute, network_evaluateSlot, inputsOf, inputs_evaluateSlot]
  exact SlotContext.current_take old live _ _

/-- After one slot was evaluated all are up to date, if the others were. -/
theorem upToDate_evaluateSlot {m : AvailabilityMonitor} {config : ConfigSource} (live : Liveness)
    {slot : SlotIndex} (others : ∀ j, j ≠ slot → m.UpToDateAt config j) :
    (m.evaluateSlot config live slot).1.UpToDate config := by
  intro j
  by_cases same : j = slot
  · subst same
    exact upToDateAt_evaluateSlot m config live j
  · refine (others j same).congr ?_ (network_evaluateSlot m config live slot) ?_
    · rw [get?_contexts_evaluateSlot, if_neg same]
    · rw [inputsOf, inputs_evaluateSlot, inputsOf]

/-- What is reported of a slot is found for it at once. -/
theorem upToDate_inputChanged {m : AvailabilityMonitor} {config : ConfigSource}
    (h : m.UpToDate config) (live : Liveness) (slot : SlotIndex) (i : SlotInputs) :
    (m.inputChanged config live slot i).1.UpToDate config :=
  upToDate_evaluateSlot live fun j other =>
    (h j).congr rfl rfl (by rw [inputsOf_set, if_neg other])

/-- A registration finds the value that counts now. -/
theorem upToDate_register {m : AvailabilityMonitor} {config : ConfigSource} (h : m.UpToDate config)
    (live : Liveness) (slot : SlotIndex) (c : ConsumerId) (tag : Tag) :
    (m.register config live slot c tag).1.UpToDate config := by
  intro j
  by_cases same : j = slot
  · subst same
    intro context found
    obtain rfl : _ = context := Option.some.inj ((Table.get?_set_self ..).symm.trans found)
    exact SlotContext.current_register _ live c tag _
  · exact (h j).congr (Table.get?_set_of_ne _ _ same) rfl rfl

theorem upToDate_unregister {m : AvailabilityMonitor} {config : ConfigSource}
    (h : m.UpToDate config) (slot : SlotIndex) (c : ConsumerId) :
    (m.unregister slot c).1.UpToDate config := by
  unfold unregister
  split
  · exact h
  · rename_i context found
    intro j
    by_cases same : j = slot
    · subst same
      intro changed now
      obtain rfl : _ = changed := Option.some.inj ((Table.get?_set_self ..).symm.trans now)
      exact h j context found
    · exact (h j).congr (Table.get?_set_of_ne _ _ same) rfl rfl

theorem upToDate_closeSlot {m : AvailabilityMonitor} {config : ConfigSource} (h : m.UpToDate config)
    (slot : SlotIndex) : (m.closeSlot slot).UpToDate config := by
  intro j
  by_cases same : j = slot
  · subst same
    intro c found
    rw [closeSlot, Table.get?_erase_self] at found
    cases found
  · refine (h j).congr (Table.get?_erase_of_ne _ same) rfl ?_
    rw [inputsOf, closeSlot, Table.get?_erase_of_ne _ same, inputsOf]

/-- Asked to evaluate, an open monitor is up to date whatever it was before. -/
theorem upToDate_next_configChanged {m : AvailabilityMonitor} (config : ConfigSource)
    (live : Liveness) (isOpen : m.isClosed = false) :
    (m.next config live .configChanged).UpToDate config :=
  next_configChanged config live isOpen ▸ upToDate_evaluateAll m config live .update

/-- No request leaves an open monitor behind the configuration. -/
theorem UpToDate.next {m : AvailabilityMonitor} {config : ConfigSource} (h : m.UpToDate config)
    (live : Liveness) (isOpen : m.isClosed = false) (op : Op) (notClose : op ≠ .close) :
    (m.next config live op).UpToDate config := by
  cases op with
  | network event =>
    rw [next_network config live isOpen, networkChanged]
    split
    · exact h
    · exact upToDate_evaluateAll _ config live _
  | registered slot yes =>
    rw [next_registered config live isOpen]
    exact upToDate_inputChanged h live slot _
  | crossSim slot enabled =>
    rw [next_crossSim config live isOpen]
    exact upToDate_inputChanged h live slot _
  | configChanged => exact upToDate_next_configChanged config live isOpen
  | register slot c tag =>
    rw [next_register config live isOpen]
    exact upToDate_register h live slot c tag
  | unregister slot c => exact upToDate_unregister h slot c
  | closeSlot slot => exact upToDate_closeSlot h slot
  | close => exact absurd rfl notClose

end AvailabilityMonitor

end AccessStatus
