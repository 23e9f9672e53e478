import AccessStatus.Proofs.Availability.Run
import AccessStatus.Proofs.Stream.Registry

/-!
# An availability monitor seen from one slot

A request can touch all slots, but each slot keeps its own context and is sent about on its own. To
one slot a request comes to one of five things (`SlotAct`): it passes the slot by, brings a newly
found value, registers a consumer, removes one, or forgets the slot. `contexts_step` and
`about_step` say so for every request to an open monitor; all that holds of a slot is proved for the
five.
-/

namespace AccessStatus

/-- What a request comes to for one slot. -/
inductive SlotAct where
  | pass
  | find (edge : Bool) (a : Availability)
  | register (c : ConsumerId) (tag : Tag) (a : Availability)
  | remove (c : ConsumerId)
  | forget

namespace SlotAct

/-- The context of a slot after an act, and what is sent about the slot. -/
def apply (live : Liveness) (known : Option SlotContext) :
    SlotAct → Option SlotContext × List (Delivery Availability)
  | pass => (known, [])
  | find edge a =>
    (known.map fun ctx => (ctx.take live edge a).1,
      (known.map fun ctx => (ctx.take live edge a).2).getD [])
  | register c tag a =>
    (some ((known.getD .fresh).register live c tag a).1,
      ((known.getD .fresh).register live c tag a).2)
  | remove c => (known.map fun ctx => { ctx with registry := ctx.registry.remove c }, [])
  | forget => (none, [])

end SlotAct

/-- What is sent about one slot. -/
def about (slot : SlotIndex) (sent : List (Delivery (SlotIndex × Availability))) :
    List (Delivery Availability) :=
  (sent.filter fun d => d.notification.value.1 = slot).map (·.map Prod.snd)

@[simp] theorem about_nil (slot : SlotIndex) : about slot [] = [] := rfl

theorem about_append (slot : SlotIndex) (sent more : List (Delivery (SlotIndex × Availability))) :
    about slot (sent ++ more) = about slot sent ++ about slot more := by
  rw [about, List.filter_append, List.map_append, ← about, ← about]

/-- What is sent with one slot's mark is about that slot and no other. -/
theorem about_marked (slot j : SlotIndex) (sent : List (Delivery Availability)) :
    about slot (sent.map (·.map (Prod.mk j))) = if j = slot then sent else [] := by
  induction sent with
  | nil => rw [List.map_nil, about_nil, ite_self]
  | cons d sent ih =>
    have mark : (d.map (Prod.mk j)).notification.value.1 = j := rfl
    have unmarked : (d.map (Prod.mk j)).map Prod.snd = d := rfl
    rw [List.map_cons, ← List.singleton_append, about_append, ih]
    by_cases same : j = slot
    · have kept : about slot [d.map (Prod.mk j)] = [d] := by
        rw [about, List.filter_cons_of_pos (by exact decide_eq_true (mark.trans same)),
          List.filter_nil, List.map_singleton, unmarked]
      rw [kept, if_pos same, if_pos same, List.singleton_append]
    · have dropped : about slot [d.map (Prod.mk j)] = [] := by
        rw [about, List.filter_cons_of_neg
          (by exact fun h => same (mark.symm.trans (of_decide_eq_true h))), List.filter_nil,
          List.map_nil]
      rw [dropped, if_neg same, if_neg same, List.append_nil]

namespace AvailabilityMonitor

section Evaluate

variable (m : AvailabilityMonitor) (config : ConfigSource) (live : Liveness)

/-- An evaluation of all slots sends about one slot what that slot's own evaluation sends. -/
theorem about_evaluateAll (trigger : Trigger) (slot : SlotIndex) :
    about slot (m.evaluateAll config live trigger).2 =
      ((m.contexts.get? slot).map fun c => (m.evaluateContext config live trigger slot c).2).getD
        [] := by
  have own (entries : List (SlotIndex × SlotContext)) :
      about slot (entries.flatMap fun x =>
          (m.evaluateContext config live trigger x.1 x.2).2.map (·.map (Prod.mk x.1))) =
        (entries.filter fun x => x.1 = slot).flatMap fun x =>
          (m.evaluateContext config live trigger x.1 x.2).2 := by
    induction entries with
    | nil => rfl
    | cons x entries ih =>
      rw [List.flatMap_cons, about_append, about_marked, ih]
      by_cases same : x.1 = slot
      · rw [if_pos same, List.filter_cons_of_pos (by simpa using same), List.flatMap_cons]
      · rw [if_neg same, List.filter_cons_of_neg (by simpa using same), List.nil_append]
  show about slot (m.contexts.entries.flatMap _) = _
  rw [own, Table.filter_entries_eq]
  cases m.contexts.get? slot with
  | none => rfl
  | some c => exact List.append_nil _

/-- An evaluation of a slot sends something about that slot only. -/
theorem about_evaluateSlot (slot j : SlotIndex) :
    about slot (m.evaluateSlot config live j).2 =
      if j = slot then
        ((m.contexts.get? slot).map fun c =>
          (m.evaluateContext config live .update slot c).2).getD []
      else [] := by
  unfold evaluateSlot
  split
  · rename_i missing
    by_cases same : j = slot
    · rw [← same, missing, if_pos rfl]
      rfl
    · rw [if_neg same]
      rfl
  · rename_i c found
    dsimp only
    rw [about_marked]
    by_cases same : j = slot
    · rw [← same, found, if_pos rfl, if_pos rfl]
      rfl
    · rw [if_neg same, if_neg same]

end Evaluate

/-! ## What a request comes to -/

/-- The default network after a request. -/
def networkAfter (before : Option DefaultNetwork) (op : Op) : Option DefaultNetwork :=
  (op.networkEvent?.bind (DefaultNetwork.after before)).getD before

/-- The availability of a slot for what is known after a request. -/
def foundBy (m : AvailabilityMonitor) (config : ConfigSource) (op : Op) (slot : SlotIndex) :
    Availability :=
  availability config (networkAfter m.network op) (inputsAfter (m.inputsOf slot) slot op) slot

/-- What a request to an open monitor comes to for a slot. -/
def slotAct (m : AvailabilityMonitor) (config : ConfigSource) (op : Op) (slot : SlotIndex) :
    SlotAct :=
  let a := m.foundBy config op slot
  match op with
  | .network event =>
    match DefaultNetwork.after m.network event with
    | none => .pass
    | some next => .find (raisesEdge config (classify m.network next) slot a) a
  | .registered j _ | .crossSim j _ => if j = slot then .find false a else .pass
  | .configChanged => .find false a
  | .register j c tag => if j = slot then .register c tag a else .pass
  | .unregister j c => if j = slot then .remove c else .pass
  | .closeSlot j => if j = slot then .forget else .pass
  | .close => .forget

/-- What is found for a slot on a report that is not ignored. -/
theorem foundBy_report (m : AvailabilityMonitor) (config : ConfigSource) {event : NetworkEvent}
    {next : Option DefaultNetwork} (after : DefaultNetwork.after m.network event = some next)
    (slot : SlotIndex) :
    m.foundBy config (.network event) slot = availability config next (m.inputsOf slot) slot := by
  rw [foundBy, networkAfter, Op.networkEvent?, Option.bind_some, after]
  rfl

/-- A report that moves the default network has each slot find its value anew, with an announcement
where it raises one. -/
theorem slotAct_report (m : AvailabilityMonitor) (config : ConfigSource) {event : NetworkEvent}
    {next : Option DefaultNetwork} (after : DefaultNetwork.after m.network event = some next)
    (slot : SlotIndex) :
    m.slotAct config (.network event) slot =
      .find (raisesEdge config (classify m.network next) slot
        (availability config next (m.inputsOf slot) slot))
        (availability config next (m.inputsOf slot) slot) := by
  rw [slotAct, after, m.foundBy_report config after]

/-- After a request the monitor computes what the request brought. -/
theorem compute_next {m : AvailabilityMonitor} (config : ConfigSource) (live : Liveness)
    (isOpen : m.isClosed = false) {op : Op} (notClose : op ≠ .close) (slot : SlotIndex) :
    (m.next config live op).compute config slot = m.foundBy config op slot := by
  rw [compute, network_next config live isOpen op notClose,
    inputsOf_next config live isOpen op notClose]
  rfl

theorem raisesEdge_update (config : ConfigSource) (slot : SlotIndex) (a : Availability) :
    raisesEdge config .update slot a = false := Bool.and_false _

/-- An evaluation of all slots is for one slot a value found. -/
theorem seen_evaluateAll (m : AvailabilityMonitor) (config : ConfigSource) (live : Liveness)
    (trigger : Trigger) (slot : SlotIndex) :
    ((m.evaluateAll config live trigger).1.contexts.get? slot,
      about slot (m.evaluateAll config live trigger).2) =
      (SlotAct.find (raisesEdge config trigger slot (m.compute config slot))
        (m.compute config slot)).apply live
        (m.contexts.get? slot) := by
  rw [about_evaluateAll, evaluateAll, Table.get?_mapEntries]
  rfl

/-- A change of one slot's inputs is a value found for that slot, and passes all others by. -/
theorem seen_inputChanged (m : AvailabilityMonitor) (config : ConfigSource) (live : Liveness)
    (j : SlotIndex) (i : SlotInputs) (slot : SlotIndex) :
    ((m.inputChanged config live j i).1.contexts.get? slot,
      about slot (m.inputChanged config live j i).2) =
      (if j = slot then SlotAct.find false (availability config m.network i slot) else .pass).apply
        live (m.contexts.get? slot) := by
  have inputs : ({ m with inputs := m.inputs.set j i }).inputsOf j = i := by
    rw [inputsOf_set, if_pos rfl]
  rw [inputChanged, get?_contexts_evaluateSlot, about_evaluateSlot]
  by_cases same : j = slot
  · subst same
    simp only [if_true, evaluateContext, compute, inputs, raisesEdge_update]
    rfl
  · rw [if_neg same, if_neg same, if_neg (Ne.symm same)]
    rfl

theorem unlessClosed_of_open {m : AvailabilityMonitor} (isOpen : m.isClosed = false)
    (change : AvailabilityMonitor × List (Delivery (SlotIndex × Availability))) :
    m.unlessClosed change = ⟨change.1, .done, change.2⟩ := if_neg (by simp [isOpen])

/-- What a request makes of a slot's context and what it sends about the slot is what the slot's act
does. -/
theorem seen_step {m : AvailabilityMonitor} (config : ConfigSource) (live : Liveness)
    (isOpen : m.isClosed = false) (op : Op) (slot : SlotIndex) :
    ((m.next config live op).contexts.get? slot, about slot (m.step config live op).sent) =
      (m.slotAct config op slot).apply live (m.contexts.get? slot) := by
  cases op with
  | network event =>
    show ((m.unlessClosed (m.networkChanged config live event)).monitor.contexts.get? slot,
      about slot (m.unlessClosed (m.networkChanged config live event)).sent) = _
    -- all slots are evaluated, each for itself, unless the event is ignored
    rw [unlessClosed_of_open isOpen, networkChanged, slotAct]
    cases after : DefaultNetwork.after m.network event with
    | none => rfl
    | some next =>
      have found := m.foundBy_report config after slot
      dsimp only
      rw [found]
      exact seen_evaluateAll _ config live _ slot
  | registered j yes | crossSim j enabled =>
    show ((m.unlessClosed (m.inputChanged config live j _)).monitor.contexts.get? slot,
      about slot (m.unlessClosed (m.inputChanged config live j _)).sent) = _
    rw [unlessClosed_of_open isOpen, seen_inputChanged, slotAct]
    by_cases same : j = slot
    · subst same
      simp [foundBy, networkAfter, Op.networkEvent?, inputsAfter, Op.closes, Op.registration?,
        Op.toggle?]
    · rw [if_neg same, if_neg same]
  | configChanged =>
    show ((m.unlessClosed (m.evaluateAll config live .update)).monitor.contexts.get? slot,
      about slot (m.unlessClosed (m.evaluateAll config live .update)).sent) = _
    rw [unlessClosed_of_open isOpen, seen_evaluateAll, raisesEdge_update]
    rfl
  | register j c tag =>
    show ((m.unlessClosed (m.register config live j c tag)).monitor.contexts.get? slot,
      about slot (m.unlessClosed (m.register config live j c tag)).sent) = _
    rw [unlessClosed_of_open isOpen, slotAct, register]
    dsimp only
    -- what a registration sends is marked with its own slot
    rw [about_marked, Table.get?_set]
    by_cases same : j = slot
    · subst same
      rw [if_pos rfl, if_pos rfl, if_pos rfl]
      rfl
    · rw [if_neg same, if_neg same, if_neg (Ne.symm same)]
      rfl
  | unregister j c =>
    show ((m.unregister j c).1.contexts.get? slot, about slot []) = _
    unfold unregister slotAct
    by_cases same : j = slot
    · subst same
      cases known : m.contexts.get? j with
      | none => simp [SlotAct.apply, known]
      | some ctx => simp [SlotAct.apply]
    · cases known : m.contexts.get? j with
      | none => simp [SlotAct.apply, same]
      | some ctx => simp [SlotAct.apply, same, Table.get?_set, Ne.symm same]
  | closeSlot j =>
    show ((m.contexts.erase j).get? slot, about slot []) = _
    rw [Table.get?_erase]
    by_cases same : j = slot
    · simp [slotAct, SlotAct.apply, same]
    · simp [slotAct, SlotAct.apply, same, Ne.symm same]
  | close =>
    show (m.close.contexts.get? slot, about slot []) = _
    unfold close
    rw [if_neg (by simp [isOpen])]
    rfl

/-- A request to an open monitor does to the context of a slot what the slot's act does. -/
theorem contexts_step {m : AvailabilityMonitor} (config : ConfigSource) (live : Liveness)
    (isOpen : m.isClosed = false) (op : Op) (slot : SlotIndex) :
    (m.next config live op).contexts.get? slot =
      ((m.slotAct config op slot).apply live (m.contexts.get? slot)).1 :=
  congrArg Prod.fst (seen_step config live isOpen op slot)

/-- What such a request sends about a slot is what the slot's act sends. -/
theorem about_step {m : AvailabilityMonitor} (config : ConfigSource) (live : Liveness)
    (isOpen : m.isClosed = false) (op : Op) (slot : SlotIndex) :
    about slot (m.step config live op).sent =
      ((m.slotAct config op slot).apply live (m.contexts.get? slot)).2 :=
  congrArg Prod.snd (seen_step config live isOpen op slot)

end AvailabilityMonitor

end AccessStatus
