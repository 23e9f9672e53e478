import AccessStatus.Proofs.Availability.View
import AccessStatus.Proofs.Stream.Members

/-!
# The slots of an availability monitor apart

What a monitor does about one slot depends on the default network and on what it knows of that slot
only. Two open monitors that agree on these agree on them after every request, and send the same
about the slot (`SameAt.step`); a request about another slot changes neither
(`sameAt_next_of_other`). As long as each consumer registers for one slot only, whatever is sent to
it is about that slot (`Housed.step`).
-/

namespace AccessStatus

/-- Each consumer that is registered for a slot after an act was so before or is registered by it,
and only they are reached. -/
theorem SlotAct.within_apply {P : ConsumerId → Prop} {act : SlotAct}
    (own : ∀ c, act.Registers c → P c) (live : Liveness) {known : Option SlotContext}
    (within : ∀ ctx ∈ known, ctx.registry.Within P) :
    (∀ ctx ∈ (act.apply live known).1, ctx.registry.Within P) ∧
      Reaches live P (act.apply live known).2 := by
  have nobody : ∀ ctx ∈ (none : Option SlotContext), ctx.registry.Within P :=
    fun _ none => nomatch none
  cases act with
  | pass => exact ⟨within, reaches_nil⟩
  | forget => exact ⟨nobody, reaches_nil⟩
  | find edge a =>
    cases known with
    | none => exact ⟨nobody, reaches_nil⟩
    | some old =>
      have members := within old rfl
      -- what is found is sent to those who stay registered
      rw [apply_find]
      split
      · refine ⟨?_, members.broadcast live _ none⟩
        intro ctx after
        obtain rfl := Option.some.inj after
        exact members.sweep live
      · exact ⟨within, reaches_nil⟩
  | register c tag a =>
    have members : (joined known c tag).Within P := by
      refine Registry.Within.addUnique ?_ (own c rfl)
      cases known with
      | none => exact Registry.within_empty _
      | some old => exact within old rfl
    rw [apply_register]
    split
    · refine ⟨?_, members.broadcast live _ none⟩
      intro ctx after
      obtain rfl := Option.some.inj after
      exact members.sweep live
    · refine ⟨?_, members.replay live c a⟩
      intro ctx after
      obtain rfl := Option.some.inj after
      exact members
  | remove c =>
    refine ⟨?_, reaches_nil⟩
    intro ctx after
    obtain ⟨old, was, rfl⟩ := Option.map_eq_some_iff.1 after
    exact (within old was).remove c

namespace AvailabilityMonitor

/-- The slot that a request is about, if it is about one alone. -/
def Op.slot? : Op → Option SlotIndex
  | .registered slot _ | .crossSim slot _ | .register slot _ _ | .unregister slot _ |
    .closeSlot slot => some slot
  | .network _ | .configChanged | .close => none

/-- An open monitor that is not asked to close stays open. -/
theorem isOpen_next {m : AvailabilityMonitor} (config : ConfigSource) (live : Liveness)
    (isOpen : m.isClosed = false) {op : Op} (notClose : op ≠ .close) :
    (m.next config live op).isClosed = false := by
  have evaluated (n : AvailabilityMonitor) (slot : SlotIndex) :
      (n.evaluateSlot config live slot).1.isClosed = n.isClosed := by
    unfold evaluateSlot
    split <;> rfl
  cases op with
  | network event =>
    rw [next_network config live isOpen, networkChanged]
    split <;> exact isOpen
  | registered slot yes =>
    exact next_registered config live isOpen slot yes ▸ (evaluated _ slot).trans isOpen
  | crossSim slot enabled =>
    exact next_crossSim config live isOpen slot enabled ▸ (evaluated _ slot).trans isOpen
  | configChanged => exact next_configChanged config live isOpen ▸ isOpen
  | register slot c tag => exact next_register config live isOpen slot c tag ▸ isOpen
  | unregister slot c => exact (unregister_frame m slot c).2.2.trans isOpen
  | closeSlot slot => exact isOpen
  | close => exact absurd rfl notClose

/-! ## One slot in two monitors -/

/-- Two monitors know the same default network and the same of a slot. -/
structure SameAt (slot : SlotIndex) (m n : AvailabilityMonitor) : Prop where
  network : m.network = n.network
  inputs : m.inputsOf slot = n.inputsOf slot
  context : m.contexts.get? slot = n.contexts.get? slot

section SameAt

variable {slot : SlotIndex} {m n : AvailabilityMonitor} (config : ConfigSource) (live : Liveness)

theorem SameAt.refl (slot : SlotIndex) (m : AvailabilityMonitor) : SameAt slot m m :=
  ⟨rfl, rfl, rfl⟩

theorem SameAt.trans {k : AvailabilityMonitor} (same : SameAt slot m n) (next : SameAt slot n k) :
    SameAt slot m k :=
  ⟨same.network.trans next.network, same.inputs.trans next.inputs, same.context.trans next.context⟩

/-- A request comes to the same for a slot of which the same is known. -/
theorem SameAt.slotAct_eq (same : SameAt slot m n) (op : Op) :
    m.slotAct config op slot = n.slotAct config op slot := by
  unfold slotAct foundBy
  rw [same.network, same.inputs]

/-- Monitors that agree at a slot agree there after the same request, and send the same about it. -/
theorem SameAt.step (same : SameAt slot m n) (openM : m.isClosed = false)
    (openN : n.isClosed = false) {op : Op} (notClose : op ≠ .close) :
    SameAt slot (m.next config live op) (n.next config live op) ∧
      about slot (m.step config live op).sent = about slot (n.step config live op).sent := by
  have act := same.slotAct_eq config op
  refine ⟨⟨?_, ?_, ?_⟩, ?_⟩
  · rw [network_next config live openM op notClose, network_next config live openN op notClose,
      same.network]
  · rw [inputsOf_next config live openM op notClose, inputsOf_next config live openN op notClose,
      same.inputs]
  · rw [contexts_step config live openM, contexts_step config live openN, act, same.context]
  · rw [about_step config live openM, about_step config live openN, act, same.context]

/-- A request about a slot is answered alike by monitors that know the same of it. -/
theorem SameAt.answer_eq (same : SameAt slot m n) {op : Op} (mine : op.slot? = some slot) :
    (m.step config live op).answer = (n.step config live op).answer := by
  have closing (k : AvailabilityMonitor)
    (change : AvailabilityMonitor × List (Delivery (SlotIndex × Availability))) :
      (k.unlessClosed change).answer = .done := by
    unfold unlessClosed
    split <;> rfl
  cases op with
  | registered j yes | crossSim j enabled | register j c tag =>
    exact (closing m _).trans (closing n _).symm
  | unregister j c =>
    obtain rfl : j = slot := Option.some.inj mine
    show Answer.flag (m.unregister j c).2 = .flag (n.unregister j c).2
    unfold unregister
    rw [same.context]
    split <;> rfl
  | closeSlot j => rfl
  | network event => cases mine
  | configChanged => cases mine
  | close => cases mine

/-- A request about another slot changes nothing that is known of this one, and sends nothing about
it. -/
theorem sameAt_next_of_other (isOpen : m.isClosed = false) {op : Op} {j : SlotIndex}
    (itsSlot : op.slot? = some j) (other : j ≠ slot) :
    SameAt slot (m.next config live op) m ∧ about slot (m.step config live op).sent = [] := by
  have passes : m.slotAct config op slot = .pass := by
    unfold slotAct
    cases op with
    | registered k yes | crossSim k enabled | register k c tag | unregister k c | closeSlot k =>
      obtain rfl : k = j := Option.some.inj itsSlot
      exact if_neg other
    | network event => cases itsSlot
    | configChanged => cases itsSlot
    | close => cases itsSlot
  have notClose : op ≠ .close := by
    rintro rfl
    cases itsSlot
  have noReport : op.networkEvent? = none := by cases op <;> first | rfl | cases itsSlot
  -- nothing is left to say but that such a request passes the slot by
  refine ⟨⟨?_, ?_, ?_⟩, ?_⟩
  · rw [network_next config live isOpen op notClose, noReport]
    rfl
  · rw [inputsOf_next config live isOpen op notClose]
    cases op with
    | registered k yes | crossSim k enabled | register k c tag | unregister k c | closeSlot k =>
      obtain rfl : k = j := Option.some.inj itsSlot
      simp [inputsAfter, Op.closes, Op.registration?, Op.toggle?, other]
    | network event => cases itsSlot
    | configChanged => cases itsSlot
    | close => cases itsSlot
  · rw [contexts_step config live isOpen, passes]
    rfl
  · rw [about_step config live isOpen, passes]
    rfl

end SameAt

/-! ## Consumers of one slot each -/

/-- Each consumer is registered for its own slot only. -/
def Housed (owner : ConsumerId → SlotIndex) (m : AvailabilityMonitor) : Prop :=
  ∀ slot, ∀ ctx ∈ m.contexts.get? slot, ctx.registry.Within fun c => owner c = slot

/-- Whatever is sent goes to live consumers and is about their own slot. -/
def Homes (live : Liveness) (owner : ConsumerId → SlotIndex)
    (sent : List (Delivery (SlotIndex × Availability))) : Prop :=
  ∀ d ∈ sent, live d.consumer = true ∧ owner d.consumer = d.notification.value.1

section Housed

variable {owner : ConsumerId → SlotIndex} {m : AvailabilityMonitor}

theorem housed_fresh : fresh.Housed owner := fun _ _ none => nomatch none

/-- A monitor whose consumers are at home stays so under requests that register consumers for their
own slot, and sends nothing to others. -/
theorem Housed.step (housed : m.Housed owner) (isOpen : m.isClosed = false)
    (config : ConfigSource) (live : Liveness) {op : Op}
    (own : ∀ slot c tag, op = .register slot c tag → owner c = slot) :
    (m.next config live op).Housed owner ∧ Homes live owner (m.step config live op).sent := by
  have joining (slot : SlotIndex) (c : ConsumerId)
      (registers : (m.slotAct config op slot).Registers c) : owner c = slot := by
    obtain ⟨tag, rfl⟩ := (registers_slotAct m config op slot c).1 registers
    exact own slot c tag rfl
  have seen (slot : SlotIndex) := SlotAct.within_apply (joining slot) live (housed slot)
  constructor
  · intro slot ctx after
    rw [contexts_step config live isOpen] at after
    exact (seen slot).1 ctx after
  · intro d sent
    exact (seen d.notification.value.1).2 (d.map Prod.snd) (mem_sent sent)

/-- A request about one slot sends about that slot only. -/
theorem slot_of_sent (isOpen : m.isClosed = false) {config : ConfigSource} {live : Liveness}
    {op : Op} {slot : SlotIndex} (mine : op.slot? = some slot)
    {d : Delivery (SlotIndex × Availability)} (sent : d ∈ (m.step config live op).sent) :
    d.notification.value.1 = slot := by
  by_contra other
  have silent := (sameAt_next_of_other config live isOpen mine (Ne.symm other)).2
  have told : d.map Prod.snd ∈ about d.notification.value.1 (m.step config live op).sent :=
    List.mem_map.2 ⟨d, List.mem_filter.2 ⟨sent, decide_eq_true rfl⟩, rfl⟩
  rw [silent] at told
  cases told

end Housed

/-- What is sent to a consumer that is told about one slot only is what is sent to it about that
slot. -/
theorem received_eq_about {c : ConsumerId} {slot : SlotIndex}
    {sent : List (Delivery (SlotIndex × Availability))}
    (only : ∀ d ∈ sent, d.consumer = c → d.notification.value.1 = slot) :
    received c sent = (received c (about slot sent)).map (·.map (Prod.mk slot)) := by
  have heard : received c (about slot sent) = (received c sent).map (·.map Prod.snd) := by
    rw [← heard_eq_about only, AvailabilityMonitor.heard, received_map]
  have marked : ∀ n ∈ received c sent, (n.map Prod.snd).map (Prod.mk slot) = n := by
    intro n told
    obtain ⟨d, there, mine, rfl⟩ := mem_received_iff.1 told
    have mark := only d there mine
    obtain ⟨consumer, tag, payload, ⟨j, a⟩, error⟩ := d
    obtain rfl : j = slot := mark
    rfl
  rw [heard, List.map_map]
  exact ((List.map_congr_left marked).trans (List.map_id _)).symm

end AvailabilityMonitor

end AccessStatus
