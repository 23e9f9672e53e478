import AccessStatus.Proofs.Stream.Notifier
import AccessStatus.Proofs.Stream.Registry

/-!
# What an operation on a notifier does for one consumer

An operation that publishes sends its value to every live consumer through each of its
registrations, and remembers it; any other that is not about the consumer sends it nothing and
leaves its registrations and the remembered value alone (`step_cases`).
-/

namespace AccessStatus

/-- A value told under a tag, without payload and error. -/
def Notification.plain {α : Type} (tag : Tag) (value : α) : Notification α :=
  ⟨tag, none, value, none⟩

namespace Notifier

variable {α : Type}

/-- The operation is not a registration or a removal of the consumer, and no clearing. -/
def Op.Spares (c : ConsumerId) : Op α → Prop
  | .register d _ | .registerWithReplay d _ | .unregister d => d ≠ c
  | .publish _ | .publishIfChanged _ | .sweep => True
  | .clear => False

/-- The operation publishes only what the gate lets pass. -/
def Op.Gated : Op α → Prop
  | .publish _ => False
  | .publishIfChanged _ | .register .. | .registerWithReplay .. | .unregister _ | .sweep | .clear =>
    True

/-! ## What one consumer is told -/

/-- A published value is told to a live consumer once for each of its registrations, which stay. -/
theorem publish_spec (n : Notifier α) {live : Liveness} {c : ConsumerId} (alive : live c = true)
    (v : α) :
    (n.publish live v).1.registry.registrationsOf c = n.registry.registrationsOf c ∧
      received c (n.publish live v).2 = (n.registry.registrationsOf c).map fun s =>
        s.notification v none := by
  refine ⟨n.registry.registrationsOf_sweep c alive, ?_⟩
  show received c (n.registry.broadcast live v none) = _
  rw [Registry.received_broadcast, if_pos alive]

/-- A replay for one consumer is not received by another. -/
theorem received_replay_of_ne (n : Notifier α) (live : Liveness) {c d : ConsumerId}
    (other : d ≠ c) :
    received c (n.replay live d) = [] := by
  unfold replay
  split
  · rfl
  · exact Registry.received_replay_of_ne _ _ _ other

/-- A live consumer that registers with replay is told what was published last, under its new
tag. -/
theorem received_registerWithReplay (n : Notifier α) (live : Liveness) (c : ConsumerId)
    (tag : Tag) :
    received c (n.registerWithReplay live c tag).2 =
      if live c then n.current.toList.map (Notification.plain tag) else [] := by
  have only : (n.register c tag).registry.registrationsOf c = [⟨c, tag, none⟩] :=
    n.registry.registrationsOf_addUnique_self ⟨c, tag, none⟩
  show received c ((n.register c tag).replay live c) = _
  unfold replay
  rw [current_register]
  cases n.current with
  | none =>
    show received c [] = _
    rw [received_nil, Option.toList_none, List.map_nil, ite_self]
  | some v =>
    show received c ((n.register c tag).registry.replay live c v).toList = _
    rw [Registry.received_replay_self, only]
    rfl

/-- A registration with replay tells the newcomer the current value, and nobody else. -/
theorem values_registerWithReplay (n : Notifier α) {live : Liveness} {c : ConsumerId}
    (alive : live c = true) (d : ConsumerId) (tag : Tag) :
    (received c (n.registerWithReplay live d tag).2).map Notification.value =
      if d = c then n.current.toList else [] := by
  by_cases same : d = c
  · subst same
    rw [received_registerWithReplay, if_pos alive, if_pos rfl, List.map_map]
    exact List.map_id _
  · have untold : received c (n.registerWithReplay live d tag).2 = [] :=
      (n.register d tag).received_replay_of_ne live same
    rw [untold, if_neg same]
    rfl

/-- A gated publication tells a live consumer that is registered the value, once, if it is not the
one published last. -/
theorem values_publishIfChanged [BEq α] [LawfulBEq α] [DecidableEq α] {n : Notifier α}
    (single : n.registry.Single) {live : Liveness} {c : ConsumerId} (alive : live c = true)
    (v : α) :
    (received c (n.publishIfChanged live v).2).map Notification.value =
      if n.registry.contains c = true ∧ n.current ≠ some v then [v] else [] := by
  unfold publishIfChanged
  cases changes : n.gate.wouldChange v with
  | true =>
    have new : n.current ≠ some v := n.gate.current_ne_of_wouldChange changes
    rw [if_pos rfl]
    refine (single.values_broadcast alive v).trans ?_
    simp [new]
  | false =>
    have same : n.current = some v := n.gate.current_eq_of_not_wouldChange changes
    simp [same]

/-! ## Steps -/

variable [BEq α]

/-- The value that an operation publishes: any that is to be published, and one to be published if
changed when the answer is that it was accepted. -/
def published? (n : Notifier α) (live : Liveness) : Op α → Option α
  | .publish v => some v
  | .publishIfChanged v =>
    if (n.step live (.publishIfChanged v)).answer = .found true then some v else none
  | .register .. | .registerWithReplay .. | .unregister _ | .sweep | .clear => none

/-- Publishing through the gate publishes exactly what would change the value. -/
theorem published?_publishIfChanged (n : Notifier α) (live : Liveness) (v : α) :
    n.published? live (.publishIfChanged v) = if n.gate.wouldChange v then some v else none := by
  unfold published? step
  cases h : n.gate.wouldChange v <;> simp [h]

/-- What a gated operation publishes is not what was published last. -/
theorem ne_of_published? [LawfulBEq α] {n : Notifier α} {live : Liveness} {op : Op α}
    (gated : op.Gated) {u v : α} (last : n.current = some u)
    (published : n.published? live op = some v) : u ≠ v := by
  cases op with
  | publishIfChanged w =>
    rw [published?_publishIfChanged] at published
    split at published
    · rename_i changes
      obtain rfl := Option.some_inj.1 published
      intro same
      have last : n.gate.current = some w := same ▸ last
      simp [Gate.wouldChange, last] at changes
    · cases published
  | publish w => exact gated.elim
  | register d tag => cases published
  | registerWithReplay d tag => cases published
  | unregister d => cases published
  | sweep => cases published
  | clear => cases published

/-- An operation that spares a live consumer leaves its registrations alone. It publishes a value,
which is remembered and told to the consumer once for each of them, or it publishes none and tells
the consumer nothing. -/
theorem step_cases (n : Notifier α) {live : Liveness} {c : ConsumerId} (alive : live c = true)
    {op : Op α} (spared : op.Spares c) :
    (n.step live op).notifier.registry.registrationsOf c = n.registry.registrationsOf c ∧
      ((∃ v, n.published? live op = some v ∧
          received c (n.step live op).sent = (n.registry.registrationsOf c).map fun s =>
            s.notification v none) ∨
        n.published? live op = none ∧ received c (n.step live op).sent = []) := by
  cases op with
  | publish v =>
    obtain ⟨kept, told⟩ := n.publish_spec alive v
    exact ⟨kept, Or.inl ⟨v, rfl, told⟩⟩
  | publishIfChanged v =>
    rw [published?_publishIfChanged]
    show (n.publishIfChanged live v).1.registry.registrationsOf c = _ ∧
      ((∃ w, _ ∧ received c (n.publishIfChanged live v).2 = _) ∨ _ ∧
        received c (n.publishIfChanged live v).2 = [])
    unfold publishIfChanged
    split
    · obtain ⟨kept, told⟩ := n.publish_spec alive v
      exact ⟨kept, Or.inl ⟨v, rfl, told⟩⟩
    · exact ⟨rfl, Or.inr ⟨rfl, rfl⟩⟩
  | register d tag => exact ⟨n.registry.registrationsOf_addUnique_of_ne c spared, Or.inr ⟨rfl, rfl⟩⟩
  | registerWithReplay d tag =>
    have untold := (n.register d tag).received_replay_of_ne live spared
    exact ⟨n.registry.registrationsOf_addUnique_of_ne c spared, Or.inr ⟨rfl, untold⟩⟩
  | unregister d => exact ⟨n.registry.registrationsOf_remove_of_ne c spared, Or.inr ⟨rfl, rfl⟩⟩
  | sweep => exact ⟨n.registry.registrationsOf_sweep c alive, Or.inr ⟨rfl, rfl⟩⟩
  | clear => exact spared.elim

/-- Unless everything is cleared, the value remembered is the one published now, or else the one
before. -/
theorem current_step (n : Notifier α) (live : Liveness) {op : Op α} {c : ConsumerId}
    (spared : op.Spares c) :
    (n.step live op).notifier.current = (n.published? live op).or n.current := by
  cases op with
  | publishIfChanged v =>
    rw [published?_publishIfChanged]
    show (n.publishIfChanged live v).1.current = _
    unfold publishIfChanged
    split <;> rfl
  | clear => exact spared.elim
  | publish v => exact n.current_publish live v
  | register d tag => exact n.current_register d tag
  | registerWithReplay d tag => exact n.current_registerWithReplay live d tag
  | unregister d => exact n.current_unregister d
  | sweep => exact n.current_sweep live

/-- No operation makes a second registration of a consumer. -/
theorem single_step {n : Notifier α} (single : n.registry.Single) (live : Liveness) (op : Op α) :
    (n.step live op).notifier.registry.Single := by
  cases op with
  | register c tag | registerWithReplay c tag => exact single.addUnique _
  | unregister c => exact single.remove c
  | publish v | sweep => exact single.sweep live
  | publishIfChanged v =>
    show (n.publishIfChanged live v).1.registry.Single
    unfold publishIfChanged
    split
    · exact single.sweep live
    · exact single
  | clear => exact Registry.single_clear _

/-- A live consumer that is registered once and still is afterwards is told what is published and,
but for a replay, nothing else; what is published is remembered. -/
theorem told_of_still {n : Notifier α} (single : n.registry.Single) {live : Liveness}
    {c : ConsumerId} (alive : live c = true) (registered : n.registry.contains c = true)
    {op : Op α} (noReplay : ∀ tag, op ≠ .registerWithReplay c tag)
    (still : (n.step live op).notifier.registry.contains c = true) :
    (received c (n.step live op).sent).map Notification.value = (n.published? live op).toList ∧
      (n.step live op).notifier.current = (n.published? live op).or n.current := by
  by_cases spared : op.Spares c
  · refine ⟨?_, n.current_step live spared⟩
    obtain ⟨s, -, alone⟩ := single.registrationsOf_eq registered
    obtain ⟨-, ⟨v, publishes, told⟩ | ⟨silent, untold⟩⟩ := n.step_cases alive spared
    · rw [publishes, told, alone]
      rfl
    · rw [silent, untold]
      rfl
  · -- what does not spare the consumer registers it anew, or would have removed it
    cases op with
    | register d tag => exact ⟨rfl, rfl⟩
    | registerWithReplay d tag =>
      obtain rfl : d = c := by simpa [Op.Spares] using spared
      exact absurd rfl (noReplay tag)
    | unregister d =>
      obtain rfl : d = c := by simpa [Op.Spares] using spared
      have gone : (n.registry.remove d).contains d = false := by
        simp [Registry.contains, Registry.remove]
      exact absurd (gone.symm.trans still) Bool.false_ne_true
    | clear => exact absurd still Bool.false_ne_true
    | publish v | publishIfChanged v | sweep => exact absurd trivial spared

/-- Nothing is ever sent to a consumer that is not live. -/
theorem received_step_of_dead (n : Notifier α) {live : Liveness} {c : ConsumerId}
    (dead : live c = false) (op : Op α) :
    received c (n.step live op).sent = [] := by
  have silent : ∀ v, received c (n.publish live v).2 = [] := by
    intro v
    show received c (n.registry.broadcast live v none) = []
    rw [Registry.received_broadcast, if_neg (by simp [dead])]
  cases op with
  | publish v => exact silent v
  | publishIfChanged v =>
    show received c (n.publishIfChanged live v).2 = []
    unfold publishIfChanged
    split
    · exact silent v
    · rfl
  | registerWithReplay d tag =>
    by_cases same : d = c
    · subst same
      show received d (n.registerWithReplay live d tag).2 = []
      rw [received_registerWithReplay, if_neg (by simp [dead])]
    · exact (n.register d tag).received_replay_of_ne live same
  | register d tag => rfl
  | unregister d => rfl
  | sweep => rfl
  | clear => rfl

end Notifier

end AccessStatus
