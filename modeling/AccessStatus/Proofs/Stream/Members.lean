import AccessStatus.Proofs.Stream.Registry
import AccessStatus.Stream.Notifier

/-!
# Who is registered and who is reached

A property of consumers that holds of all who are registered (`Within`) is kept by every operation,
as long as it holds of those who register; and whatever is sent reaches live consumers with that
property only (`Reaches`).
-/

namespace AccessStatus

variable {α β : Type} {P : ConsumerId → Prop} {live : Liveness}

/-- All that is sent goes to live consumers with the property. -/
def Reaches (live : Liveness) (P : ConsumerId → Prop) (sent : List (Delivery α)) : Prop :=
  ∀ d ∈ sent, live d.consumer = true ∧ P d.consumer

theorem reaches_nil : Reaches live P ([] : List (Delivery α)) :=
  fun _ none => absurd none List.not_mem_nil

/-- Two batches reach whom the one and the other reaches. -/
theorem Reaches.append {sent more : List (Delivery α)} (first : Reaches live P sent)
    (second : Reaches live P more) :
    Reaches live P (sent ++ more) := by
  intro d told
  rcases List.mem_append.1 told with told | told
  · exact first d told
  · exact second d told

/-- A translation of the values reaches the same consumers. -/
theorem Reaches.map {sent : List (Delivery α)} (reaches : Reaches live P sent) (f : α → β) :
    Reaches live P (sent.map (·.map f)) := by
  intro d told
  obtain ⟨e, sent, rfl⟩ := List.mem_map.1 told
  exact reaches e sent

/-- A consumer that is not live, or without the property, receives nothing. -/
theorem Reaches.received {sent : List (Delivery α)} (reaches : Reaches live P sent) {c : ConsumerId}
    (missed : ¬ (live c = true ∧ P c)) : received c sent = [] := by
  rw [List.eq_nil_iff_forall_not_mem]
  intro n told
  obtain ⟨d, sent, rfl, -⟩ := mem_received_iff.1 told
  exact missed (reaches d sent)

namespace Registry

/-- All consumers that are registered have the property. -/
def Within (P : ConsumerId → Prop) (r : Registry) : Prop := ∀ s ∈ r.subscriptions, P s.consumer

variable {r : Registry}

/-- Whoever is within a set is within a larger one. -/
theorem Within.mono {Q : ConsumerId → Prop} (within : r.Within P) (more : ∀ c, P c → Q c) :
    r.Within Q :=
  fun s held => more _ (within s held)

theorem within_empty (name : String) : (empty name).Within P :=
  fun _ none => absurd none List.not_mem_nil

theorem within_clear (r : Registry) : r.clear.Within P := fun _ none => absurd none List.not_mem_nil

/-- A removal keeps within the set. -/
theorem Within.remove (within : r.Within P) (c : ConsumerId) : (r.remove c).Within P :=
  fun s kept => within s (List.mem_filter.1 kept).1

/-- So does a sweep. -/
theorem Within.sweep (within : r.Within P) (live : Liveness) : (r.sweep live).Within P :=
  fun s kept => within s (List.mem_filter.1 kept).1

/-- A subscription of somebody in the set may be added. -/
theorem Within.add (within : r.Within P) {s : Subscription} (own : P s.consumer) :
    (r.add s).Within P := by
  intro t held
  rcases List.mem_append.1 held with old | new
  · exact within t old
  · exact List.mem_singleton.1 new ▸ own

/-- So may one that takes the place of an earlier one. -/
theorem Within.addUnique (within : r.Within P) {s : Subscription} (own : P s.consumer) :
    (r.addUnique s).Within P :=
  (within.remove s.consumer).add own

/-- A broadcast reaches live consumers of the set only. -/
theorem Within.broadcast (within : r.Within P) (live : Liveness) (value : α)
    (error : Option String) :
    Reaches live P (r.broadcast live value error) := by
  intro d sent
  obtain ⟨s, chosen, rfl⟩ := List.mem_map.1 sent
  obtain ⟨held, alive⟩ := List.mem_filter.1 chosen
  exact ⟨alive, within s held⟩

/-- So does a replay. -/
theorem Within.replay (within : r.Within P) (live : Liveness) (c : ConsumerId) (value : α) :
    Reaches live P (r.replay live c value).toList := by
  intro d sent
  obtain ⟨s, found, rfl⟩ := Option.map_eq_some_iff.1 (Option.mem_toList.1 sent)
  have both := List.find?_some found
  exact ⟨(Bool.and_eq_true_iff.1 both).2, within s (List.mem_of_find?_eq_some found)⟩

end Registry

namespace Notifier

variable {n : Notifier α}

/-- A publication keeps who is registered and live, and reaches only them. -/
theorem within_publish (within : n.registry.Within P) (live : Liveness) (v : α) :
    (n.publish live v).1.registry.Within P ∧ Reaches live P (n.publish live v).2 :=
  ⟨within.sweep live, within.broadcast live v none⟩

/-- Publishing through the gate keeps the registry and reaches the set only. -/
theorem within_publishIfChanged [BEq α] (within : n.registry.Within P) (live : Liveness) (v : α) :
    (n.publishIfChanged live v).1.registry.Within P ∧
      Reaches live P (n.publishIfChanged live v).2 := by
  unfold publishIfChanged
  split
  · exact within_publish within live v
  · exact ⟨within, reaches_nil⟩

/-- A registration with replay adds the consumer, and reaches nobody without the property if the
consumer has it. -/
theorem within_registerWithReplay (within : n.registry.Within P) (live : Liveness)
    {c : ConsumerId} (own : P c) (tag : Tag) :
    (n.registerWithReplay live c tag).1.registry.Within P ∧
      Reaches live P (n.registerWithReplay live c tag).2 := by
  have registered : (n.register c tag).registry.Within P := within.addUnique own
  refine ⟨registered, ?_⟩
  show Reaches live P ((n.register c tag).replay live c)
  unfold replay
  split
  · exact reaches_nil
  · exact registered.replay live c _

end Notifier

end AccessStatus
