import AccessStatus.Proofs.Stream.Mailroom
import AccessStatus.Stream.Registry
import Mathlib.Data.List.Nodup

/-!
# The registrations of one consumer

A registry seen from one consumer: its own registrations, in order. Operations for other consumers
leave them alone, and what a broadcast or a replay sends to the consumer depends on them only. A
registry that registers each consumer in place of its earlier registrations never holds two of one
consumer (`Single`), and then a broadcast tells each live consumer once (`ToldOnce`).
-/

namespace AccessStatus

variable {α : Type}

/-- What a subscription's consumer is told of a value. -/
def Subscription.notification (s : Subscription) (value : α) (error : Option String) :
    Notification α :=
  ⟨s.tag, s.payload, value, error⟩

/-- A delivery to a subscription is received by its consumer. -/
theorem Subscription.received_delivery (s : Subscription) (c : ConsumerId) (value : α)
    (error : Option String) :
    received c [s.delivery value error] =
      if s.consumer = c then [s.notification value error] else [] :=
  received_cons c (s.delivery value error) []

namespace Registry

/-- The registrations of one consumer. -/
def registrationsOf (r : Registry) (c : ConsumerId) : List Subscription :=
  r.subscriptions.filter fun s => s.consumer = c

section Of

variable (r : Registry) (c : ConsumerId)

/-- After its removal a consumer has no subscription. -/
theorem registrationsOf_remove_self : (r.remove c).registrationsOf c = [] := by
  unfold registrationsOf remove
  rw [List.filter_filter, List.filter_eq_nil_iff]
  intro s _
  simp

/-- The removal of another consumer leaves its subscriptions. -/
theorem registrationsOf_remove_of_ne {d : ConsumerId} (other : d ≠ c) :
    (r.remove d).registrationsOf c = r.registrationsOf c := by
  unfold registrationsOf remove
  rw [List.filter_filter]
  apply List.filter_congr
  intro s _
  by_cases same : s.consumer = c
  · simp [same, other.symm]
  · simp [same]

/-- A subscription added stands behind those of its consumer. -/
theorem registrationsOf_add (s : Subscription) :
    (r.add s).registrationsOf c = r.registrationsOf c ++ if s.consumer = c then [s] else [] := by
  unfold registrationsOf add
  rw [List.filter_append]
  by_cases same : s.consumer = c <;> simp [same]

/-- A registration in place of the earlier ones is the only one of its consumer. -/
theorem registrationsOf_addUnique_self (s : Subscription) :
    (r.addUnique s).registrationsOf s.consumer = [s] := by
  rw [addUnique, registrationsOf_add, registrationsOf_remove_self, if_pos rfl, List.nil_append]

/-- One added for another consumer leaves its subscriptions. -/
theorem registrationsOf_addUnique_of_ne {s : Subscription} (other : s.consumer ≠ c) :
    (r.addUnique s).registrationsOf c = r.registrationsOf c := by
  rw [addUnique, registrationsOf_add, registrationsOf_remove_of_ne r c other, if_neg other,
    List.append_nil]

/-- Sweeping keeps all registrations of a live consumer. -/
theorem registrationsOf_sweep {live : Liveness} (alive : live c = true) :
    (r.sweep live).registrationsOf c = r.registrationsOf c := by
  unfold registrationsOf sweep
  rw [List.filter_filter]
  apply List.filter_congr
  intro s _
  by_cases same : s.consumer = c
  · simp [same, alive]
  · simp [same]

/-- The registry holds the consumers that have a subscription. -/
theorem contains_iff : r.contains c = true ↔ ∃ s ∈ r.subscriptions, s.consumer = c := by
  simp [contains]

/-- A consumer that is not held has none. -/
theorem registrationsOf_of_not_contains (missing : ¬ r.contains c = true) :
    r.registrationsOf c = [] := by
  rw [registrationsOf, List.filter_eq_nil_iff]
  intro s held same
  exact missing ((r.contains_iff c).2 ⟨s, held, of_decide_eq_true same⟩)

/-- Whoever is registered after a removal or a sweep was so before. -/
theorem contains_of_filter {p : Subscription → Bool}
    (registered : ({ r with subscriptions := r.subscriptions.filter p } : Registry).contains c =
      true) :
    r.contains c = true := by
  obtain ⟨s, kept, same⟩ := (contains_iff _ c).1 registered
  exact (r.contains_iff c).2 ⟨s, (List.mem_filter.1 kept).1, same⟩

/-- Whoever is held after an addition was added or was held before. -/
theorem contains_of_addUnique {s : Subscription} (registered : (r.addUnique s).contains c = true) :
    s.consumer = c ∨ r.contains c = true := by
  obtain ⟨t, held, same⟩ := (contains_iff _ c).1 registered
  rcases List.mem_append.1 held with old | new
  · exact Or.inr ((r.contains_iff c).2 ⟨t, (List.mem_filter.1 old).1, same⟩)
  · exact Or.inl (List.mem_singleton.1 new ▸ same)

/-- The addition of a consumer makes it held and leaves the others. -/
theorem contains_addUnique (s : Subscription) : (r.addUnique s).contains c = if s.consumer = c
    then true else r.contains c := by
  unfold addUnique add remove contains
  rw [List.any_append, List.any_filter]
  by_cases same : s.consumer = c
  · simp [same]
  · simp only [List.any_cons, List.any_nil, same, decide_false, Bool.or_false, if_false]
    refine congrArg (fun p => r.subscriptions.any p) (funext fun t => ?_)
    by_cases held : t.consumer = c
    · simp [held, Ne.symm same]
    · simp [held]

/-- The removal of a consumer makes it not held and leaves the others. -/
theorem contains_remove (d : ConsumerId) : (r.remove d).contains c = if d = c then false
    else r.contains c := by
  unfold remove contains
  rw [List.any_filter]
  by_cases same : d = c
  · simp [same]
  · rw [if_neg same]
    refine congrArg (fun p => r.subscriptions.any p) (funext fun t => ?_)
    by_cases held : t.consumer = c
    · simp [held, Ne.symm same]
    · simp [held]

/-- Sweeping takes no live consumer away. -/
theorem contains_sweep {live : Liveness} (alive : live c = true) :
    (r.sweep live).contains c = r.contains c := by
  unfold sweep contains
  rw [List.any_filter]
  refine congrArg (fun p => r.subscriptions.any p) (funext fun t => ?_)
  by_cases held : t.consumer = c
  · simp [held, alive]
  · simp [held]

end Of

/-- A broadcast sends the value, and only to live consumers. -/
theorem mem_broadcast {r : Registry} {live : Liveness} {value : α} {error : Option String}
    {d : Delivery α}
    (sent : d ∈ r.broadcast live value error) : live d.consumer = true ∧
        d.notification.value = value := by
  obtain ⟨s, chosen, rfl⟩ := List.mem_map.1 sent
  exact ⟨(List.mem_filter.1 chosen).2, rfl⟩

/-- A replay goes to a live consumer and carries the value. -/
theorem mem_replay {r : Registry} {live : Liveness} {value : α} {c : ConsumerId} {d : Delivery α}
    (sent : d ∈ (r.replay live c value).toList) : live d.consumer = true ∧
        d.notification.value = value := by
  obtain ⟨s, chosen, rfl⟩ := Option.map_eq_some_iff.1 (Option.mem_toList.1 sent)
  have both := List.find?_some chosen
  exact ⟨(Bool.and_eq_true_iff.1 both).2, rfl⟩

section Sent

variable (r : Registry) (live : Liveness) (value : α)

/-- The registrations that reach a consumer are all its registrations if it is live, and none if it
is not. -/
theorem filter_live (c : ConsumerId) :
    (r.subscriptions.filter fun s => decide (s.consumer = c) && live s.consumer) =
      if live c then r.registrationsOf c else [] := by
  by_cases alive : live c = true
  · rw [if_pos alive]
    apply List.filter_congr
    intro s _
    by_cases same : s.consumer = c <;> simp [same, alive]
  · rw [if_neg alive, List.filter_eq_nil_iff]
    intro s _
    by_cases same : s.consumer = c <;> simp [same, alive]

/-- A broadcast tells a live consumer once for each of its registrations, and no other consumer. -/
theorem received_broadcast (c : ConsumerId) (error : Option String) :
    received c (r.broadcast live value error) =
      if live c then (r.registrationsOf c).map fun s => s.notification value error else [] := by
  unfold received broadcast
  rw [List.filter_map, List.filter_filter, List.map_map]
  show List.map (fun s => s.notification value error)
    (r.subscriptions.filter fun s => decide (s.consumer = c) && live s.consumer) = _
  rw [filter_live]
  split <;> rfl

/-- A replay tells the one consumer that it is for through its first registration, if that consumer
is live. -/
theorem received_replay_self (c : ConsumerId) :
    received c (r.replay live c value).toList =
      if live c then ((r.registrationsOf c).head?.map fun s => s.notification value none).toList
      else [] := by
  have only : ∀ s ∈ r.registrationsOf c, s.consumer = c :=
    fun s mine => by simpa using (List.mem_filter.1 mine).2
  unfold replay
  -- the first registration that is found is the head of those that reach the consumer
  rw [← List.head?_filter, filter_live]
  split
  · cases h : r.registrationsOf c with
    | nil => rfl
    | cons s rest =>
      have same : s.consumer = c := only s (h ▸ List.mem_cons_self)
      rw [List.head?_cons, Option.map_some, Option.toList_some, s.received_delivery, if_pos same]
      rfl
  · rfl

/-- A consumer that is dead or is not held receives nothing of a broadcast. -/
theorem received_broadcast_of_not {c : ConsumerId} (error : Option String)
    (missed : ¬ (live c = true ∧ r.contains c = true)) :
        received c (r.broadcast live value error) = [] := by
  rw [received_broadcast]
  split
  · rename_i alive
    rw [r.registrationsOf_of_not_contains c fun registered => missed ⟨alive, registered⟩,
      List.map_nil]
  · rfl

/-- A replay for one consumer is not received by another. -/
theorem received_replay_of_ne {c d : ConsumerId} (other : d ≠ c) :
    received c (r.replay live d value).toList = [] := by
  unfold replay
  cases found : r.subscriptions.find? fun s => s.consumer = d && live s.consumer with
  | none => rfl
  | some s =>
    have same : s.consumer = d := by
      have both := List.find?_some found
      simp only [Bool.and_eq_true, decide_eq_true_eq] at both
      exact both.1
    rw [Option.map_some, Option.toList_some, s.received_delivery, same, if_neg other]

end Sent

/-! ## One registration each -/

/-- No consumer is registered twice. -/
def Single (r : Registry) : Prop := (r.subscriptions.map Subscription.consumer).Nodup

section Single

variable {r : Registry}

theorem single_empty (name : String) : (empty name).Single := List.nodup_nil

/-- Nobody is held twice after all were removed. -/
theorem single_clear (r : Registry) : r.clear.Single := List.nodup_nil

/-- A removal makes nobody held twice. -/
theorem Single.remove (single : r.Single) (c : ConsumerId) : (r.remove c).Single :=
  (List.filter_sublist.map Subscription.consumer).nodup single

/-- Nor does a sweep. -/
theorem Single.sweep (single : r.Single) (live : Liveness) : (r.sweep live).Single :=
  (List.filter_sublist.map Subscription.consumer).nodup single

/-- The consumer that is registered anew was removed before. -/
theorem Single.addUnique (single : r.Single) (s : Subscription) : (r.addUnique s).Single := by
  unfold Registry.addUnique Registry.add Single
  rw [List.map_append, List.nodup_append]
  refine ⟨single.remove s.consumer, List.nodup_singleton _, ?_⟩
  intro c old d new same
  obtain ⟨t, kept, rfl⟩ := List.mem_map.1 old
  have other : t.consumer ≠ s.consumer := by simpa using (List.mem_filter.1 kept).2
  exact other (same.trans (List.mem_singleton.1 new))

/-- A registered consumer has one registration. -/
theorem Single.registrationsOf_eq (single : r.Single) {c : ConsumerId}
    (registered : r.contains c = true) :
    ∃ s, s.consumer = c ∧ r.registrationsOf c = [s] := by
  have mine : ∀ s ∈ r.registrationsOf c, s.consumer = c :=
    fun s held => by simpa using (List.mem_filter.1 held).2
  have distinct : ((r.registrationsOf c).map Subscription.consumer).Nodup :=
    (List.filter_sublist.map Subscription.consumer).nodup single
  cases held : r.registrationsOf c with
  | nil =>
    obtain ⟨s, stands, same⟩ := List.any_eq_true.1 registered
    exact absurd same (List.filter_eq_nil_iff.1 held s stands)
  | cons s rest =>
    rw [held] at mine distinct
    have own := mine s List.mem_cons_self
    cases rest with
    | nil => exact ⟨s, own, rfl⟩
    | cons t more =>
      -- a second registration would be of the same consumer
      have twin := mine t (List.mem_cons_of_mem s List.mem_cons_self)
      rw [List.map_cons, List.map_cons, own, twin, List.nodup_cons] at distinct
      exact absurd List.mem_cons_self distinct.1

/-- A broadcast tells a live consumer that is registered once. -/
theorem Single.received_broadcast (single : r.Single) {live : Liveness} {c : ConsumerId}
    (alive : live c = true)
    (registered : r.contains c = true) (value : α) (error : Option String) :
    ∃ n, received c (r.broadcast live value error) = [n] ∧ n.value = value := by
  obtain ⟨s, -, alone⟩ := single.registrationsOf_eq registered
  refine ⟨s.notification value error, ?_, rfl⟩
  rw [Registry.received_broadcast, if_pos alive, alone, List.map_singleton]

/-- A broadcast tells a live consumer its value if it is registered, and once. -/
theorem Single.values_broadcast (single : r.Single) {live : Liveness} {c : ConsumerId}
    (alive : live c = true) (value : α) :
    (received c (r.broadcast live value none)).map Notification.value =
      if r.contains c then [value] else [] := by
  by_cases registered : r.contains c = true
  · obtain ⟨n, told, rfl⟩ := single.received_broadcast alive registered value none
    rw [told, if_pos registered]
    rfl
  · rw [r.received_broadcast_of_not live value none fun both => registered both.2,
      if_neg registered]
    rfl

end Single

end Registry

/-- Each live consumer of a registry is told the notice once, through its registration and in the
order of registration, and nobody else is told anything. -/
structure ToldOnce (live : Liveness) (r : Registry) (notice : α) (sent : List (Delivery α)) :
    Prop where
  consumers : sent.map Delivery.consumer = (r.subscriptions.map Subscription.consumer).filter live
  nodup : (sent.map Delivery.consumer).Nodup
  notices : ∀ d ∈ sent, ∃ s ∈ r.subscriptions, d = s.delivery notice none

/-- A broadcast tells each live consumer once, whatever its value is seen through. -/
theorem Registry.Single.toldOnce {β : Type} {r : Registry} (single : r.Single) (live : Liveness)
    (value : α) (f : α → β) :
    ToldOnce live r (f value) ((r.broadcast live value none).map (·.map f)) := by
  have consumers : ((r.broadcast live value none).map (·.map f)).map Delivery.consumer =
      (r.subscriptions.map Subscription.consumer).filter live := by
    rw [Registry.broadcast, List.map_map, List.map_map, List.filter_map]
    rfl
  refine ⟨consumers, ?_, ?_⟩
  · rw [consumers]
    exact single.filter _
  · intro d told
    obtain ⟨e, sent, rfl⟩ := List.mem_map.1 told
    obtain ⟨s, chosen, rfl⟩ := List.mem_map.1 sent
    exact ⟨s, (List.mem_filter.1 chosen).1, rfl⟩

end AccessStatus
