import AccessStatus.Availability.Basic
import AccessStatus.Proofs.History

/-!
# The default network and its history

The default network is the one that was named last, unless it was reported as gone after that. Of
its addresses only those count that were reported since it last became the default. `defaultNetwork`
reads both off the whole history; `defaultNetwork_concat` says that `DefaultNetwork.after`, which
sees one report at a time, comes to the same.
-/

namespace AccessStatus

namespace NetworkEvent

/-- The network that a report names as the default one, with what it says of it. -/
def named? : NetworkEvent → Option (NetworkId × NetworkTransport × Option SubscriptionId)
  | available id transport subscription => some (id, transport, subscription)
  | capabilities id transport subscription => some (id, transport, subscription)
  | link .. | lost _ => none

/-- The report names this network as the default one. -/
def names (id : NetworkId) : NetworkEvent → Bool
  | available other .. | capabilities other .. => other = id
  | link .. | lost _ => false

/-- After the report this network is not the default one: another is named, or this one is gone. -/
def deposes (id : NetworkId) : NetworkEvent → Bool
  | available other .. | capabilities other .. => other ≠ id
  | link .. => false
  | lost other => other = id

/-- The addresses that a report gives for this network. -/
def addressesOf? (id : NetworkId) : NetworkEvent → Option (List Address)
  | link other addresses => if other = id then some addresses else none
  | available .. | capabilities .. | lost _ => none

end NetworkEvent

open NetworkEvent

/-- The reports since a network last became the default one, none if it has been deposed since
then. -/
def reign (id : NetworkId) (events : List NetworkEvent) : List NetworkEvent :=
  (since (deposes id) events).dropWhile fun e => !e.names id

/-- The protocols of the addresses reported last since a network became the default one. -/
def reignProtocol (id : NetworkId) (events : List NetworkEvent) : LinkProtocol :=
  ((latest (addressesOf? id) (reign id events)).map LinkProtocol.ofAddresses).getD .unknown

/-- The network was reported as gone after any network was last named. -/
def LostSinceNamed (id : NetworkId) (events : List NetworkEvent) : Prop :=
  .lost id ∈ since (fun e => e.named?.isSome) events

instance (id : NetworkId) (events : List NetworkEvent) : Decidable (LostSinceNamed id events) :=
  inferInstanceAs (Decidable (_ ∈ since _ events))

/-- The default network by the history: the one named last, unless it was lost after that. -/
def defaultNetwork (events : List NetworkEvent) : Option DefaultNetwork :=
  match latest named? events with
  | none => none
  | some (id, transport, subscription) =>
    if LostSinceNamed id events then none
      else some ⟨id, transport, subscription, reignProtocol id events⟩

/-! ## One more report -/

/-- A report that ends a reign is not one that names the network. -/
theorem names_eq_false_of_deposes {id : NetworkId} {e : NetworkEvent}
    (deposes : e.deposes id = true) :
    e.names id = false := by
  cases e <;> simp_all [NetworkEvent.deposes, NetworkEvent.names]

/-- A report that deposes the network leaves nothing of its reign. -/
theorem reign_concat_of_deposes {id : NetworkId} (events : List NetworkEvent) {e : NetworkEvent}
    (deposes : e.deposes id = true) : reign id (events ++ [e]) = [] := by
  rw [reign, since_concat, if_pos deposes, List.dropWhile_nil]

/-- A report that names the network as the default one belongs to its reign. -/
theorem reign_concat_of_names {id : NetworkId} (events : List NetworkEvent) {e : NetworkEvent}
    (names : e.names id = true) : reign id (events ++ [e]) = reign id events ++ [e] := by
  have keeps : e.deposes id = false := by
    by_contra deposes
    rw [names_eq_false_of_deposes (by simpa using deposes)] at names
    cases names
  rw [reign, since_concat, if_neg (by simp [keeps]), List.dropWhile_append, ← reign]
  split
  · rename_i empty
    rw [List.isEmpty_iff.1 empty, List.dropWhile_cons_of_neg (by simp [names]), List.nil_append]
  · rfl

/-- Any other report belongs to the reign if the network reigns. -/
theorem reign_concat_of_neither {id : NetworkId} (events : List NetworkEvent) {e : NetworkEvent}
    (deposes : e.deposes id = false) (names : e.names id = false) :
    reign id (events ++ [e]) = if reign id events = [] then [] else reign id events ++ [e] := by
  rw [reign, since_concat, if_neg (by simp [deposes]), List.dropWhile_append, ← reign]
  simp only [List.isEmpty_iff]
  split
  · rw [List.dropWhile_cons_of_pos (by simp [names]), List.dropWhile_nil]
  · rfl

/-- A network is lost since it was named if it was so before or is lost now, and no report names a
network again. -/
theorem lostSinceNamed_concat (id : NetworkId) (events : List NetworkEvent) (e : NetworkEvent) :
    LostSinceNamed id (events ++ [e]) ↔ e.named? = none ∧
      (LostSinceNamed id events ∨ e = .lost id) := by
  rw [LostSinceNamed, since_concat]
  cases named : e.named? with
  | some n => simp
  | none => simp [LostSinceNamed, eq_comm]

/-! ## The reign of the default network -/

/-- The network is the default one by the history. -/
def IsDefault (id : NetworkId) (events : List NetworkEvent) : Prop :=
  (latest named? events).map Prod.fst = some id ∧ ¬ LostSinceNamed id events

/-- A network reigns exactly while it is the default one. -/
theorem reign_ne_nil_iff (id : NetworkId) (events : List NetworkEvent) :
    reign id events ≠ [] ↔ IsDefault id events := by
  induction events using List.reverseRecOn with
  | nil => simp [reign, IsDefault]
  | append_singleton events e ih =>
    rw [IsDefault, latest_concat, lostSinceNamed_concat]
    -- the report ends the reign, begins or continues it by naming the network, or leaves it
    by_cases deposes : e.deposes id = true
    · rw [reign_concat_of_deposes events deposes]
      cases e <;> simp_all [NetworkEvent.deposes, named?]
    · by_cases names : e.names id = true
      · rw [reign_concat_of_names events names]
        cases e <;> simp_all [NetworkEvent.names, named?]
      · rw [reign_concat_of_neither events (by simpa using deposes) (by simpa using names)]
        cases e <;> simp_all [NetworkEvent.deposes, NetworkEvent.names, named?, IsDefault]

/-- What the history says of the default network, read back. -/
theorem of_defaultNetwork_eq_some {events : List NetworkEvent} {n : DefaultNetwork}
    (found : defaultNetwork events = some n) :
    IsDefault n.id events ∧ n.protocol = reignProtocol n.id events := by
  unfold defaultNetwork at found
  split at found
  · cases found
  · rename_i id transport subscription named
    split at found
    · cases found
    · rename_i kept
      cases found
      exact ⟨⟨by rw [named]; rfl, kept⟩, rfl⟩

/-- Where no default network is known, no network reigns. -/
theorem not_isDefault_of_defaultNetwork_eq_none {events : List NetworkEvent}
    (missing : defaultNetwork events = none) (id : NetworkId) : ¬ IsDefault id events := by
  rintro ⟨named, kept⟩
  obtain ⟨⟨other, transport, subscription⟩, last, rfl⟩ := Option.map_eq_some_iff.1 named
  rw [defaultNetwork, last] at missing
  simp only [kept, if_false] at missing
  cases missing

/-- A network that was not the default one has no addresses that count. -/
theorem reignProtocol_of_not_isDefault {id : NetworkId} {events : List NetworkEvent}
    (other : ¬ IsDefault id events) : reignProtocol id events = .unknown := by
  rw [← reign_ne_nil_iff, not_not] at other
  rw [reignProtocol, other]
  rfl

/-- A network that is named again keeps the protocols of its present reign. -/
theorem renew_defaultNetwork (events : List NetworkEvent) (id : NetworkId)
    (transport : NetworkTransport) (subscription : Option SubscriptionId) :
    DefaultNetwork.renew (defaultNetwork events) id transport subscription =
      ⟨id, transport, subscription, reignProtocol id events⟩ := by
  cases found : defaultNetwork events with
  | none =>
    rw [reignProtocol_of_not_isDefault (not_isDefault_of_defaultNetwork_eq_none found id)]
    rfl
  | some n =>
    obtain ⟨⟨named, -⟩, protocol⟩ := of_defaultNetwork_eq_some found
    by_cases same : n.id = id
    · subst same
      simp [DefaultNetwork.renew, protocol]
    · have other : ¬ IsDefault id events := fun h => same (Option.some.inj (named.symm.trans h.1))
      simp [DefaultNetwork.renew, same, reignProtocol_of_not_isDefault other]

/-- What is known of the addresses of a network stays when it is named once more. -/
theorem reignProtocol_concat_of_names {id : NetworkId} (events : List NetworkEvent)
    {e : NetworkEvent} (names : e.names id = true) :
    reignProtocol id (events ++ [e]) = reignProtocol id events := by
  have silent : e.addressesOf? id = none := by
    cases e <;> simp_all [NetworkEvent.names, addressesOf?]
  rw [reignProtocol, reign_concat_of_names events names, latest_concat, silent, Option.none_or,
    ← reignProtocol]

/-- Addresses reported for the default network replace those that counted before. -/
theorem reignProtocol_concat_of_unnamed {id : NetworkId} {events : List NetworkEvent}
    {e : NetworkEvent} (isDefault : IsDefault id events) (unnamed : e.named? = none)
    (kept : e ≠ .lost id) :
    reignProtocol id (events ++ [e]) =
      ((e.addressesOf? id).map LinkProtocol.ofAddresses).getD (reignProtocol id events) := by
  have stays : e.deposes id = false ∧ e.names id = false := by
    cases e <;> simp_all [NetworkEvent.deposes, NetworkEvent.names, named?]
  rw [reignProtocol, reign_concat_of_neither events stays.1 stays.2,
    if_neg ((reign_ne_nil_iff id events).2 isDefault), latest_concat]
  cases e.addressesOf? id <;> rfl

/-- A network that is named is the default one from then on, with the addresses of its reign. -/
theorem defaultNetwork_concat_of_named (events : List NetworkEvent) {e : NetworkEvent}
    {id : NetworkId} {transport : NetworkTransport} {subscription : Option SubscriptionId}
    (named : e.named? = some (id, transport, subscription)) :
    defaultNetwork (events ++ [e]) =
      some ⟨id, transport, subscription, reignProtocol id events⟩ := by
  have names : e.names id = true := by
    cases e <;> simp_all [NetworkEvent.names, named?]
  rw [defaultNetwork, latest_concat, named]
  simp [lostSinceNamed_concat, named, reignProtocol_concat_of_names events names]

/-- A report that names no network leaves the default one, unless that is lost, and may tell its
addresses. -/
theorem defaultNetwork_concat_of_unnamed (events : List NetworkEvent) {e : NetworkEvent}
    (unnamed : e.named? = none) :
    defaultNetwork (events ++ [e]) = (defaultNetwork events).bind fun n =>
      if e = .lost n.id then none
      else some { n with protocol :=
        ((e.addressesOf? n.id).map LinkProtocol.ofAddresses).getD n.protocol } := by
  cases last : latest named? events with
  | none => simp [defaultNetwork, latest_concat, unnamed, last]
  | some naming =>
    obtain ⟨id, transport, subscription⟩ := naming
    rw [defaultNetwork, defaultNetwork, latest_concat, unnamed, Option.none_or, last]
    simp only [lostSinceNamed_concat, unnamed, true_and]
    by_cases lost : LostSinceNamed id events
    · simp [lost]
    · by_cases gone : e = .lost id
      · simp [lost, gone]
      · have isDefault : IsDefault id events := ⟨by rw [last]; rfl, lost⟩
        simp [lost, gone, reignProtocol_concat_of_unnamed isDefault unnamed gone]

/-- One report at a time leads to the same default network as the whole history. -/
theorem defaultNetwork_concat (events : List NetworkEvent) (e : NetworkEvent) :
    defaultNetwork (events ++ [e]) =
      (DefaultNetwork.after (defaultNetwork events) e).getD (defaultNetwork events) := by
  cases e with
  | available id transport subscription =>
    rw [defaultNetwork_concat_of_named events rfl, DefaultNetwork.after, renew_defaultNetwork,
      Option.getD_some]
  | capabilities id transport subscription =>
    rw [defaultNetwork_concat_of_named events rfl, DefaultNetwork.after, renew_defaultNetwork,
      Option.getD_some]
  | link id addresses =>
    rw [defaultNetwork_concat_of_unnamed events rfl]
    cases found : defaultNetwork events with
    | none => rfl
    | some n =>
      by_cases same : n.id = id
      · simp [DefaultNetwork.after, addressesOf?, same]
      · simp [DefaultNetwork.after, addressesOf?, same, Ne.symm same]
  | lost id =>
    rw [defaultNetwork_concat_of_unnamed events rfl]
    cases found : defaultNetwork events with
    | none => rfl
    | some n =>
      by_cases same : n.id = id
      · simp [DefaultNetwork.after, same]
      · simp [DefaultNetwork.after, addressesOf?, same, Ne.symm same]

end AccessStatus
