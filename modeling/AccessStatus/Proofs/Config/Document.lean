import AccessStatus.Document
import AccessStatus.Proofs.Config.BySlot
import AccessStatus.Proofs.Json.Reading

/-!
# Configurations written and read back

A type is `Faithful` if what is written of a value is read as that value. Numbers within their
limits and named alternatives are, and what is made of faithful parts is faithful too: an option, a
list, and a record whose fields have different names. So a configuration's text is read as the
configuration it was written from, and whether it is accepted depends on its slots alone
(`ofText_write`). No configuration that can come about lists a slot twice (`Reachable.unique`),
hence all of them are read back: `documents_read_back`.
-/

namespace AccessStatus

open Json Documented

/-- What is written of a value is read as that value. -/
class Faithful (α : Type) [Documented α] : Prop where
  decode?_encode : ∀ a : α, decode? (encode a) = some a

export Faithful (decode?_encode)

attribute [simp] decode?_encode

/-- The text written for a value is read as that value. -/
theorem Documented.read?_write {α : Type} [Documented α] [Faithful α] (a : α) :
    Documented.read? (write a) = some a := by
  rw [Documented.read?, write, read?_compact]
  exact decode?_encode a

/-! ## Numbers, options and lists -/

/-- An integer within the limits is read back. -/
theorem toInt?_ofInt {least greatest i : Int} (above : least ≤ i) (below : i ≤ greatest) :
    toInt? least greatest (ofInt i) = some i := by
  simp [toInt?, ofInt, above, below]

instance {α : Type} [Named α] : Faithful α where
  decode?_encode a := Named.ofName?_name a

instance : Faithful Bool where
  decode?_encode _ := rfl

instance : Faithful UInt32 where
  decode?_encode n := by
    have below : (n.toNat : Int) ≤ 4294967295 := by
      have := n.toNat_lt
      omega
    show (toInt? 0 4294967295 (ofInt n.toNat)).map (fun i => UInt32.ofNat i.toNat) = some n
    rw [toInt?_ofInt (Int.natCast_nonneg _) below]
    simp

instance : Faithful SlotIndex where
  decode?_encode slot := by
    have below : (slot.value.toNat : Int) ≤ 255 := by
      have := slot.value.toNat_lt
      omega
    show (toInt? 0 255 (ofInt slot.value.toNat)).map (fun i => SlotIndex.mk (.ofNat i.toNat)) =
      some slot
    rw [toInt?_ofInt (Int.natCast_nonneg _) below]
    simp

instance : Faithful SubscriptionId where
  decode?_encode subscription := by
    have above : -2147483648 ≤ subscription.value.toInt := Int32.le_toInt subscription.value
    have below : subscription.value.toInt ≤ 2147483647 := Int32.toInt_le subscription.value
    show (toInt? (-2147483648) 2147483647 (ofInt subscription.value.toInt)).map
      (fun i => SubscriptionId.mk (.ofInt i)) =
      some subscription
    rw [toInt?_ofInt above below]
    simp

/-- What is null stands for nothing, so an option is read back only if no value is written as
null. -/
theorem toOption?_ofOption {α : Type} [Documented α] [Faithful α]
    (notNull : ∀ a : α, encode a ≠ Json.null) (a : Option α) :
    toOption? decode? (ofOption encode a) = some a := by
  cases a with
  | none => rfl
  | some a =>
    show toOption? decode? (encode a) = some (some a)
    have read := decode?_encode a
    unfold toOption?
    split
    · rename_i null
      exact absurd null (notNull a)
    · rw [read]
      rfl

instance : Faithful (Option SubscriptionId) where
  decode?_encode := toOption?_ofOption fun _ null => nomatch null

instance {α : Type} [Documented α] [Faithful α] : Faithful (List α) where
  decode?_encode as := by
    show (as.map encode).mapM decode? = some as
    induction as with
    | nil => rfl
    | cons a as ih => simp [ih]

/-! ## Records -/

/-- The fields of a record that was written are read back, if their names are different. -/
theorem fields?_ofFields {names : List String} (fields : List (String × Json))
    (named : fields.map Prod.fst = names) (distinct : names.Nodup) :
    fields? names (ofFields fields) = some (fields.map fun field => some field.2) := by
  subst named
  have whole : ofFields fields = .object (fields.map fun field => (some field.1, field.2)) := rfl
  have texts : (fields.map fun field => (some field.1, field.2)).all (fun m => m.1.isSome) = true :=
    by simp
  have once : (fields.map Prod.fst).all (fun name =>
      decide ((fields.map fun field => (some field.1, field.2)).countP (·.1 = some name) ≤ 1)) =
        true := by
    refine List.all_eq_true.2 fun name _ => decide_eq_true ?_
    have count := List.nodup_iff_count_le_one.1 distinct name
    rw [List.count, List.countP_map] at count
    rw [List.countP_map]
    simpa [Function.comp_def, beq_eq_decide] using count
  have found : ∀ field ∈ fields, member? (fields.map fun field => (some field.1, field.2)) field.1 =
      some field.2 := by
    intro field there
    have named : ((fun m : Option String × Json => decide (m.1 = some field.1)) ∘
      fun field => (some field.1, field.2)) =
        fun f : String × Json => decide (f.1 = field.1) := by
      funext f
      simp
    rw [member?, List.find?_map, named, find?_key_of_mem distinct there]
    rfl
  rw [whole, fields?, if_pos ⟨texts, once⟩, List.map_map]
  exact congrArg some (List.map_congr_left found)

section Fields

variable {α : Type} [Documented α] [Faithful α]

@[simp] theorem required_decode? (a : α) : required decode? (some (encode a)) = some a :=
  decode?_encode a

@[simp] theorem optional_decode? (absent a : α) :
    optional decode? absent (some (encode a)) = some a := decode?_encode a

end Fields

instance : Faithful Thresholds where
  decode?_encode t := by
    have read : fields?
      ["jitter_ms", "packet_loss_rate", "packet_loss_time_ms", "no_rtp_interval_ms"] (encode t) =
        some [some (encode t.jitterMs), some (encode t.packetLossRate),
          some (encode t.packetLossTimeMs),
          some (encode t.noMediaIntervalMs)] := fields?_ofFields _ rfl (by decide)
    show (fields? _ (encode t)).bind _ = some t
    rw [read]
    simp

instance : Faithful Availability where
  decode?_encode a := by
    have read :
      fields? ["is_available", "is_cross_sim_wifi_calling", "notify_disabled"] (encode a) =
        some [some (encode a.isAvailable), some (encode a.isCrossSim),
          some (encode a.notifyDisabled)] :=
      fields?_ofFields _ rfl (by decide)
    show (fields? _ (encode a)).bind _ = some a
    rw [read]
    simp

instance : Faithful SlotConfig where
  decode?_encode entry := by
    have read : fields?
      ["slot", "subscription_id", "block_ipv6_only_wifi", "cross_sim_calling_enabled"]
      (encode entry) =
        some [some (encode entry.slot), some (encode entry.subscription),
          some (encode entry.blockIpv6OnlyWifi),
          some (encode entry.crossSimCalling)] := fields?_ofFields _ rfl (by decide)
    show (fields? _ (encode entry)).bind _ = some entry
    rw [read]
    simp

instance : Faithful Config where
  decode?_encode c := by
    have read : fields? ["default_data_subscription", "slots"] (encode c) =
        some [some (encode c.defaultData), some (encode c.slots)] :=
          fields?_ofFields _ rfl (by decide)
    show (fields? _ (encode c)).bind _ = some c
    rw [read]
    simp

/-! ## Configurations -/

namespace Config

/-- What is written of a configuration is accepted or refused as the configuration itself is. -/
theorem ofText_write (c : Config) : ofText (write c) = c.checked := by
  rw [ofText, Documented.read?_write]

/-- The configurations that can come about: nothing is configured at first, or a list of entries or
a text was accepted, and then changes were made. -/
inductive Reachable : Config → Prop
  | empty : Reachable .empty
  | accepted {c d : Config} (accepted : c.checked = .ok d) : Reachable d
  | read {s : String} {c : Config} (accepted : ofText s = .ok c) : Reachable c
  | changed {c : Config} (before : Reachable c) (op : Op) : Reachable (c.step op)

/-- No slot ever has two entries. -/
theorem Reachable.unique {c : Config} (reachable : Reachable c) : c.listed.Nodup := by
  induction reachable with
  | empty => exact List.nodup_nil
  | @accepted c d accepted =>
    obtain ⟨unique, rfl⟩ := (checked_eq_ok_iff c d).1 accepted
    exact unique
  | @read s c accepted =>
    unfold ofText at accepted
    split at accepted
    · cases accepted
    · rename_i described _
      obtain ⟨unique, rfl⟩ := (checked_eq_ok_iff described c).1 accepted
      exact unique
  | changed _ op unique => exact nodup_step unique op

/-- What is changed further stays reachable. -/
theorem Reachable.after {c : Config} (reachable : Reachable c) (ops : List Op) :
    Reachable (c.after ops) := by
  induction ops generalizing c with
  | nil => exact reachable
  | cons op ops ih => exact ih (reachable.changed op)

/-- What is written of any value of the types that a document is made of, or that are written on
their own, is read as that value. -/
structure TypesReadBack : Prop where
  slot : ∀ slot : SlotIndex, Documented.read? (write slot) = some slot
  subscription : ∀ subscription :
    SubscriptionId, Documented.read? (write subscription) = some subscription
  /-- Traffic classes, transports, kinds and types of calls, states, events, reasons and protocols
  are named alternatives. -/
  named : ∀ (α : Type) [Named α] (a : α), Documented.read? (write a) = some a
  thresholds : ∀ t : Thresholds, Documented.read? (write t) = some t
  availability : ∀ a : Availability, Documented.read? (write a) = some a
  entry : ∀ entry : SlotConfig, Documented.read? (write entry) = some entry

/-- **A configuration's text is read as the configuration.** However a configuration came about, the
compact text that is written of it is accepted and gives the same entries in the same order; and no
value of another type is changed by writing and reading it. -/
theorem documents_read_back : (∀ c, Reachable c → ofText (write c) = .ok c) ∧ TypesReadBack := by
  refine ⟨fun c reachable => ?_, ?_⟩
  · rw [ofText_write]
    exact checked_of_nodup reachable.unique
  · exact ⟨read?_write, read?_write, fun _ _ => read?_write, read?_write, read?_write, read?_write⟩

/-- The extreme slots and subscriptions, one of them configured by a switch alone. -/
def extremes : List Op :=
  [.setSlot ⟨⟨255⟩, some ⟨-2147483648⟩, true, false⟩, .setCrossSim ⟨0⟩ true,
    .setDefaultData (some ⟨2147483647⟩)]

/-- What is left open is written as null. -/
theorem documents_read_back_extremes :
    write (empty.after extremes) =
        "\x7b\"default_data_subscription\":2147483647,\"slots\":[" ++
          "\x7b\"slot\":255,\"subscription_id\":-2147483648," ++
          "\"block_ipv6_only_wifi\":true,\"cross_sim_calling_enabled\":false\x7d," ++
          "\x7b\"slot\":0,\"subscription_id\":null," ++
          "\"block_ipv6_only_wifi\":false,\"cross_sim_calling_enabled\":true\x7d]\x7d" ∧
      ofText (write (empty.after extremes)) = .ok (empty.after extremes) := by
  refine ⟨?_, documents_read_back.1 _ (Reachable.empty.after extremes)⟩
  decide +kernel

end Config

end AccessStatus
