import AccessStatus.Proofs.Availability.Told

/-!
# What an open monitor remembers

Every context of an open monitor is sound, and while Wi-Fi is the default network the value
remembered is never that of another subscription's connection. Both hold whatever the configuration
answered at any time: a request evaluates a slot with one answer or leaves the slot's memory alone,
and whenever the default network changes all slots are evaluated (`lastInfo_next`).
-/

namespace AccessStatus

/-- The default network is a Wi-Fi network. -/
def OnWifi (network : Option DefaultNetwork) : Prop := ∃ n, network = some n ∧ n.transport = .wifi

section Availability

variable (config : ConfigSource) (network : Option DefaultNetwork) (i : SlotInputs)
  (slot : SlotIndex)

/-- Without Wi-Fi a slot is not available, or it is over the connection of another subscription. -/
theorem withoutWifi_cases :
    withoutWifi config network i slot = .unavailable ∨
      withoutWifi config network i slot = .available true := by
  unfold withoutWifi
  split
  · exact Or.inr rfl
  · exact Or.inl rfl

/-- Over Wi-Fi a slot is not available, or it is by itself. -/
theorem overWifi_cases (n : DefaultNetwork) :
    overWifi config n i slot = .unavailable ∨ overWifi config n i slot = .available false := by
  unfold overWifi
  split
  · exact Or.inr rfl
  · exact Or.inl rfl

/-- Over Wi-Fi a slot never uses another subscription's connection. -/
theorem availability_of_onWifi {network : Option DefaultNetwork} (onWifi : OnWifi network) :
    availability config network i slot = .unavailable ∨
      availability config network i slot = .available false := by
  obtain ⟨n, rfl, wifi⟩ := onWifi
  have isWifi : n.isWifi = true := decide_eq_true wifi
  rw [availability, if_pos isWifi]
  exact overWifi_cases config i slot n

/-- Without Wi-Fi a slot can only use another subscription's connection. -/
theorem availability_of_not_onWifi {network : Option DefaultNetwork} (offWifi : ¬ OnWifi network) :
    availability config network i slot = .unavailable ∨
      availability config network i slot = .available true := by
  cases network with
  | none => exact withoutWifi_cases config none i slot
  | some n =>
    have notWifi : ¬ n.isWifi = true := fun wifi => offWifi ⟨n, rfl, of_decide_eq_true wifi⟩
    rw [availability, if_neg notWifi]
    exact withoutWifi_cases config (some n) i slot

/-- The availability of a slot never announces anything by itself. -/
theorem isPlain_availability : (availability config network i slot).IsPlain := by
  by_cases onWifi : OnWifi network
  · rcases availability_of_onWifi config i slot onWifi with h | h
    · exact Or.inl h
    · exact Or.inr (Or.inl h)
  · rcases availability_of_not_onWifi config i slot onWifi with h | h
    · exact Or.inl h
    · exact Or.inr (Or.inr h)

end Availability

namespace AvailabilityMonitor

/-- The consumer is registered for the slot. -/
def Subscribed (m : AvailabilityMonitor) (slot : SlotIndex) (c : ConsumerId) : Prop :=
  SlotAct.Subscribed (m.contexts.get? slot) c

/-- What a request brings is found from some answer of the configuration, and a loss is announced
only of a slot that is not available. -/
theorem plain_slotAct (m : AvailabilityMonitor) (config : ConfigSource) (op : Op)
    (slot : SlotIndex) :
    (m.slotAct config op slot).Plain := by
  have found : (m.foundBy config op slot).IsPlain := isPlain_availability _ _ _ _
  have quiet : (SlotAct.find false (m.foundBy config op slot)).Plain :=
    ⟨found, fun edge => nomatch edge⟩
  unfold slotAct
  cases op with
  | network event =>
    dsimp only
    split
    · trivial
    · refine ⟨found, fun edge => ?_⟩
      simpa using (Bool.and_eq_true_iff.1 edge).1
  | registered j yes | crossSim j enabled =>
    dsimp only
    split
    · exact quiet
    · trivial
  | configChanged => exact quiet
  | register j c tag =>
    dsimp only
    split
    · exact found
    · trivial
  | unregister j c | closeSlot j =>
    dsimp only
    split <;> trivial
  | close => trivial

section Next

variable {m : AvailabilityMonitor} (config : ConfigSource) (live : Liveness)
  (isOpen : m.isClosed = false)

include isOpen

/-- After a request a slot is remembered with what the request found, or not at all, or as before
it, and then the default network is as before too. -/
theorem lastInfo_next (op : Op) (slot : SlotIndex) :
    (m.next config live op).lastInfo slot = some (m.foundBy config op slot) ∨
      (m.next config live op).lastInfo slot = none ∨
      (m.next config live op).lastInfo slot = m.lastInfo slot ∧
        networkAfter m.network op = m.network := by
  have remembers (edge : Bool) (a : Availability) :
      SlotAct.remembered ((SlotAct.find edge a).apply live (m.contexts.get? slot)).1 = some a ∨
        SlotAct.remembered ((SlotAct.find edge a).apply live (m.contexts.get? slot)).1 = none := by
    cases m.contexts.get? slot with
    | none => exact Or.inr rfl
    | some ctx => exact Or.inl (ctx.current_take live edge a)
  have after : (m.next config live op).lastInfo slot =
      SlotAct.remembered ((m.slotAct config op slot).apply live (m.contexts.get? slot)).1 :=
    congrArg SlotAct.remembered (contexts_step config live isOpen op slot)
  -- so it is enough to say what the act of the slot leaves there
  rw [after]
  unfold slotAct
  cases op with
  | network event =>
    dsimp only
    split
    · rename_i ignored
      refine Or.inr (Or.inr ⟨rfl, ?_⟩)
      rw [networkAfter, Op.networkEvent?, Option.bind_some, ignored, Option.getD_none]
    · exact (remembers _ _).imp_right Or.inl
  | registered j yes | crossSim j enabled =>
    dsimp only
    split
    · exact (remembers _ _).imp_right Or.inl
    · exact Or.inr (Or.inr ⟨rfl, rfl⟩)
  | configChanged => exact (remembers _ _).imp_right Or.inl
  | register j c tag =>
    dsimp only
    split
    · exact Or.inl (SlotContext.current_register _ live c tag _)
    · exact Or.inr (Or.inr ⟨rfl, rfl⟩)
  | unregister j c =>
    dsimp only
    split
    · refine Or.inr (Or.inr ⟨?_, rfl⟩)
      show SlotAct.remembered ((m.contexts.get? slot).map _) =
        SlotAct.remembered (m.contexts.get? slot)
      cases m.contexts.get? slot <;> rfl
    · exact Or.inr (Or.inr ⟨rfl, rfl⟩)
  | closeSlot j =>
    dsimp only
    split
    · exact Or.inr (Or.inl rfl)
    · exact Or.inr (Or.inr ⟨rfl, rfl⟩)
  | close => exact Or.inr (Or.inl rfl)

end Next

/-- Every context is sound, and over Wi-Fi no slot is remembered to use another subscription's
connection. -/
structure Coherent (m : AvailabilityMonitor) : Prop where
  sound : ∀ slot, ∀ ctx ∈ m.contexts.get? slot, ctx.Sound
  overWifi : OnWifi m.network → ∀ slot, m.lastInfo slot ≠ some (.available true)

/-- In the beginning nothing is remembered that could be out of date. -/
theorem coherent_fresh : fresh.Coherent where
  sound _ _ known := by cases known
  overWifi _ _ remembered := by cases remembered

/-- Every request to an open monitor but closing keeps what is remembered coherent. -/
theorem Coherent.next {m : AvailabilityMonitor} (coherent : m.Coherent) (config : ConfigSource)
    (live : Liveness) (isOpen : m.isClosed = false) {op : Op} (notClose : op ≠ .close) :
    (m.next config live op).Coherent := by
  refine ⟨fun slot => ?_, fun onWifi slot => ?_⟩
  · rw [contexts_step config live isOpen]
    exact SlotAct.sound_apply (m.plain_slotAct config op slot) live (coherent.sound slot)
  · have after : (m.next config live op).network = networkAfter m.network op :=
      network_next config live isOpen op notClose
    rw [after] at onWifi
    -- a value found under the new network is one over Wi-Fi; one that was kept was kept under the
    -- same network
    rcases lastInfo_next config live isOpen op slot with found | none | ⟨same, network⟩
    · rw [found]
      rcases availability_of_onWifi config (inputsAfter (m.inputsOf slot) slot op) slot onWifi
        with h | h
      · rw [foundBy, h]
        decide
      · rw [foundBy, h]
        decide
    · rw [none]
      exact (Option.some_ne_none _).symm
    · rw [same]
      exact coherent.overWifi (network ▸ onWifi) slot

/-- An open monitor is coherent after every happening, if it was so before. -/
theorem Coherent.happen {s : Scene} {h : Happening} (isOpen : (s.next h).monitor.isClosed = false)
    (before : s.monitor.isClosed = false → s.monitor.Coherent) : (s.next h).monitor.Coherent := by
  cases h with
  | configure source => exact before isOpen
  | ask live op =>
    obtain ⟨wasOpen, notClose⟩ := open_before s.config live op isOpen
    exact (before wasOpen).next s.config live wasOpen notClose

/-- After every run that leaves the monitor open it is coherent. -/
theorem coherent_after (config : ConfigSource) (run : List Happening)
    (isOpen : ((⟨config, .fresh⟩ : Scene).after run).monitor.isClosed = false) :
    ((⟨config, .fresh⟩ : Scene).after run).monitor.Coherent := by
  induction run using List.reverseRecOn with
  | nil => exact coherent_fresh
  | append_singleton run h ih =>
    rw [Scene.after_concat] at isOpen ⊢
    exact Coherent.happen isOpen ih

end AvailabilityMonitor

end AccessStatus
