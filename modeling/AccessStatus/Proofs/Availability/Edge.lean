import AccessStatus.Proofs.Availability.Coherence
import AccessStatus.Proofs.Network.Families

/-!
# Announced losses

A loss is announced when Wi-Fi is gone, and when it stayed but lost version 4 and the carrier blocks
version 6 alone; in either case only for a slot that is not available after it. The slot may be
available all the same after Wi-Fi is gone, over another subscription's connection. Then its
subscribers are told that, since the value remembered while there was Wi-Fi was another
(`Coherent.overWifi`); so all subscribers of all slots are told once whenever Wi-Fi is gone.
-/

namespace AccessStatus

/-! ## Changes of the default network -/

/-- Wi-Fi was the default network and is not any more. -/
def WifiGone (before next : Option DefaultNetwork) : Prop := OnWifi before ∧ ¬ OnWifi next

/-- The default network is the same Wi-Fi network as before, where version 4 is not usable any
more. -/
def Ipv4Gone (before next : Option DefaultNetwork) : Prop :=
  ∃ old new, before = some old ∧ next = some new ∧ old.transport = .wifi ∧ new.transport = .wifi ∧
    old.id = new.id ∧
    old.protocol.HasIpv4 ∧ ¬ new.protocol.HasIpv4

theorem not_wifiGone_self (network : Option DefaultNetwork) : ¬ WifiGone network network :=
  fun gone => gone.2 gone.1

theorem not_ipv4Gone_self (network : Option DefaultNetwork) : ¬ Ipv4Gone network network := by
  rintro ⟨old, new, rfl, same, -, -, -, had, lacks⟩
  obtain rfl := Option.some.inj same
  exact lacks had

/-- A network that is known is Wi-Fi or not by its transport alone. -/
theorem onWifi_some_iff (n : DefaultNetwork) : OnWifi (some n) ↔ n.isWifi = true := by
  constructor
  · rintro ⟨k, same, wifi⟩
    obtain rfl := Option.some.inj same
    exact decide_eq_true wifi
  · exact fun wifi => ⟨n, rfl, of_decide_eq_true wifi⟩

theorem not_onWifi_none : ¬ OnWifi none := fun ⟨_, missing, _⟩ => nomatch missing

/-- A change of the default network counts as the loss of Wi-Fi exactly if Wi-Fi is gone. -/
theorem classify_eq_wifiLost_iff (before next : Option DefaultNetwork) :
    classify before next = .wifiLost ↔ WifiGone before next := by
  unfold WifiGone classify
  cases before with
  | none => simp [not_onWifi_none]
  | some old =>
    by_cases wasWifi : old.isWifi = true
    · cases next with
      | none => simp [onWifi_some_iff, not_onWifi_none, wasWifi]
      | some new =>
        by_cases isWifi : new.isWifi = true
        · -- either way the network stayed on Wi-Fi
          simp only [onWifi_some_iff, wasWifi, isWifi, Bool.not_true, Bool.false_eq_true, if_false]
          split <;> simp
        · simp [onWifi_some_iff, wasWifi, isWifi]
    · simp [onWifi_some_iff, wasWifi]

/-- It counts as the loss of version 4 exactly if that is gone on the same Wi-Fi network. -/
theorem classify_eq_ipv6OnlyWifi_iff (before next : Option DefaultNetwork) :
    classify before next = .ipv6OnlyWifi ↔ Ipv4Gone before next := by
  unfold Ipv4Gone classify
  cases before with
  | none => simp
  | some old =>
    by_cases wasWifi : old.transport = .wifi
    · cases next with
      | none => simp [DefaultNetwork.isWifi, wasWifi]
      | some new =>
        by_cases isWifi : new.transport = .wifi
        · simp [DefaultNetwork.isWifi, wasWifi, isWifi, ← LinkProtocol.lacksIpv4_eq_false_iff,
            and_assoc]
        · simp [DefaultNetwork.isWifi, wasWifi, isWifi]
    · simp [DefaultNetwork.isWifi, wasWifi]

/-- A loss is announced of what is not available, after Wi-Fi is gone or lost version 4 where
version 6 alone is blocked. -/
theorem raisesEdge_iff (config : ConfigSource) (before next : Option DefaultNetwork)
    (slot : SlotIndex) (a : Availability) :
    raisesEdge config (classify before next) slot a = true ↔
      (WifiGone before next ∨ Ipv4Gone before next ∧ config.blockIpv6OnlyWifi slot = true) ∧
        a.isAvailable = false := by
  rw [← classify_eq_wifiLost_iff, ← classify_eq_ipv6OnlyWifi_iff]
  unfold raisesEdge
  cases classify before next <;> simp [and_comm]

namespace AvailabilityMonitor

/-! ## What is announced -/

/-- The request is a report after which Wi-Fi is gone, or has lost version 4 where version 6 alone
is blocked for the slot, and the slot is not available after it. -/
def Loses (m : AvailabilityMonitor) (config : ConfigSource) (live : Liveness) (op : Op)
    (slot : SlotIndex) : Prop :=
  (∃ event, op = .network event) ∧
    (WifiGone m.network (m.next config live op).network ∨
      Ipv4Gone m.network (m.next config live op).network ∧ config.blockIpv6OnlyWifi slot = true) ∧
    ((m.next config live op).compute config slot).isAvailable = false

/-- What consumers can rely on when a request is made to a monitor. -/
structure AnnouncesLosses (m : AvailabilityMonitor) (config : ConfigSource) (live : Liveness)
    (op : Op) : Prop where
  /-- A loss is announced to the live subscribers of a slot that loses, and to nobody else. -/
  edge : ∀ slot c,
    (∃ n ∈ received c (about slot (m.step config live op).sent), n.value.notifyDisabled = true) ↔
      live c = true ∧ m.Subscribed slot c ∧ m.Loses config live op slot
  /-- When Wi-Fi is gone, every live subscriber of every slot is told once about the slot, changed
  or not: what it is now, as the announcement of a loss if it is not available. -/
  wifiGone : (∃ event, op = .network event) → WifiGone m.network (m.next config live op).network →
    ∀ slot c, live c = true → m.Subscribed slot c →
      ∃ n, received c (about slot (m.step config live op).sent) = [n] ∧
        n.value = if ((m.next config live op).compute config slot).isAvailable
          then (m.next config live op).compute config slot
          else ((m.next config live op).compute config slot).withDisabledEdge

/-- What is found for a slot when Wi-Fi is gone is always sent. -/
theorem Coherent.sends {m : AvailabilityMonitor} (coherent : m.Coherent) (config : ConfigSource)
    {next : Option DefaultNetwork} (gone : WifiGone m.network next) {slot : SlotIndex}
    {ctx : SlotContext} (known : m.contexts.get? slot = some ctx) (i : SlotInputs) :
    (raisesEdge config (classify m.network next) slot (availability config next i slot) ||
      ctx.gate.wouldChange (availability config next i slot)) = true := by
  rcases availability_of_not_onWifi config i slot gone.2 with lost | borrowed
  · have edge := (raisesEdge_iff config m.network next slot .unavailable).2 ⟨Or.inl gone, rfl⟩
    rw [lost, edge, Bool.true_or]
  · -- such a value was not remembered while there was Wi-Fi
    have changes : ctx.gate.wouldChange (.available true) = true := by
      by_contra refused
      have same := ctx.gate.current_eq_of_not_wouldChange (Bool.eq_false_of_not_eq_true refused)
      refine coherent.overWifi gone.1 slot ?_
      rw [lastInfo, known, Option.bind_some, same]
    rw [borrowed, changes, Bool.or_true]

/-- When Wi-Fi is gone, the losses announced are those of the slots that are not available. -/
theorem raisesEdge_of_wifiGone (config : ConfigSource) {before next : Option DefaultNetwork}
    (gone : WifiGone before next) (slot : SlotIndex) (a : Availability) :
    raisesEdge config (classify before next) slot a = !a.isAvailable := by
  rw [(classify_eq_wifiLost_iff before next).2 gone]
  exact Bool.and_true _

section Request

variable {m : AvailabilityMonitor} (config : ConfigSource) (live : Liveness)
  (isOpen : m.isClosed = false)

include isOpen

/-- A report moves the default network, if it moves anything. -/
theorem network_next_report (event : NetworkEvent) :
    (m.next config live (.network event)).network =
      (DefaultNetwork.after m.network event).getD m.network :=
  network_next config live isOpen (.network event) Op.noConfusion

/-- A slot is evaluated with an announcement exactly if it loses what the announcement is about. -/
theorem slotAct_eq_find_true_iff (op : Op) (slot : SlotIndex) :
    (∃ a, m.slotAct config op slot = .find true a) ↔ m.Loses config live op slot := by
  unfold Loses slotAct
  cases op with
  | network event =>
    rw [network_next_report config live isOpen, compute_next config live isOpen Op.noConfusion]
    dsimp only
    cases DefaultNetwork.after m.network event with
    | none => simp [not_wifiGone_self, not_ipv4Gone_self]
    | some next => simp [raisesEdge_iff]
  | registered j yes | crossSim j enabled | register j c tag | unregister j c | closeSlot j =>
    dsimp only
    split <;> simp
  | configChanged | close => simp

/-- In a coherent monitor every request announces what it should, and nothing else. -/
theorem announcesLosses (coherent : m.Coherent) (op : Op) : m.AnnouncesLosses config live op := by
  refine ⟨fun slot c => ?_, ?_⟩
  · rw [about_step config live isOpen,
      SlotAct.edge_iff (m.plain_slotAct config op slot) live (coherent.sound slot),
      slotAct_eq_find_true_iff config live isOpen]
    rfl
  · rintro ⟨event, rfl⟩ gone slot c alive ⟨ctx, known, registered⟩
    rw [network_next_report config live isOpen] at gone
    cases after : DefaultNetwork.after m.network event with
    | none =>
      rw [after] at gone
      exact absurd gone (not_wifiGone_self m.network)
    | some next =>
      rw [after, Option.getD_some] at gone
      have acts := m.slotAct_report config after slot
      have sends := coherent.sends config gone known (m.inputsOf slot)
      have plain := m.plain_slotAct config (.network event) slot
      rw [acts] at plain
      obtain ⟨n, value, told⟩ :=
        SlotAct.told_find (coherent.sound slot ctx known) plain alive registered sends
      refine ⟨n, ?_, ?_⟩
      · rw [about_step config live isOpen, acts, known, told.received]
      · rw [compute_next config live isOpen Op.noConfusion, m.foundBy_report config after, value,
          raisesEdge_of_wifiGone config gone]
        cases (availability config next (m.inputsOf slot) slot).isAvailable <;> rfl

end Request

/-- After every run that leaves the monitor open, whatever the configuration answered in it, the
next request announces a loss exactly where there is one, and all subscribers are told when Wi-Fi is
gone. -/
theorem losses_announced (config : ConfigSource) (run : List Happening)
    (isOpen : ((⟨config, .fresh⟩ : Scene).after run).monitor.isClosed = false) (live : Liveness)
    (op : Op) :
    ((⟨config, .fresh⟩ : Scene).after run).monitor.AnnouncesLosses
      ((⟨config, .fresh⟩ : Scene).after run).config live op :=
  announcesLosses _ live isOpen (coherent_after config run isOpen) op

/-- Slot 0 is available over Wi-Fi and slot 1 is not; then the configuration lets slots use other
subscriptions, which nobody is told. -/
def borrowingUnannounced : List Happening :=
  [.ask (fun _ => true) (.register ⟨0⟩ ⟨0⟩ ⟨5⟩),
    .ask (fun _ => true) (.register ⟨1⟩ ⟨1⟩ ⟨6⟩),
    .ask (fun _ => true) (.registered ⟨0⟩ true),
    .ask (fun _ => true) (.network (.available ⟨1⟩ .wifi none)),
    .configure ⟨some ⟨1⟩, fun slot => if slot = ⟨0⟩ then some ⟨2⟩ else some ⟨1⟩, fun _ => false,
      fun _ => true⟩]

/-- The scene after that run. -/
def borrowingScene : Scene :=
  (⟨⟨none, fun _ => none, fun _ => false, fun _ => false⟩, .fresh⟩ : Scene).after
    borrowingUnannounced

/-- A cellular network replaces Wi-Fi: slot 0 is told to be available over it, and a loss is
announced of slot 1. -/
theorem losses_announced_borrowing :
    borrowingScene.monitor.isClosed = false ∧
      borrowingScene.monitor.AnnouncesLosses borrowingScene.config (fun _ => true)
        (.network (.available ⟨2⟩ .cellular (some ⟨1⟩))) ∧
      (borrowingScene.monitor.step borrowingScene.config (fun _ => true)
        (.network (.available ⟨2⟩ .cellular (some ⟨1⟩)))).sent =
        [⟨⟨0⟩, ⟨⟨5⟩, none, (⟨0⟩, .available true), none⟩⟩,
          ⟨⟨1⟩, ⟨⟨6⟩, none, (⟨1⟩, Availability.unavailable.withDisabledEdge), none⟩⟩] :=
  ⟨by decide, losses_announced _ borrowingUnannounced (by decide) (fun _ => true) _, by decide⟩

end AvailabilityMonitor

end AccessStatus
