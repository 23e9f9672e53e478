import AccessStatus.Proofs.Availability.Run

/-!
# The value told last and its history

What an open monitor holds of a slot, the default network and the slot's inputs, is at any moment
what the history of the requests says. The value told last is a cache on top of it: it is the
formula's value for the configuration in force, provided that every change of the configuration has
been announced. The main statement, `lastInfo_eq_availabilityBy`, says so for every run and every
slot with a context.
-/

namespace AccessStatus

namespace AvailabilityMonitor

/-! ## The formula over the history -/

/-- The default network by the history of the requests. -/
def networkBy (ops : List Op) : Option DefaultNetwork :=
  defaultNetwork (ops.filterMap Op.networkEvent?)

/-- What is known of a slot by the history: its registration reported last and its last switch of
cross-SIM calling, both since the slot was last closed. -/
def inputsBy (ops : List Op) (slot : SlotIndex) : SlotInputs where
  registered := (latest (Op.registration? slot) (since (Op.closes slot) ops)).getD false
  crossSim := latest (Op.toggle? slot) (since (Op.closes slot) ops)

/-- A slot may use the connection of another subscription: its own is not the one for default
data. -/
def mayBorrow (config : ConfigSource) (slot : SlotIndex) (other : SubscriptionId) : Bool :=
  (config.subscription slot).any fun own => config.defaultData ≠ some own && other ≠ own

/-- The availability of a slot by the history and the configuration in force. -/
def availabilityBy (config : ConfigSource) (ops : List Op) (slot : SlotIndex) : Availability :=
  let registered := (inputsBy ops slot).registered
  let crossSim := (inputsBy ops slot).crossSim.getD (config.crossSimCalling slot)
  match networkBy ops with
  | some ⟨_, .wifi, _, protocol⟩ =>
    if registered ∧ ¬ (config.blockIpv6OnlyWifi slot ∧
      (protocol = .unknown ∨ protocol = .ipv6)) then
      .available false
    else .unavailable
  | some ⟨_, .cellular, some other, _⟩ =>
    if crossSim ∧ registered ∧ mayBorrow config slot other then .available true else .unavailable
  | _ => .unavailable

/-- The formula is the availability of the slot for what the history says of the network and the
slot. -/
theorem availability_eq_availabilityBy (config : ConfigSource) (ops : List Op) (slot : SlotIndex) :
    availability config (networkBy ops) (inputsBy ops slot) slot =
      availabilityBy config ops slot := by
  unfold availabilityBy
  cases networkBy ops with
  | none => simp [availability, withoutWifi, crossSimPathUp]
  | some n =>
    obtain ⟨id, transport, subscription, protocol⟩ := n
    cases transport with
    | wifi =>
      cases protocol <;>
        simp [availability, DefaultNetwork.isWifi, overWifi, LinkProtocol.lacksIpv4]
    | cellular =>
      cases subscription with
      | none => cases own : config.subscription slot <;>
          simp [availability, DefaultNetwork.isWifi, withoutWifi, crossSimPathUp, own]
      | some other => cases own : config.subscription slot <;>
          simp [availability, DefaultNetwork.isWifi, withoutWifi, crossSimPathUp, own, mayBorrow,
            and_assoc]
    | other => cases own : config.subscription slot <;>
          simp [availability, DefaultNetwork.isWifi, withoutWifi, crossSimPathUp, own]

/-! ## What the monitor holds -/

/-- One more request moves the default network as its report says. -/
theorem networkBy_concat (ops : List Op) (op : Op) :
    networkBy (ops ++ [op]) =
      (op.networkEvent?.bind (DefaultNetwork.after (networkBy ops))).getD (networkBy ops) := by
  unfold networkBy
  cases event : op.networkEvent? with
  | none => simp [event]
  | some e => simp [event, defaultNetwork_concat]

/-- One more request changes the inputs of a slot as it reports them. -/
theorem inputsBy_concat (ops : List Op) (op : Op) (slot : SlotIndex) :
    inputsBy (ops ++ [op]) slot = inputsAfter (inputsBy ops slot) slot op := by
  unfold inputsBy inputsAfter
  rw [since_concat]
  split
  · rfl
  · rw [latest_concat, latest_concat, Option.getD_or]

/-- After a run the monitor holds what the history of the requests says. -/
theorem holds_history (config : ConfigSource) (run : List Happening)
    (isOpen : ((⟨config, .fresh⟩ : Scene).after run).monitor.isClosed = false) :
    ((⟨config, .fresh⟩ : Scene).after run).monitor.network = networkBy (requests run) ∧
      ∀ slot, ((⟨config, .fresh⟩ : Scene).after run).monitor.inputsOf slot =
        inputsBy (requests run) slot := by
  induction run using List.reverseRecOn with
  | nil => exact ⟨rfl, fun slot => rfl⟩
  | append_singleton run h ih =>
    rw [Scene.after_concat] at isOpen ⊢
    rw [requests_concat]
    cases h with
    | configure source =>
      rw [Happening.request?, Option.toList_none, List.append_nil]
      exact ih isOpen
    | ask live op =>
      obtain ⟨before, notClose⟩ := open_before _ live op isOpen
      obtain ⟨network, inputs⟩ := ih before
      refine ⟨?_, fun slot => ?_⟩
      · show (next _ _ live op).network = networkBy (_ ++ [op])
        rw [network_next _ live before op notClose, network, networkBy_concat]
      · show (next _ _ live op).inputsOf slot = inputsBy (_ ++ [op]) slot
        rw [inputsOf_next _ live before op notClose, inputs, inputsBy_concat]

/-! ## Announced changes -/

/-- Every change of what the configuration answers is followed by a request to evaluate. -/
def Announced (run : List Happening) : Prop :=
  ∀ before source later, run = before ++ .configure source :: later →
    ∃ live, .ask live .configChanged ∈ later

theorem not_announced_concat_configure (run : List Happening) (source : ConfigSource) :
    ¬ Announced (run ++ [.configure source]) := by
  intro announced
  obtain ⟨live, later⟩ := announced run source [] rfl
  exact List.not_mem_nil later

/-- What is announced in the end, but not by the last request, was announced before it. -/
theorem Announced.of_concat {run : List Happening} {live : Liveness} {op : Op}
    (announced : Announced (run ++ [.ask live op])) (other : op ≠ .configChanged) :
    Announced run := by
  rintro before source later rfl
  obtain ⟨atLive, later'⟩ := announced before source (later ++ [.ask live op]) (by simp)
  rcases List.mem_append.1 later' with old | new
  · exact ⟨atLive, old⟩
  · cases List.mem_singleton.1 new
    exact absurd rfl other

/-- After a run with all changes announced the monitor is up to date. -/
theorem upToDate_after (config : ConfigSource) (run : List Happening)
    (isOpen : ((⟨config, .fresh⟩ : Scene).after run).monitor.isClosed = false)
    (announced : Announced run) :
    ((⟨config, .fresh⟩ : Scene).after run).monitor.UpToDate
      ((⟨config, .fresh⟩ : Scene).after run).config := by
  induction run using List.reverseRecOn with
  | nil =>
    intro slot c found
    cases found
  | append_singleton run h ih =>
    rw [Scene.after_concat] at isOpen ⊢
    cases h with
    -- the run does not end with a change, which would not be announced
    | configure source => exact absurd announced (not_announced_concat_configure run source)
    | ask live op =>
      obtain ⟨before, notClose⟩ := open_before _ live op isOpen
      by_cases evaluates : op = .configChanged
      · subst evaluates
        exact upToDate_next_configChanged _ live before
      · exact (ih before (announced.of_concat evaluates)).next live before op notClose

/-- After every run that leaves the monitor open and announces every change of the configuration,
the value told last about a slot with a context is the formula over the history. -/
theorem lastInfo_eq_availabilityBy (config : ConfigSource) (run : List Happening)
    (isOpen : ((⟨config, .fresh⟩ : Scene).after run).monitor.isClosed = false)
    (announced : Announced run) (slot : SlotIndex)
    (hasContext : (((⟨config, .fresh⟩ : Scene).after run).monitor.contexts.get? slot).isSome) :
    ((⟨config, .fresh⟩ : Scene).after run).monitor.lastInfo slot =
      some (availabilityBy ((⟨config, .fresh⟩ : Scene).after run).config (requests run) slot) := by
  obtain ⟨network, inputs⟩ := holds_history config run isOpen
  have upToDate := upToDate_after config run isOpen announced
  obtain ⟨c, found⟩ := Option.isSome_iff_exists.1 hasContext
  rw [lastInfo, found, Option.bind_some, upToDate slot c found, compute, network, inputs,
    availability_eq_availabilityBy]

/-- A registered slot on Wi-Fi; its carrier begins to block version 6, after which version 4 comes
up and the network is reported as changed. -/
def blockedUntilIpv4 : List Happening :=
  [.ask (fun _ => true) (.register ⟨0⟩ ⟨0⟩ ⟨5⟩),
    .ask (fun _ => true) (.network (.available ⟨1⟩ .wifi none)),
    .ask (fun _ => true) (.registered ⟨0⟩ true),
    .configure ⟨none, fun _ => none, fun _ => true, fun _ => false⟩,
    .ask (fun _ => true) .configChanged,
    .ask (fun _ => true) (.network (.link ⟨1⟩ [.v4 192 168 0 2])),
    .ask (fun _ => true) (.network (.capabilities ⟨1⟩ .wifi none))]

/-- In this run every change of the configuration is announced. -/
theorem announced_blockedUntilIpv4 : Announced blockedUntilIpv4 := by
  intro before source later whole
  simp [blockedUntilIpv4, List.cons_eq_append_iff] at whole
  exact ⟨fun _ => true, by simp [whole]⟩

/-- The scene after that run. -/
def blockedScene : Scene :=
      (⟨⟨none, fun _ => none, fun _ => false, fun _ => false⟩, .fresh⟩ : Scene).after
        blockedUntilIpv4

/-- The slot is available once the network has version 4, and the formula says so. -/
theorem lastInfo_blockedUntilIpv4 :
    blockedScene.monitor.isClosed = false ∧ Announced blockedUntilIpv4 ∧
      (blockedScene.monitor.contexts.get? ⟨0⟩).isSome ∧
      blockedScene.monitor.lastInfo ⟨0⟩ =
        some (availabilityBy blockedScene.config (requests blockedUntilIpv4) ⟨0⟩) ∧
      availabilityBy blockedScene.config (requests blockedUntilIpv4) ⟨0⟩ = .available false :=
  ⟨by decide, announced_blockedUntilIpv4, by decide,
    lastInfo_eq_availabilityBy _ blockedUntilIpv4 (by decide) announced_blockedUntilIpv4 ⟨0⟩
      (by decide), by decide⟩

end AvailabilityMonitor

end AccessStatus
