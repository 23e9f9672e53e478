import AccessStatus.Proofs.Availability.Edge
import AccessStatus.Proofs.Availability.Forgetting
import AccessStatus.Proofs.Stream.Stillness

/-!
# Repeated input

A slot that is up to date with the configuration is not told anything by an evaluation
(`evaluateSlot_of_upToDateAt`, `evaluateAll_of_upToDate`), and every input leaves those slots up to
date that it evaluates. So the same input again changes nothing and sends nothing (`step_again`):
the first report of a loss leaves no network that could be lost once more, and where it was
announced the value found is remembered all the same. The main statement, `repetitions_absorbed`,
says so for every state that a run leads to and for any number of repetitions.
-/

namespace AccessStatus

/-! ## Reports about the default network -/

/-- The same report again finds what the first has made of the default network, or is ignored. -/
theorem DefaultNetwork.after_again {before next : Option DefaultNetwork} {event : NetworkEvent}
    (first : DefaultNetwork.after before event = some next) :
    DefaultNetwork.after next event = some next ∨ DefaultNetwork.after next event = none := by
  cases event with
  | available id transport subscription | capabilities id transport subscription =>
    obtain rfl := Option.some.inj first
    refine Or.inl ?_
    cases before <;> simp [DefaultNetwork.after, renew]
  | link id addresses =>
    cases before with
    | none => cases first
    | some n =>
      by_cases same : n.id = id
      · obtain rfl : some { n with protocol := .ofAddresses addresses } = next := by
          simpa [DefaultNetwork.after, same] using first
        exact Or.inl (by simp [DefaultNetwork.after, same])
      · simp [DefaultNetwork.after, same] at first
  | lost id =>
    cases before with
    | none => cases first
    | some n =>
      by_cases same : n.id = id
      · obtain rfl : none = next := by simpa [DefaultNetwork.after, same] using first
        exact Or.inr rfl
      · simp [DefaultNetwork.after, same] at first

/-- A default network that stays as it is has lost nothing. -/
theorem classify_self (network : Option DefaultNetwork) : classify network network = .update := by
  cases change : classify network network with
  | update => rfl
  | wifiLost =>
    exact absurd ((classify_eq_wifiLost_iff network network).1 change) (not_wifiGone_self network)
  | ipv6OnlyWifi =>
    exact absurd ((classify_eq_ipv6OnlyWifi_iff network network).1 change)
      (not_ipv4Gone_self network)

/-! ## Evaluations that find nothing new -/

/-- The value that is remembered already is not sent. -/
theorem SlotContext.take_of_current {ctx : SlotContext} {a : Availability}
    (remembered : ctx.gate.current = some a) (live : Liveness) :
    ctx.take live false a = (ctx, []) := by
  rw [ctx.take_eq, if_neg]
  simp [Gate.wouldChange, remembered]

namespace AvailabilityMonitor

section Evaluate

variable {m : AvailabilityMonitor} {config : ConfigSource} (live : Liveness)

/-- An evaluation that finds what was found before tells nobody anything. -/
theorem evaluateContext_of_upToDateAt {slot : SlotIndex} (upToDate : m.UpToDateAt config slot)
    {ctx : SlotContext} (found : m.contexts.get? slot = some ctx) :
    m.evaluateContext config live .update slot ctx = (ctx, []) := by
  unfold evaluateContext
  dsimp only
  rw [raisesEdge_update]
  exact SlotContext.take_of_current (upToDate ctx found) live

/-- So nothing changes for a slot that is up to date. -/
theorem evaluateSlot_of_upToDateAt {slot : SlotIndex} (upToDate : m.UpToDateAt config slot) :
    m.evaluateSlot config live slot = (m, []) := by
  unfold evaluateSlot
  split
  · rfl
  · rename_i ctx found
    dsimp only
    rw [evaluateContext_of_upToDateAt live upToDate found]
    exact Prod.ext (eq_of_parts rfl rfl (Table.set_of_get? found) rfl) rfl

/-- Nor does anything change where all slots are. -/
theorem evaluateAll_of_upToDate (upToDate : m.UpToDate config) :
    m.evaluateAll config live .update = (m, []) := by
  have contexts : (m.evaluateAll config live .update).1.contexts = m.contexts := by
    refine Table.ext_get? fun slot => ?_
    rw [evaluateAll, Table.get?_mapEntries]
    cases found : m.contexts.get? slot with
    | none => rfl
    | some ctx => rw [Option.map_some, evaluateContext_of_upToDateAt live (upToDate slot) found]
  have sent : (m.evaluateAll config live .update).2 = [] := by
    refine List.flatMap_eq_nil_iff.2 fun x stands => ?_
    rw [evaluateContext_of_upToDateAt live (upToDate x.1) (m.contexts.mem_entries_iff.1 stands)]
    rfl
  exact Prod.ext (eq_of_parts rfl rfl contexts rfl) sent

end Evaluate

/-! ## One input twice -/

/-- The request brings something in: a report about the default network or about a slot, or that the
configuration has changed. -/
def Op.IsInput : Op → Prop
  | .network _ | .registered .. | .crossSim .. | .configChanged => True
  | .register .. | .unregister .. | .closeSlot _ | .close => False

section Again

variable (m : AvailabilityMonitor) (config : ConfigSource) (live liveThen : Liveness)

/-- The second report of the same thing about the network finds nothing to do. -/
theorem networkChanged_again (event : NetworkEvent) :
    (m.networkChanged config live event).1.networkChanged config liveThen event =
      ((m.networkChanged config live event).1, []) := by
  cases first : DefaultNetwork.after m.network event with
  | none =>
    have ignored (live : Liveness) : m.networkChanged config live event = (m, []) := by
      rw [networkChanged, first]
    rw [ignored live, ignored liveThen]
  | some next =>
    -- whatever the first report came to, all slots have been evaluated with the network that it
    -- made the default one
    have upToDate :=
      upToDate_evaluateAll { m with network := next } config live (classify m.network next)
    have result : (m.networkChanged config live event).1 =
        ({ m with network := next }.evaluateAll config live (classify m.network next)).1 := by
          rw [networkChanged, first]
    have known : (m.networkChanged config live event).1.network = next := by rw [result]; rfl
    rw [← result] at upToDate
    generalize (m.networkChanged config live event).1 = n at known upToDate ⊢
    rw [networkChanged, known]
    rcases DefaultNetwork.after_again first with again | ignored
    · have same : { n with network := next } = n := eq_of_parts known.symm rfl rfl rfl
      rw [again]
      dsimp only
      rw [classify_self, same]
      exact evaluateAll_of_upToDate liveThen upToDate
    · rw [ignored]

/-- Nor does the second report of the same inputs of a slot. -/
theorem inputChanged_again (slot : SlotIndex) (i : SlotInputs) :
    (m.inputChanged config live slot i).1.inputChanged config liveThen slot i =
      ((m.inputChanged config live slot i).1, []) := by
  have upToDate : (m.inputChanged config live slot i).1.UpToDateAt config slot :=
    upToDateAt_evaluateSlot _ config live slot
  have known : (m.inputChanged config live slot i).1.inputs.get? slot = some i := by
    rw [inputChanged, inputs_evaluateSlot, Table.get?_set_self]
  generalize (m.inputChanged config live slot i).1 = n at known upToDate ⊢
  have same : { n with inputs := n.inputs.set slot i } = n :=
    eq_of_parts rfl (Table.set_of_get? known) rfl rfl
  rw [inputChanged, same]
  exact evaluateSlot_of_upToDateAt liveThen upToDate

/-- What is reported about a slot is what is known of it afterwards. -/
theorem inputsOf_inputChanged (slot : SlotIndex) (i : SlotInputs) :
    (m.inputChanged config live slot i).1.inputsOf slot = i := by
  rw [inputChanged, inputsOf, inputs_evaluateSlot, Table.get?_set_self]
  rfl

/-- The same input again changes nothing and sends nothing, whoever has died since. -/
theorem step_again {op : Op} (isInput : op.IsInput) :
    (m.next config live op).step config liveThen op = ⟨m.next config live op, .done, []⟩ := by
  cases closed : m.isClosed with
  | true =>
    have ignored (live : Liveness) : m.step config live op = ⟨m, .done, []⟩ := by
      cases op <;> first | exact if_pos closed | cases isInput
    rw [next, ignored live, ignored liveThen]
  | false =>
    have stillOpen : (m.next config live op).isClosed = false :=
      isOpen_next config live closed (by rintro rfl; exact isInput)
    have absorbed (change : AvailabilityMonitor →
      AvailabilityMonitor × List (Delivery (SlotIndex × Availability)))
        (again : change (m.next config live op) = (m.next config live op, [])) :
        (m.next config live op).unlessClosed (change (m.next config live op)) =
          ⟨m.next config live op, .done, []⟩ := by
      rw [unlessClosed_of_open stillOpen, again]
    -- what is reported again is found where the first report has put it
    cases op with
    | network event =>
      refine absorbed (fun n => n.networkChanged config liveThen event) ?_
      rw [next_network config live closed]
      exact m.networkChanged_again config live liveThen event
    | registered slot yes =>
      refine absorbed (fun n => n.inputChanged config liveThen slot
        { n.inputsOf slot with registered := yes }) ?_
      rw [next_registered config live closed, inputsOf_inputChanged]
      exact m.inputChanged_again config live liveThen slot _
    | crossSim slot enabled =>
      refine absorbed (fun n => n.inputChanged config liveThen slot
        { n.inputsOf slot with crossSim := some enabled }) ?_
      rw [next_crossSim config live closed, inputsOf_inputChanged]
      exact m.inputChanged_again config live liveThen slot _
    | configChanged =>
      refine absorbed (fun n => n.evaluateAll config liveThen .update) ?_
      exact evaluateAll_of_upToDate liveThen (upToDate_next_configChanged config live closed)
    | register slot c tag => exact isInput.elim
    | unregister slot c => exact isInput.elim
    | closeSlot slot => exact isInput.elim
    | close => exact isInput.elim

end Again

/-! ## Any number of repetitions -/

/-- Nothing happens but that an input is repeated, any number of times, and that consumers come,
take and die. -/
def Repeats (op : Op) (later : List (World.Act Query)) : Prop :=
  ∀ act ∈ later, act = .ask (.ask op) ∨ ∃ e, act = .happen e

section Repeats

variable {w : World Scene (SlotIndex × Availability)} {op : Op}

/-- The scene has taken the input in: asked for it again, it stays as it is and sends nothing,
whoever is live then. -/
def Scene.HasTaken (s : Scene) (op : Op) : Prop := ∀ live, serve s live (.ask op) = (s, [])

/-- A monitor has taken an input when it was told. -/
theorem hasTaken_next (isInput : op.IsInput) :
    (w.next serve (.ask (.ask op))).state.HasTaken op := by
  intro live
  have again := w.state.monitor.step_again w.state.config w.room.live live isInput
  show (Scene.mk w.state.config
      ((w.state.monitor.next w.state.config w.room.live op).step w.state.config live op).monitor,
      ((w.state.monitor.next w.state.config w.room.live op).step w.state.config live op).sent) = _
  rw [again]
  rfl

/-- While nothing but that input comes, the monitor stays as it is and is silent. -/
theorem Scene.HasTaken.absorbs (taken : w.state.HasTaken op) {later : List (World.Act Query)}
    (repeats : Repeats op later) :
    (w.after serve later).state = w.state ∧ w.sent serve later = [] := by
  have ignored : serve.Ignores id w.state (.ask op) := by
    rintro s live rfl
    exact ⟨congrArg Prod.fst (taken live), congrArg Prod.snd (taken live)⟩
  have still : World.Still serve id w later := by
    refine World.still_of_ignores fun query asks => ?_
    obtain ⟨act, there, found⟩ := List.mem_filterMap.1 asks
    rcases repeats act there with rfl | ⟨e, rfl⟩
    · obtain rfl : .ask op = query := Option.some.inj found
      exact ignored
    · cases found
  exact ⟨still.state, still.sent⟩

end Repeats

/-- In every state that a run leads to, whatever the configuration answered in it, an input is taken
in at once. The same input right after it leaves the monitor and all mailboxes exactly as they are.
Nor does any number of repetitions while consumers come and go change the monitor or send
anything. -/
theorem repetitions_absorbed (config : ConfigSource) (room : Mailroom (SlotIndex × Availability))
    (run : List (World.Act Query)) {op : Op} (isInput : op.IsInput) :
    let first := ((beginning config room).after serve run).next serve (.ask (.ask op))
    (first.next serve (.ask (.ask op)) = first ∧ first.sentBy serve (.ask (.ask op)) = []) ∧
      ∀ later, Repeats op later → (first.after serve later).state = first.state ∧
        first.sent serve later = [] := by
  intro first
  have taken : first.state.HasTaken op := hasTaken_next isInput
  refine ⟨⟨?_, congrArg Prod.snd (taken first.room.live)⟩,
    fun later repeats => taken.absorbs repeats⟩
  show World.mk (serve first.state first.room.live (.ask op)).1
    (first.room.deliverAll (serve first.state first.room.live (.ask op)).2) = first
  rw [taken first.room.live]
  rfl

/-- Two consumers of a slot on a Wi-Fi network with version 4, where version 6 alone is blocked. -/
def blockedWifi : List (World.Act Query) :=
  [.ask (.configure ⟨none, fun _ => none, fun _ => true, fun _ => false⟩),
    .ask (.ask (.network (.available ⟨1⟩ .wifi none))),
    .ask (.ask (.network (.link ⟨1⟩ [.v4 192 168 0 2]))),
    .ask (.ask (.registered ⟨0⟩ true)),
    .ask (.ask (.register ⟨0⟩ ⟨0⟩ ⟨5⟩)), .ask (.ask (.register ⟨0⟩ ⟨1⟩ ⟨6⟩))]

/-- The loss of version 4 is announced to both once, though it is reported three times and one of
them dies in between. -/
theorem repetitions_absorbed_blockedWifi :
    let first :=
      (twoSubscribers.after serve blockedWifi).next serve (.ask (.ask (.network (.link ⟨1⟩ []))))
    let later : List (World.Act Query) :=
      [.ask (.ask (.network (.link ⟨1⟩ []))), .happen (.detach ⟨1⟩),
        .ask (.ask (.network (.link ⟨1⟩ [])))]
    Op.IsInput (.network (.link ⟨1⟩ [])) ∧ Repeats (.network (.link ⟨1⟩ [])) later ∧
      (twoSubscribers.after serve blockedWifi).sentBy serve
        (.ask (.ask (.network (.link ⟨1⟩ [])))) =
        [⟨⟨0⟩, ⟨⟨5⟩, none, (⟨0⟩, Availability.unavailable.withDisabledEdge), none⟩⟩,
          ⟨⟨1⟩, ⟨⟨6⟩, none, (⟨0⟩, Availability.unavailable.withDisabledEdge), none⟩⟩] ∧
      first.next serve (.ask (.ask (.network (.link ⟨1⟩ [])))) = first ∧
      (first.after serve later).state = first.state ∧ first.sent serve later = [] := by
  intro first later
  have repeats : Repeats (.network (.link ⟨1⟩ [])) later := by simp [Repeats, later]
  obtain ⟨⟨again, -⟩, absorbs⟩ :=
    repetitions_absorbed ⟨none, fun _ => none, fun _ => false, fun _ => false⟩
    Mailroom.empty.openBox.openBox blockedWifi
      (show Op.IsInput (.network (.link ⟨1⟩ [])) from trivial)
  exact ⟨trivial, repeats, by decide, again, absorbs later repeats⟩

end AvailabilityMonitor

end AccessStatus
