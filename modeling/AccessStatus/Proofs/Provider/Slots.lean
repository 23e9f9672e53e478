import AccessStatus.Proofs.Provider.Housing
import AccessStatus.Proofs.Table

/-!
# The slots of a directory apart

A request is about one slot or about none, and asks at most one thing of the monitor that all slots
share (`Directory.asks`). Two directories that agree on a slot, on the options and on the
configuration go on agreeing when they are asked the same, and set off the same for the slot
(`SameAt.step`); a request about another slot leaves a directory as it is there and sets off nothing
for it (`sameAt_step_of_other`).
-/

namespace AccessStatus

/-! ## What is set off for one slot -/

namespace Effects

/-- The thresholds pushed for a slot. -/
def pushedFor (slot : SlotIndex) (e : Effects) : List ThresholdPush :=
  e.pushed.filter fun push => push.slot = slot

/-- The requests to the source of registration status for a slot. -/
def callsFor (slot : SlotIndex) (e : Effects) : List SourceCall :=
  e.calls.filter fun call => call.slot = slot

/-- The same is set off for a slot and for the consumers of that slot. -/
structure SameAt (owner : ConsumerId → SlotIndex) (slot : SlotIndex) (e f : Effects) : Prop where
  sent : ∀ c, owner c = slot → received c e.sent = received c f.sent
  pushed : e.pushedFor slot = f.pushedFor slot
  calls : e.callsFor slot = f.callsFor slot

variable {owner : ConsumerId → SlotIndex} {slot home : SlotIndex} {live : Liveness} {e : Effects}

/-- What concerns another slot is nothing to this one. -/
theorem Keep.sameAt_none (keep : e.Keep live (owner · = home) home) (other : home ≠ slot) :
    SameAt owner slot e none where
  sent c owned := keep.sent.received fun homed => other (homed.2.symm.trans owned)
  pushed := by
    refine List.filter_eq_nil_iff.2 fun push made => ?_
    rw [decide_eq_true_eq, keep.pushed push made]
    exact other
  calls := by
    refine List.filter_eq_nil_iff.2 fun call made => ?_
    rw [decide_eq_true_eq, keep.calls call made]
    exact other

end Effects

namespace AvailabilityMonitor

/-- Consumers of a slot are sent the same by two monitors that know the same of the slot. -/
theorem SameAt.received_eq {owner : ConsumerId → SlotIndex} {slot : SlotIndex}
    {m n : AvailabilityMonitor} (same : SameAt slot m n) (housedM : m.Housed owner)
    (housedN : n.Housed owner) (openM : m.isClosed = false) (openN : n.isClosed = false)
    (config : ConfigSource) (live : Liveness) {op : Op} (notClose : op ≠ .close)
    (own : ∀ j c tag, op = .register j c tag → owner c = j) {c : ConsumerId}
    (owned : owner c = slot) :
    received c (Effects.ofAvailability (m.step config live op).sent).sent =
      received c (Effects.ofAvailability (n.step config live op).sent).sent := by
  have only {sent : List (Delivery (SlotIndex × Availability))} (homes : Homes live owner sent) :
      ∀ d ∈ sent, d.consumer = c → d.notification.value.1 = slot := by
    rintro d there rfl
    exact (homes d there).2.symm.trans owned
  -- all that is sent to the consumer is about the slot, and about the slot the same is sent
  have alike := (same.step config live openM openN notClose).2
  have told : received c (m.step config live op).sent =
      received c (n.step config live op).sent := by
    rw [received_eq_about (only (housedM.step openM config live own).2),
      received_eq_about (only (housedN.step openN config live own).2), alike]
  show received c ((m.step config live op).sent.map _) =
    received c ((n.step config live op).sent.map _)
  rw [received_map, received_map, told]

end AvailabilityMonitor

namespace Directory

/-! ## What a request is about -/

/-- The slot that a request is about, if it is about one alone. -/
def Op.slot? : Op → Option SlotIndex
  | .provider slot | .closeSlot slot => some slot
  | .ask h _ => some h.slot
  | .availability o => o.slot?
  | .network _ | .configChanged | .flush | .close | .config _ => none

/-- The consumer that a request registers, with the slot for which it does. -/
def Op.registers : Op → Option (SlotIndex × ConsumerId)
  | .ask h o => o.registers.map (Prod.mk h.slot)
  | .availability (.register slot c _) => some (slot, c)
  | _ => none

/-- Each consumer is registered for its own slot only. -/
def Op.Own (owner : ConsumerId → SlotIndex) (op : Op) : Prop := ∀ x ∈ op.registers, owner x.2 = x.1

/-- Neither the directory nor the monitor that all slots share is closed. -/
def Op.keepsOpen : Op → Bool
  | .close | .availability .close => false
  | _ => true

/-- What a request makes a directory ask of the shared monitor, if anything. -/
def asks (d : Directory) : Op → Option AvailabilityMonitor.Op
  | .ask h o => (d.find? h).bind (·.asks o)
  | .network event => if d.isClosed then none else some (.network event)
  | .configChanged => if d.isClosed then none else some .configChanged
  | .closeSlot slot => (d.bay slot).current.bind (·.asks .close)
  | .availability o => some o
  | .provider _ | .flush | .close | .config _ => none

/-- What a request sends when the shared monitor is not asked. -/
def aside (d : Directory) (live : Liveness) : Op → List (Delivery Notice)
  | .ask h o => (d.find? h).elim [] fun p => (p.step d.config.source live .fresh o).effects.sent
  | _ => []

/-! ## Consumers of one slot each -/

/-- An open directory in which all that concerns a slot, and all who are registered for it, belong
to the slot. -/
structure Housed (owner : ConsumerId → SlotIndex) (d : Directory) : Prop where
  isOpen : d.isClosed = false
  availabilityOpen : d.availability.isClosed = false
  availability : d.availability.Housed owner
  providers : ∀ slot, ∀ p ∈ (d.bay slot).opened, p.Belongs (owner · = slot) slot

/-- In a directory that was just built everybody is where they belong. -/
theorem housed_build {owner : ConsumerId → SlotIndex} {options : Options} {config : Config}
    {d : Directory} (built : build options config = .ok d) : d.Housed owner := by
  unfold build at built
  split at built
  · cases built
  · obtain rfl := Except.ok.inj built
    exact ⟨rfl, rfl, AvailabilityMonitor.housed_fresh, fun _ _ none => nomatch none⟩

section Step

variable {owner : ConsumerId → SlotIndex} {d : Directory} {op : Op}

/-- What a handle finds belongs to the slot of the handle. -/
theorem Housed.belongs_of_find? (housed : d.Housed owner) {h : Handle} {p : Provider}
    (found : d.find? h = some p) : p.Belongs (owner · = h.slot) h.slot :=
  housed.providers h.slot p (List.mem_of_getElem? found)

/-- The current provider of a slot belongs to that slot. -/
theorem Housed.belongs_of_current (housed : d.Housed owner) {slot : SlotIndex} {p : Provider}
    (current : (d.bay slot).current = some p) : p.Belongs (owner · = slot) slot := by
  refine housed.providers slot p ?_
  unfold Bay.current at current
  split at current
  · exact List.mem_of_getLast? current
  · cases current

/-- What the shared monitor is asked is about the slot that the request is about, and registers whom
the request does. -/
theorem Housed.slot_of_asks (housed : d.Housed owner) (keeps : op.keepsOpen = true)
    {q : AvailabilityMonitor.Op} (asked : d.asks op = some q) :
    q.slot? = op.slot? ∧ q ≠ .close ∧ ∀ slot c tag, q = .register slot c tag →
      op.registers = some (slot, c) := by
  cases op with
  | provider slot => cases asked
  | ask h o =>
    obtain ⟨p, found, asked⟩ := Option.bind_eq_some_iff.1 asked
    obtain ⟨mine, notClose, nobody⟩ := Provider.slot_of_asks asked
    -- the handle finds a provider of its own slot
    rw [(housed.belongs_of_find? found).slot] at mine
    exact ⟨mine, notClose, fun slot c tag same => absurd same (nobody slot c tag)⟩
  | network event =>
    simp only [asks, housed.isOpen] at asked
    obtain rfl := Option.some.inj asked
    exact ⟨rfl, by simp, by simp⟩
  | configChanged =>
    simp only [asks, housed.isOpen] at asked
    obtain rfl := Option.some.inj asked
    exact ⟨rfl, by simp, by simp⟩
  | flush => cases asked
  | closeSlot slot =>
    obtain ⟨p, current, asked⟩ := Option.bind_eq_some_iff.1 asked
    obtain ⟨mine, notClose, nobody⟩ := Provider.slot_of_asks asked
    rw [(housed.belongs_of_current current).slot] at mine
    exact ⟨mine, notClose, fun slot c tag same => absurd same (nobody slot c tag)⟩
  | close => cases asked
  | availability o =>
    obtain rfl := Option.some.inj asked
    refine ⟨rfl, ?_, ?_⟩
    · rintro rfl
      cases keeps
    · rintro slot c tag rfl
      rfl
  | config o => cases asked

variable (d) (live : Liveness)

/-- A change of the bay of one slot leaves the others as they were. -/
theorem bay_set {d' : Directory} {slot : SlotIndex} {b : Bay}
    (changed : d'.bays = d.bays.set slot b) (j : SlotIndex) :
    d'.bay j = if j = slot then b else d.bay j := by
  unfold bay
  rw [changed, Table.get?_set]
  split <;> rfl

/-- A slot has what it was set to. -/
theorem bay_set_self {d' : Directory} {slot : SlotIndex} {b : Bay}
    (changed : d'.bays = d.bays.set slot b) : d'.bay slot = b :=
  (bay_set d changed slot).trans (if_pos rfl)

/-- A request leaves the bays of other slots as they were. -/
theorem bay_step_of_other (keeps : op.keepsOpen = true) {j : SlotIndex}
    (other : op.slot? ≠ some j) :
    (d.step live op).directory.bay j = d.bay j := by
  cases op with
  | provider slot =>
    unfold step provider
    dsimp only
    split
    · rfl
    · split
      · rfl
      · split
        · rfl
        · -- only the bay of the slot asked about is set
          exact (d.bay_set rfl j).trans (if_neg fun same => other (congrArg some same.symm))
  | ask h o =>
    unfold step ask
    dsimp only
    split
    · rfl
    · exact (d.bay_set rfl j).trans (if_neg fun same => other (congrArg some same.symm))
  | closeSlot slot =>
    unfold step closeSlot
    dsimp only
    split
    · rfl
    · exact (d.bay_set rfl j).trans (if_neg fun same => other (congrArg some same.symm))
  | network event | configChanged =>
    unfold step post
    dsimp only
    split <;> rfl
  | flush => rfl
  | close => cases keeps
  | availability o => rfl
  | config o => rfl

/-- What a request changes of the configuration. -/
def Op.config? : Op → Option Config.Op
  | .config o => some o
  | _ => none

/-- The options stay, an open directory stays open, and only a change of the configuration changes
it. -/
theorem frame_step (keeps : op.keepsOpen = true) :
    (d.step live op).directory.options = d.options ∧
      (d.step live op).directory.isClosed = d.isClosed ∧
      (d.step live op).directory.config = op.config?.elim d.config d.config.step := by
  cases op with
  | provider slot =>
    unfold step provider
    dsimp only
    split
    · exact ⟨rfl, rfl, rfl⟩
    · split
      · exact ⟨rfl, rfl, rfl⟩
      · split <;> exact ⟨rfl, rfl, rfl⟩
  | ask h o =>
    unfold step ask
    dsimp only
    split <;> exact ⟨rfl, rfl, rfl⟩
  | closeSlot slot =>
    unfold step closeSlot
    dsimp only
    split <;> exact ⟨rfl, rfl, rfl⟩
  | network event | configChanged =>
    unfold step post
    dsimp only
    split <;> exact ⟨rfl, rfl, rfl⟩
  | flush => exact ⟨rfl, rfl, rfl⟩
  | close => cases keeps
  | availability o => exact ⟨rfl, rfl, rfl⟩
  | config o => exact ⟨rfl, rfl, rfl⟩

variable {d}

/-- The shared monitor changes by what is asked of it, and if something is, all that is sent comes
from there. -/
theorem Housed.shared_step (housed : d.Housed owner) (keeps : op.keepsOpen = true) :
    (d.step live op).directory.availability =
        (d.asks op).elim d.availability (d.availability.next d.config.source live) ∧
      (d.step live op).effects.sent = (d.asks op).elim (d.aside live op) fun q =>
        (Effects.ofAvailability (d.availability.step d.config.source live q).sent).sent := by
  cases op with
  | provider slot =>
    unfold step provider
    dsimp only
    split
    · exact ⟨rfl, rfl⟩
    · split
      · exact ⟨rfl, rfl⟩
      · split <;> exact ⟨rfl, rfl⟩
  | ask h o =>
    unfold step ask asks aside
    dsimp only
    cases d.find? h with
    | none => exact ⟨rfl, rfl⟩
    | some p =>
      dsimp only
      rw [p.step_eq]
      exact ⟨rfl, rfl⟩
  | closeSlot slot =>
    unfold step closeSlot asks aside
    dsimp only
    cases current : (d.bay slot).current with
    | none => exact ⟨rfl, rfl⟩
    | some p =>
      dsimp only [Option.bind_some, Provider.asks]
      -- the provider that is closed has the slot forgotten, if it was still open
      rw [(housed.belongs_of_current current).slot]
      cases p.isClosed <;> exact ⟨rfl, rfl⟩
  | network event | configChanged =>
    unfold step post asks
    dsimp only
    rw [housed.isOpen]
    exact ⟨rfl, rfl⟩
  | flush => exact ⟨rfl, rfl⟩
  | close => cases keeps
  | availability o => exact ⟨rfl, rfl⟩
  | config o => exact ⟨rfl, rfl⟩

/-- What is asked of the shared monitor registers consumers for their own slot only. -/
theorem Housed.own_of_asks (housed : d.Housed owner) (keeps : op.keepsOpen = true)
    (own : op.Own owner) {q : AvailabilityMonitor.Op} (asked : d.asks op = some q) :
    ∀ slot c tag, q = .register slot c tag → owner c = slot :=
  fun slot c tag same => own (slot, c) ((housed.slot_of_asks keeps asked).2.2 slot c tag same)

/-- After a request about a slot all its providers belong to it, and what the request sets off
concerns that slot only. -/
theorem Housed.step_of_slot (housed : d.Housed owner) (own : op.Own owner) {slot : SlotIndex}
    (mine : op.slot? = some slot) :
    (∀ p ∈ ((d.step live op).directory.bay slot).opened, p.Belongs (owner · = slot) slot) ∧
      (d.step live op).effects.Keep live (owner · = slot) slot := by
  have before := housed.providers slot
  cases op with
  | provider j =>
    obtain rfl : j = slot := Option.some.inj mine
    unfold step provider
    dsimp only
    split
    · exact ⟨before, Effects.keep_none⟩
    · split
      · exact ⟨before, Effects.keep_none⟩
      · split
        · exact ⟨before, Effects.keep_none⟩
        · -- the provider that is opened joins those opened before
          refine ⟨?_, Effects.keep_none⟩
          rw [d.bay_set_self rfl]
          intro p opened
          rcases List.mem_append.1 opened with old | new
          · exact before p old
          · obtain rfl := List.mem_singleton.1 new
            exact Provider.belongs_fresh j _
  | ask h o =>
    obtain rfl : h.slot = slot := Option.some.inj mine
    unfold step ask
    dsimp only
    split
    · exact ⟨before, Effects.keep_none⟩
    · rename_i p found
      have registers : ∀ c, o.registers = some c → owner c = h.slot := by
        intro c names
        have asks : Op.registers (.ask h o) = some (h.slot, c) :=
          congrArg (Option.map (Prod.mk h.slot)) names
        exact own (h.slot, c) asks
      obtain ⟨stays, keep⟩ :=
        (housed.belongs_of_find? found).step d.config.source live housed.availability
        housed.availabilityOpen registers
      refine ⟨?_, keep⟩
      rw [d.bay_set_self rfl]
      intro p' opened
      rcases List.mem_or_eq_of_mem_set opened with old | rfl
      · exact before p' old
      · exact stays
  | closeSlot j =>
    obtain rfl : j = slot := Option.some.inj mine
    unfold step closeSlot
    dsimp only
    split
    · exact ⟨before, Effects.keep_none⟩
    · rename_i p current
      obtain ⟨closed, calls⟩ := (housed.belongs_of_current current).closed
      -- what is closed is the provider that is handed out, in its place
      have shut : (d.bay j).close =
        ({ (d.bay j).put ((d.bay j).opened.length - 1) p.closed.1 with isOpen := false },
          p.closed.2) := by
        unfold Bay.close
        rw [current]
      rw [shut]
      refine ⟨?_, Effects.keep_calls calls⟩
      rw [d.bay_set_self rfl]
      intro p' opened
      rcases List.mem_or_eq_of_mem_set opened with old | rfl
      · exact before p' old
      · exact closed
  | network event => cases mine
  | configChanged => cases mine
  | flush => cases mine
  | close => cases mine
  | availability o =>
    refine ⟨before, ?_⟩
    refine Provider.keep_ofAvailability d.config.source live housed.availability
      housed.availabilityOpen mine ?_
    rintro j c tag rfl
    exact own (j, c) rfl
  | config o => cases mine

/-- Each request of a slot's own consumers leaves everybody registered where they belong. -/
theorem Housed.step (housed : d.Housed owner) (keeps : op.keepsOpen = true) (own : op.Own owner) :
    (d.step live op).directory.Housed owner := by
  obtain ⟨shared, -⟩ := housed.shared_step live keeps
  refine ⟨(d.frame_step live keeps).2.1.trans housed.isOpen, ?_, ?_, ?_⟩
  · rw [shared]
    cases asked : d.asks op with
    | none => exact housed.availabilityOpen
    | some q =>
      exact AvailabilityMonitor.isOpen_next d.config.source live housed.availabilityOpen
        (housed.slot_of_asks keeps asked).2.1
  · rw [shared]
    cases asked : d.asks op with
    | none => exact housed.availability
    | some q =>
      exact (housed.availability.step housed.availabilityOpen d.config.source live
        (housed.own_of_asks keeps own asked)).1
  · intro slot
    by_cases mine : op.slot? = some slot
    · exact (housed.step_of_slot live own mine).1
    · rw [d.bay_step_of_other live keeps mine]
      exact housed.providers slot

/-- A request about no slot in particular pushes no thresholds and asks nothing of the source of
registration status. -/
theorem quiet_step (d : Directory) (keeps : op.keepsOpen = true) (general : op.slot? = none) :
    (d.step live op).effects.pushed = [] ∧ (d.step live op).effects.calls = [] := by
  cases op with
  | provider j => cases general
  | ask h o => cases general
  | closeSlot j => cases general
  | network event | configChanged =>
    unfold step post
    dsimp only
    split <;> exact ⟨rfl, rfl⟩
  | flush => exact ⟨rfl, rfl⟩
  | close => cases keeps
  | availability o => exact ⟨rfl, rfl⟩
  | config o => exact ⟨rfl, rfl⟩

end Step

/-! ## One slot in two directories -/

/-- Two directories have the same options and the same configuration, and know the same of a
slot. -/
structure SameAt (slot : SlotIndex) (d e : Directory) : Prop where
  options : d.options = e.options
  config : d.config = e.config
  bay : d.bay slot = e.bay slot
  availability : AvailabilityMonitor.SameAt slot d.availability e.availability

section SameAt

variable {owner : ConsumerId → SlotIndex} {slot : SlotIndex} {d e : Directory} {op : Op}

/-- A directory shows a slot what it shows. -/
theorem SameAt.refl (slot : SlotIndex) (d : Directory) : SameAt slot d d :=
  ⟨rfl, rfl, rfl, .refl slot _⟩

/-- What two directories show a slot may be compared through a third. -/
theorem SameAt.trans {f : Directory} (same : SameAt slot d e) (next : SameAt slot e f) :
    SameAt slot d f where
  options := same.options.trans next.options
  config := same.config.trans next.config
  bay := same.bay.trans next.bay
  availability := same.availability.trans next.availability

/-- The same providers are found through handles of the slot. -/
theorem SameAt.find?_eq (same : SameAt slot d e) {h : Handle} (mine : h.slot = slot) :
    d.find? h = e.find? h := by
  subst mine
  exact congrArg (fun b : Bay => b.opened[h.generation]?) same.bay

/-- A request about the slot, or about none, asks the shared monitors for the same. -/
theorem SameAt.asks_eq (same : SameAt slot d e) (openD : d.isClosed = false)
    (openE : e.isClosed = false) (visible : ∀ j, op.slot? = some j → j = slot) :
    d.asks op = e.asks op := by
  cases op with
  | ask h o =>
    have found := same.find?_eq (visible h.slot rfl)
    exact congrArg (·.bind fun p => p.asks o) found
  | closeSlot j =>
    obtain rfl := visible j rfl
    exact congrArg (fun b : Bay => b.current.bind fun p => p.asks .close) same.bay
  | network event | configChanged =>
    unfold asks
    rw [openD, openE]
  | _ => rfl

/-- Where the shared monitors are not asked, the same is sent. -/
theorem SameAt.aside_eq (same : SameAt slot d e) (live : Liveness)
    (visible : ∀ j, op.slot? = some j → j = slot) :
    d.aside live op = e.aside live op := by
  cases op with
  | ask h o =>
    unfold aside
    dsimp only
    rw [same.find?_eq (visible h.slot rfl), same.config]
  | _ => rfl

/-- A request about the slot has the same answer and makes the same of the slot's providers, of its
thresholds and of its requests to the source. -/
theorem SameAt.step_of_slot (same : SameAt slot d e) (openD : d.isClosed = false)
    (openE : e.isClosed = false) (live : Liveness) (mine : op.slot? = some slot) :
    (d.step live op).answer = (e.step live op).answer ∧
      (d.step live op).directory.bay slot = (e.step live op).directory.bay slot ∧
      (d.step live op).effects.pushed = (e.step live op).effects.pushed ∧
      (d.step live op).effects.calls = (e.step live op).effects.calls := by
  cases op with
  | provider j =>
    obtain rfl : j = slot := Option.some.inj mine
    unfold step provider
    dsimp only
    rw [same.options, openD, openE, same.bay]
    split
    · exact ⟨rfl, same.bay, rfl, rfl⟩
    · split
      · exact ⟨rfl, same.bay, rfl, rfl⟩
      · split
        · exact ⟨rfl, same.bay, rfl, rfl⟩
        · exact ⟨rfl, (d.bay_set_self rfl).trans (e.bay_set_self rfl).symm, rfl, rfl⟩
  | ask h o =>
    obtain rfl : h.slot = slot := Option.some.inj mine
    unfold step ask
    dsimp only
    rw [same.find?_eq rfl, same.config, same.bay]
    cases e.find? h with
    | none => exact ⟨rfl, same.bay, rfl, rfl⟩
    | some p =>
      dsimp only
      -- but for what is sent, the provider does not notice which monitor it shares
      rw [p.step_eq _ _ d.availability, p.step_eq _ _ e.availability]
      exact ⟨rfl, (d.bay_set_self rfl).trans (e.bay_set_self rfl).symm, rfl, rfl⟩
  | closeSlot j =>
    obtain rfl : j = slot := Option.some.inj mine
    unfold step closeSlot
    dsimp only
    rw [same.bay]
    cases (e.bay j).current with
    | none => exact ⟨rfl, same.bay, rfl, rfl⟩
    | some p => exact ⟨rfl, (d.bay_set_self rfl).trans (e.bay_set_self rfl).symm, rfl, rfl⟩
  | availability o =>
    have asksOf : o.slot? = some slot := mine
    have answer := same.availability.answer_eq d.config.source live asksOf
    unfold step onAvailability
    dsimp only
    rw [answer, same.config]
    exact ⟨rfl, same.bay, rfl, rfl⟩
  | network event => cases mine
  | configChanged => cases mine
  | flush => cases mine
  | close => cases mine
  | config o => cases mine

/-- Two directories that agree on a slot go on doing so after a request about it or about none, and
set off the same for it. -/
theorem SameAt.step (same : SameAt slot d e) (housedD : d.Housed owner) (housedE : e.Housed owner)
    (live : Liveness) (keeps : op.keepsOpen = true) (own : op.Own owner)
    (visible : ∀ j, op.slot? = some j → j = slot) :
    SameAt slot (d.step live op).directory (e.step live op).directory ∧
      (d.step live op).effects.SameAt owner slot (e.step live op).effects := by
  obtain ⟨sharedD, sentD⟩ := housedD.shared_step live keeps
  obtain ⟨sharedE, sentE⟩ := housedE.shared_step live keeps
  obtain ⟨optionsD, -, configD⟩ := d.frame_step live keeps
  obtain ⟨optionsE, -, configE⟩ := e.frame_step live keeps
  have asks := same.asks_eq housedD.isOpen housedE.isOpen visible
  -- the slot's own providers, thresholds and requests to the source
  have providers : (d.step live op).directory.bay slot = (e.step live op).directory.bay slot ∧
      (d.step live op).effects.pushed = (e.step live op).effects.pushed ∧
      (d.step live op).effects.calls = (e.step live op).effects.calls := by
    cases about : op.slot? with
    | some j =>
      obtain rfl := visible j about
      exact (same.step_of_slot housedD.isOpen housedE.isOpen live about).2
    | none =>
      have other : op.slot? ≠ some slot := by simp [about]
      obtain ⟨pushedD, callsD⟩ := quiet_step live d keeps about
      obtain ⟨pushedE, callsE⟩ := quiet_step live e keeps about
      rw [d.bay_step_of_other live keeps other, e.bay_step_of_other live keeps other]
      exact ⟨same.bay, pushedD.trans pushedE.symm, callsD.trans callsE.symm⟩
  obtain ⟨bay, pushed, calls⟩ := providers
  refine ⟨⟨?_, ?_, bay, ?_⟩, ⟨?_, ?_, ?_⟩⟩
  · rw [optionsD, optionsE, same.options]
  · rw [configD, configE, same.config]
  · rw [sharedD, sharedE, asks, same.config]
    cases asked : e.asks op with
    | none => exact same.availability
    | some q =>
      exact (same.availability.step e.config.source live housedD.availabilityOpen
        housedE.availabilityOpen
        (housedE.slot_of_asks keeps asked).2.1).1
  · intro c owned
    rw [sentD, sentE, asks, same.config]
    cases asked : e.asks op with
    | none => exact congrArg (received c) (same.aside_eq live visible)
    | some q =>
      exact same.availability.received_eq housedD.availability housedE.availability
        housedD.availabilityOpen
        housedE.availabilityOpen e.config.source live (housedE.slot_of_asks keeps asked).2.1
        (housedE.own_of_asks keeps own asked) owned
  · unfold Effects.pushedFor
    rw [pushed]
  · unfold Effects.callsFor
    rw [calls]

/-- A request about another slot leaves a directory as it is at this one, and sets off nothing for
it. -/
theorem sameAt_step_of_other (housed : d.Housed owner) (live : Liveness)
    (keeps : op.keepsOpen = true) (own : op.Own owner) {j : SlotIndex} (about : op.slot? = some j)
    (other : j ≠ slot) :
    SameAt slot (d.step live op).directory d ∧
      (d.step live op).effects.SameAt owner slot .none := by
  obtain ⟨options, -, config⟩ := d.frame_step live keeps
  obtain ⟨shared, -⟩ := housed.shared_step live keeps
  have unseen : op.slot? ≠ some slot := by
    rw [about]
    exact fun same => other (Option.some.inj same)
  refine ⟨⟨options, ?_, d.bay_step_of_other live keeps unseen, ?_⟩, ?_⟩
  · rw [config]
    cases op with
    | config o => cases about
    | _ => rfl
  · rw [shared]
    cases asked : d.asks op with
    | none => exact .refl slot _
    | some q =>
      have its := (housed.slot_of_asks keeps asked).1.trans about
      exact (AvailabilityMonitor.sameAt_next_of_other d.config.source live housed.availabilityOpen
        its other).1
  · exact (housed.step_of_slot live own about).2.sameAt_none other

end SameAt

end Directory

end AccessStatus
