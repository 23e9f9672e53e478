import AccessStatus.Proofs.Provider.Lifecycle

/-!
# Which providers are handed out

An open directory hands out a provider for each of its slots, and the same one until the slot is
closed. It does not look whether that provider is closed. A provider that was closed through a
handle of its own, and not with its slot, is still handed out and listed, and waiting for everything
posted fails as long as it is; without such a closing all that is handed out is open (`hands_out`).
-/

namespace AccessStatus

namespace Provider

/-- Waiting for providers succeeds if none is closed, and fails for one that is. -/
theorem forM_flushed (providers : List Provider) :
    (providers.forM flushed = .ok () ↔ ∀ p ∈ providers, p.isClosed = false) ∧
      ∀ e, providers.forM flushed = .error e → ∃ p ∈ providers, p.isClosed = true ∧
        e = .providerClosed p.slot := by
  induction providers with
  | nil => exact ⟨⟨fun _ _ none => (nomatch none), fun _ => rfl⟩, fun _ failed => nomatch failed⟩
  | cons p providers ih =>
    cases closed : p.isClosed with
    | true =>
      have fails : (p :: providers).forM flushed = .error (.providerClosed p.slot) := by
        simp [flushed, closed, bind, Except.bind]
      rw [fails]
      refine ⟨⟨fun ok => (nomatch ok), fun all => ?_⟩, fun e failed => ?_⟩
      · have isOpen := all p List.mem_cons_self
        rw [closed] at isOpen
        cases isOpen
      · obtain rfl := Except.error.inj failed
        exact ⟨p, List.mem_cons_self, closed, rfl⟩
    | false =>
      have goesOn : (p :: providers).forM flushed = providers.forM flushed := by
        simp [flushed, closed, bind, Except.bind]
      rw [goesOn, List.forall_mem_cons]
      refine ⟨ih.1.trans ⟨fun rest => ⟨closed, rest⟩, fun both => both.2⟩, fun e failed => ?_⟩
      obtain ⟨q, there, found⟩ := ih.2 e failed
      exact ⟨q, List.mem_cons_of_mem p there, found⟩

end Provider

namespace Directory

/-! ## Closed through a handle -/

/-- The provider of the handle was asked to close through it, after it had been opened. -/
def ClosedDirectly (w : World Directory Notice) (run : List (World.Act Op)) (h : Handle) : Prop :=
  ∃ before later, run = before ++ .ask (.ask h .close) :: later ∧
    ((w.after serve before).state.find? h).isSome

/-- Before anything has happened, nobody was closed through its own handle. -/
theorem not_closedDirectly_nil (w : World Directory Notice) (h : Handle) :
    ¬ ClosedDirectly w [] h := by
  rintro ⟨before, later, whole, -⟩
  exact List.append_ne_nil_of_right_ne_nil before (List.cons_ne_nil _ later) whole.symm

/-- A provider was closed through its own handle by the last act, or before it. -/
theorem closedDirectly_concat (w : World Directory Notice) (run : List (World.Act Op))
    (act : World.Act Op) (h : Handle) :
    ClosedDirectly w (run ++ [act]) h ↔
      ClosedDirectly w run h ∨ act = .ask (.ask h .close) ∧
        ((w.after serve run).state.find? h).isSome := by
  constructor
  · rintro ⟨before, later, whole, found⟩
    rcases concat_eq_split whole with ⟨rfl, rfl, -⟩ | ⟨rest, rfl, rfl⟩
    · exact .inr ⟨rfl, found⟩
    · exact .inl ⟨before, rest, rfl, found⟩
  · rintro (⟨before, later, rfl, found⟩ | ⟨rfl, found⟩)
    · exact ⟨before, later ++ [act], by simp, found⟩
    · exact ⟨run, [], rfl, found⟩

/-- What was closed through a handle was asked to close. -/
theorem ClosedDirectly.asked {w : World Directory Notice} {run : List (World.Act Op)} {h : Handle}
    (closed : ClosedDirectly w run h) : .ask h .close ∈ World.asked run := by
  obtain ⟨before, later, rfl, -⟩ := closed
  exact List.mem_filterMap.2 ⟨.ask (.ask h .close), List.mem_append_right _ List.mem_cons_self, rfl⟩

/-! ## What one request does to what is handed out -/

section Step

variable {d : Directory} (sound : d.Sound) (live : Liveness) {op : Op} {slot : SlotIndex}
include sound

/-- A handle that was given out stays good. -/
theorem Sound.find?_step {h : Handle} (found : (d.find? h).isSome) :
    ((d.step live op).directory.find? h).isSome := by
  have change := sound.bayChange_step live op h.slot
  unfold find? at found ⊢
  rw [isSome_getElem?] at found ⊢
  generalize (d.step live op).directory.bay h.slot = after,
    (d.step live op).effects.callsFor h.slot = calls at change ⊢
  cases change with
  | stays => exact found
  | opens =>
    rw [List.length_append]
    omega
  | asks =>
    unfold Bay.put
    rw [List.length_set]
    exact found
  | closes =>
    rw [Bay.length_close]
    exact found

/-- Unless a slot or everything is closed, the provider that is handed out for the slot stays the
same. -/
theorem Sound.handed_step (handed : (d.bay slot).isOpen = true) (notSlot : op ≠ .closeSlot slot)
    (notAll : op ≠ .close) :
    ((d.step live op).directory.bay slot).isOpen = true ∧
      ((d.step live op).directory.bay slot).opened.length = (d.bay slot).opened.length := by
  have change := sound.bayChange_step live op slot
  generalize (d.step live op).directory.bay slot = after,
    (d.step live op).effects.callsFor slot = calls at change ⊢
  cases change with
  | stays => exact ⟨handed, rfl⟩
  | opens inRange isOpen shut =>
    rw [shut] at handed
    cases handed
  | asks => exact ⟨handed, List.length_set⟩
  | closes closing =>
    rcases closing with same | ⟨same, -⟩
    · exact absurd same notSlot
    · exact absurd same notAll

/-- A provider is handed out after a request if one was asked for, or if one was before and is not
to be closed. -/
theorem Sound.isOpen_step (stillOpen : (d.step live op).directory.isClosed = false) :
    ((d.step live op).directory.bay slot).isOpen = true ↔
      (op = .provider slot ∧ slot.value < d.options.slotCount) ∨ (d.bay slot).isOpen = true ∧
        op ≠ .closeSlot slot := by
  have change := sound.bayChange_step live op slot
  rw [(d.lasting_step live op).2, Bool.or_eq_false_iff] at stillOpen
  generalize (d.step live op).directory.bay slot = after,
    (d.step live op).effects.callsFor slot = calls at change ⊢
  cases change with
  | stays kept closing missing there =>
    refine ⟨fun handed => .inr ⟨handed, kept⟩, ?_⟩
    rintro (⟨asked, inRange⟩ | ⟨handed, -⟩)
    · -- the provider asked for was there already
      rcases there asked with handed | closed | outOfRange
      · exact handed
      · rw [stillOpen.1] at closed
        cases closed
      · exact absurd inRange (UInt8.not_lt.2 outOfRange)
    · exact handed
  | opens inRange => exact ⟨fun _ => .inl ⟨rfl, inRange⟩, fun _ => rfl⟩
  | asks =>
    refine ⟨fun handed => .inr ⟨handed, fun same => nomatch same⟩, ?_⟩
    rintro (⟨same, -⟩ | ⟨handed, -⟩)
    · cases same
    · exact handed
  | closes closing =>
    rw [(sound.bays slot).close.2.1]
    refine ⟨fun handed => (nomatch handed), ?_⟩
    rcases closing with rfl | ⟨rfl, -⟩
    · rintro (⟨same, -⟩ | ⟨-, kept⟩)
      · cases same
      · exact absurd rfl kept
    · cases stillOpen.2

/-- The provider that is handed out after a request was just opened, or was handed out before; then
it is closed if it was, or if it was asked to close itself. -/
theorem Sound.current_step {q : Provider}
    (handed : ((d.step live op).directory.bay slot).current = some q) :
    (op = .provider slot ∧ q.isClosed = false ∧
        ((d.step live op).directory.bay slot).opened.length = (d.bay slot).opened.length + 1) ∨
      ∃ p, (d.bay slot).current = some p ∧
        ((d.step live op).directory.bay slot).opened.length = (d.bay slot).opened.length ∧
        (q.isClosed = true ↔ p.isClosed = true ∨
          op = .ask ⟨slot, (d.bay slot).opened.length - 1⟩ .close) := by
  have bay := sound.bays slot
  have change := sound.bayChange_step live op slot
  generalize (d.step live op).directory.bay slot = after,
    (d.step live op).effects.callsFor slot = calls at change handed ⊢
  cases change with
  | stays kept stillOpen missing =>
    refine .inr ⟨q, handed, rfl, ⟨.inl, ?_⟩⟩
    rintro (before | rfl)
    · exact before
    · have found := (Bay.of_current handed).2
      rw [missing _ _ rfl] at found
      cases found
  | opens =>
    rw [Bay.current_push] at handed
    obtain rfl := Option.some.inj handed
    exact .inl ⟨rfl, rfl, by rw [List.length_append, List.length_singleton]⟩
  | @asks g p o found =>
    have there := (List.getElem?_eq_some_iff.1 found).1
    rw [Bay.current_put _ there] at handed
    refine .inr ?_
    by_cases latest : g + 1 = (d.bay slot).opened.length ∧ (d.bay slot).isOpen = true
    · -- the provider that is handed out is the one that was asked
      rw [if_pos latest] at handed
      obtain rfl := Option.some.inj handed
      have here : (d.bay slot).opened.length - 1 = g := by omega
      have current : (d.bay slot).current = some p := by
        rw [Bay.current_eq, if_pos latest.2, here, found]
      refine ⟨p, current, List.length_set, ?_⟩
      rw [(p.frame_step _ _ _ o).2, Bool.or_eq_true, here]
      cases o <;> simp [Provider.Op.closes]
    · rw [if_neg latest] at handed
      refine ⟨q, handed, List.length_set, ⟨.inl, ?_⟩⟩
      rintro (before | same)
      · exact before
      · have handedOut := (Bay.of_current handed).1
        injection same with same
        injection same with _ same
        exact absurd ⟨by omega, handedOut⟩ latest
  | closes closing =>
    rw [Bay.current_eq, bay.close.2.1] at handed
    cases handed

end Step

/-- What the directory answers when it is asked for a provider, and how it goes on. -/
theorem provider_eq {d : Directory} (isOpen : d.isClosed = false) {slot : SlotIndex}
    (inRange : slot.value < d.options.slotCount) (live : Liveness) :
    d.step live (.provider slot) =
      if (d.bay slot).isOpen then ⟨d, .provider ⟨slot, (d.bay slot).opened.length - 1⟩, .none⟩
      else ⟨{ d with
          bays := d.bays.set slot
            ⟨(d.bay slot).opened ++ [.fresh slot (d.options.slotWorker slot)], true⟩ },
        .provider ⟨slot, (d.bay slot).opened.length⟩, .none⟩ := by
  unfold step provider
  dsimp only
  rw [if_neg (UInt8.not_le.2 inRange), isOpen, if_neg Bool.false_ne_true]

/-- Where a provider is handed out, asking for one changes nothing. -/
theorem provider_of_handed {d : Directory} (isOpen : d.isClosed = false) {slot : SlotIndex}
    (inRange : slot.value < d.options.slotCount) (live : Liveness)
    (handed : (d.bay slot).isOpen = true) :
    d.step live (.provider slot) = ⟨d, .provider ⟨slot, (d.bay slot).opened.length - 1⟩, .none⟩ :=
  (provider_eq isOpen inRange live).trans (if_pos handed)

/-- A provider that was handed out for a slot is the one that is handed out for it from then on. -/
theorem handed_of_answered {d : Directory} (isOpen : d.isClosed = false) {live : Liveness}
    {slot : SlotIndex} {h : Handle}
    (answered : (d.step live (.provider slot)).answer = .provider h) :
    slot.value < d.options.slotCount ∧
      ((d.step live (.provider slot)).directory.bay slot).isOpen = true ∧
      h = ⟨slot, ((d.step live (.provider slot)).directory.bay slot).opened.length - 1⟩ := by
  have inRange : slot.value < d.options.slotCount := by
    by_contra outOfRange
    unfold step provider at answered
    dsimp only at answered
    rw [if_pos (UInt8.not_lt.1 outOfRange)] at answered
    cases answered
  refine ⟨inRange, ?_⟩
  rw [provider_eq isOpen inRange] at answered ⊢
  cases handed : (d.bay slot).isOpen with
  | true =>
    rw [handed, if_pos rfl] at answered
    rw [if_pos rfl]
    exact ⟨handed, (Answer.provider.inj answered).symm⟩
  | false =>
    rw [handed, if_neg Bool.false_ne_true] at answered
    rw [if_neg Bool.false_ne_true, d.bay_set_self rfl, List.length_append, List.length_singleton,
      Nat.add_sub_cancel]
    exact ⟨rfl, (Answer.provider.inj answered).symm⟩

/-- The open slots are those that have a provider in the map. -/
theorem mem_openSlots_iff {d : Directory} {slot : SlotIndex} :
    slot ∈ d.openSlots ↔ (d.bay slot).isOpen = true := by
  unfold openSlots
  rw [List.mem_map]
  constructor
  · rintro ⟨⟨j, b⟩, listed, rfl⟩
    obtain ⟨there, isOpen⟩ := List.mem_filter.1 listed
    have found := d.bays.mem_entries_iff.1 there
    unfold bay
    rw [found]
    exact isOpen
  · intro handed
    unfold bay at handed
    cases found : d.bays.get? slot with
    | none =>
      rw [found] at handed
      cases handed
    | some b =>
      rw [found] at handed
      exact ⟨(slot, b), List.mem_filter.2 ⟨d.bays.mem_entries_iff.2 found, handed⟩, rfl⟩

/-- The providers that are handed out, whichever slot they are for. -/
theorem mem_handed_iff {d : Directory} {p : Provider} :
    p ∈ d.bays.values.filterMap Bay.current ↔ ∃ slot, (d.bay slot).current = some p := by
  rw [List.mem_filterMap]
  constructor
  · rintro ⟨b, listed, handed⟩
    obtain ⟨slot, found⟩ := d.bays.mem_values_iff.1 listed
    refine ⟨slot, ?_⟩
    rw [← bind_current, found]
    exact handed
  · rintro ⟨slot, handed⟩
    rw [← bind_current] at handed
    obtain ⟨b, found, current⟩ := Option.bind_eq_some_iff.1 handed
    exact ⟨b, d.bays.mem_values_iff.2 ⟨slot, found⟩, current⟩

/-! ## Whole runs -/

section Runs

variable {w : World Directory Notice}

/-- What was closed through a handle is still found through it. -/
theorem find?_of_closedDirectly (sound : w.state.Sound) {run : List (World.Act Op)} {h : Handle}
    (closed : ClosedDirectly w run h) : ((w.after serve run).state.find? h).isSome := by
  induction run using List.reverseRecOn with
  | nil => exact absurd closed (not_closedDirectly_nil w h)
  | append_singleton run act ih =>
    have found : ((w.after serve run).state.find? h).isSome := by
      rcases (closedDirectly_concat w run act h).1 closed with before | ⟨-, found⟩
      · exact ih before
      · exact found
    rw [World.after_concat]
    cases act with
    | ask op => exact (sound_after sound run).find?_step _ found
    | happen e => exact found

/-- A provider that is yet to be opened was not closed. -/
theorem not_closedDirectly_next (sound : w.state.Sound) (run : List (World.Act Op))
    (slot : SlotIndex) :
    ¬ ClosedDirectly w run ⟨slot, ((w.after serve run).state.bay slot).opened.length⟩ := by
  intro closed
  have found := find?_of_closedDirectly sound closed
  unfold find? at found
  rw [isSome_getElem?] at found
  exact absurd found (Nat.lt_irrefl _)

/-- The provider that is handed out is closed exactly if it was closed through a handle of its
own. -/
theorem closed_iff_closedDirectly (sound : w.state.Sound) {slot : SlotIndex}
    (shut : (w.state.bay slot).isOpen = false) (run : List (World.Act Op)) {p : Provider}
    (handed : ((w.after serve run).state.bay slot).current = some p) :
    p.isClosed = true ↔
      ClosedDirectly w run ⟨slot, ((w.after serve run).state.bay slot).opened.length - 1⟩ := by
  induction run using List.reverseRecOn generalizing p with
  | nil =>
    have nobody : (w.state.bay slot).current = none := by
      rw [Bay.current_eq, shut]
      rfl
    exact absurd (nobody.symm.trans handed) (Option.some_ne_none p).symm
  | append_singleton run act ih =>
    rw [World.after_concat] at handed ⊢
    rw [closedDirectly_concat]
    cases act with
    | happen e =>
      refine (ih handed).trans ⟨.inl, ?_⟩
      rintro (before | ⟨same, -⟩)
      · exact before
      · cases same
    | ask op =>
      have soundHere := sound_after sound run
      have next : ((w.after serve run).next serve (.ask op)).state.bay slot =
          ((w.after serve run).state.step (w.after serve run).room.live op).directory.bay slot :=
            rfl
      rw [next] at handed ⊢
      -- the provider handed out now is fresh, or the one handed out before
      rcases soundHere.current_step _ handed with ⟨rfl, isOpen, longer⟩ | ⟨q, before, same, closes⟩
      · rw [longer, Nat.add_sub_cancel, isOpen]
        refine ⟨fun closed => (nomatch closed), ?_⟩
        rintro (before | ⟨same, -⟩)
        · exact absurd before (not_closedDirectly_next sound run slot)
        · cases same
      · rw [closes, same, ih before]
        refine or_congr_right ⟨fun asked => ⟨congrArg World.Act.ask asked, ?_⟩,
          fun asked => World.Act.ask.inj asked.1⟩
        have found : (w.after serve run).state.find?
            ⟨slot, ((w.after serve run).state.bay slot).opened.length - 1⟩ = some q :=
          (Bay.of_current before).2
        rw [found]
        rfl

/-- Unless the slot or everything is closed, the provider that is handed out for a slot stays the
same. -/
theorem handed_after (sound : w.state.Sound) {slot : SlotIndex}
    (handed : (w.state.bay slot).isOpen = true) {run : List (World.Act Op)}
    (notSlot : .closeSlot slot ∉ World.asked run) (notAll : .close ∉ World.asked run) :
    ((w.after serve run).state.bay slot).isOpen = true ∧
      ((w.after serve run).state.bay slot).opened.length = (w.state.bay slot).opened.length := by
  refine (World.invariant_after (P := fun d : Directory => d.Sound ∧ (d.bay slot).isOpen = true ∧
    (d.bay slot).opened.length = (w.state.bay slot).opened.length) ⟨sound, handed, rfl⟩ ?_).2
  rintro d live op asks ⟨sound, handed, length⟩
  have others : op ≠ .closeSlot slot ∧ op ≠ .close := by
    constructor
    · rintro rfl
      exact notSlot asks
    · rintro rfl
      exact notAll asks
  have now := sound.handed_step live handed others.1 others.2
  exact ⟨sound.step live op, now.1, now.2.trans length⟩

/-- A directory that is not asked to close stays open. -/
theorem isOpen_after (isOpen : w.state.isClosed = false) {run : List (World.Act Op)}
    (notAll : .close ∉ World.asked run) :
    (w.after serve run).state.isClosed = false := by
  rw [(lasting_after w run).2, isOpen, Bool.false_or, List.any_eq_false]
  intro op asks closes
  exact notAll (Op.eq_close_of_closesAll closes ▸ asks)

/-- A provider that was handed out is handed out again unless its slot or everything is closed in
between. -/
theorem provided_again (sound : w.state.Sound) (isOpen : w.state.isClosed = false)
    {live : Liveness} {slot : SlotIndex} {h : Handle}
    (answered : (w.state.step live (.provider slot)).answer = .provider h)
    {later : List (World.Act Op)} (notSlot : .closeSlot slot ∉ World.asked later)
    (notAll : .close ∉ World.asked later) (live' : Liveness) :
    ((w.after serve (.ask (.provider slot) :: later)).state.step live' (.provider slot)).answer =
      .provider h := by
  obtain ⟨inRange, handed, rfl⟩ := handed_of_answered isOpen answered
  have first := lasting_step w.state w.room.live (.provider slot)
  -- what was handed out stays in place, in a directory that stays open
  have next : (w.next serve (.ask (.provider slot))).state.Sound :=
    sound.step w.room.live (.provider slot)
  have kept := handed_after next handed notSlot notAll
  have stillOpen : ((w.next serve (.ask (.provider slot))).after serve later).state.isClosed =
      false :=
    isOpen_after (first.2.trans (by rw [isOpen]; rfl)) notAll
  have bound : slot.value <
      ((w.next serve (.ask (.provider slot))).after serve later).state.options.slotCount := by
    rw [(lasting_after _ later).1]
    exact lt_of_lt_of_eq inRange (congrArg Options.slotCount first.1.symm)
  refine (congrArg Outcome.answer (provider_of_handed stillOpen bound live' kept.1)).trans ?_
  exact congrArg (fun n => Answer.provider ⟨slot, n - 1⟩) kept.2

/-- As long as the directory is open, a provider is handed out for the slots in range that were
asked for and not closed since. -/
theorem isOpen_iff_standing (sound : w.state.Sound) {slot : SlotIndex}
    (shut : (w.state.bay slot).isOpen = false) (run : List (World.Act Op))
    (isOpen : (w.after serve run).state.isClosed = false) :
    ((w.after serve run).state.bay slot).isOpen = true ↔
      slot.value < w.state.options.slotCount ∧
        Standing (· = .provider slot) (· = .closeSlot slot) (World.asked run) := by
  induction run using List.reverseRecOn with
  | nil =>
    refine ⟨fun handed => ?_, fun standing => absurd standing.2 (not_standing_nil _ _)⟩
    exact absurd (shut.symm.trans handed) Bool.false_ne_true
  | append_singleton run act ih =>
    rw [World.after_concat] at isOpen ⊢
    rw [World.asked_concat]
    cases act with
    | happen e =>
      have none : World.asked [World.Act.happen (ρ := Op) e] = [] := rfl
      rw [none, List.append_nil]
      exact ih isOpen
    | ask op =>
      have one : World.asked [World.Act.ask op] = [op] := rfl
      have before : (w.after serve run).state.isClosed = false := by
        have closed := (lasting_step (w.after serve run).state (w.after serve run).room.live op).2
        exact (Bool.or_eq_false_iff.1 (closed.symm.trans isOpen)).1
      have handed : (((w.after serve run).next serve (.ask op)).state.bay slot).isOpen = true ↔ _ :=
        (sound_after sound run).isOpen_step (w.after serve run).room.live isOpen
      rw [(lasting_after w run).1] at handed
      -- the last request opens the slot, closes it, or leaves it as the others did
      rw [one, standing_concat]
      refine handed.trans ?_
      rw [ih before]
      constructor
      · rintro (⟨asks, inRange⟩ | ⟨⟨inRange, standing⟩, kept⟩)
        · exact ⟨inRange, .inl asks⟩
        · exact ⟨inRange, .inr ⟨standing, kept⟩⟩
      · rintro ⟨inRange, asks | ⟨standing, kept⟩⟩
        · exact .inl ⟨asks, inRange⟩
        · exact .inr ⟨⟨inRange, standing⟩, kept⟩

section Open

variable (start : w.state.Sound) (shut : ∀ slot, (w.state.bay slot).isOpen = false)
  {run : List (World.Act Op)}
  (isOpen : (w.after serve run).state.isClosed = false)
include start shut isOpen

/-- Of a slot that is listed the latest provider is handed out. -/
theorem latest_after {slot : SlotIndex} (there : slot ∈ (w.after serve run).state.openSlots)
    (live : Liveness) :
    (w.after serve run).state.step live (.provider slot) = ⟨(w.after serve run).state,
      .provider ⟨slot, ((w.after serve run).state.bay slot).opened.length - 1⟩, .none⟩ := by
  have handed := mem_openSlots_iff.1 there
  refine provider_of_handed isOpen ?_ live handed
  rw [(lasting_after w run).1]
  exact ((isOpen_iff_standing start (shut slot) run isOpen).1 handed).1

/-- A provider is handed out for every slot in range, closed exactly if it was closed through a
handle of its own. -/
theorem provided_after {slot : SlotIndex} (inRange : slot.value < w.state.options.slotCount)
    (live : Liveness) : ∃ h p,
    ((w.after serve run).state.step live (.provider slot)).answer = .provider h ∧ h.slot = slot ∧
      ((w.after serve run).state.step live (.provider slot)).directory.find? h = some p ∧
      (p.isClosed = true ↔ ClosedDirectly w run h) := by
  rw [← (lasting_after w run).1] at inRange
  cases handed : ((w.after serve run).state.bay slot).isOpen with
  | true =>
    obtain ⟨p, current⟩ := ((sound_after start run).bays slot).current_of_isOpen handed
    rw [provider_of_handed isOpen inRange live handed]
    exact ⟨_, p, rfl, rfl, (Bay.of_current current).2,
      closed_iff_closedDirectly start (shut slot) run current⟩
  | false =>
    rw [provider_eq isOpen inRange live, handed, if_neg Bool.false_ne_true]
    refine ⟨_, .fresh slot ((w.after serve run).state.options.slotWorker slot), rfl, rfl, ?_, ?_⟩
    · unfold find?
      rw [bay_set_self (w.after serve run).state rfl]
      exact List.getElem?_concat_length
    · exact ⟨fun closed => (nomatch closed),
        fun closed => absurd closed (not_closedDirectly_next start run slot)⟩

/-- Waiting for everything posted fails exactly if a provider that is handed out was closed through
a handle of its own. -/
theorem flushed_after :
    ((w.after serve run).state.flushed = .ok () ↔ ∀ slot ∈ (w.after serve run).state.openSlots,
        ¬ ClosedDirectly w run ⟨slot, ((w.after serve run).state.bay slot).opened.length - 1⟩) ∧
      ∀ e, (w.after serve run).state.flushed = .error e →
        ∃ slot ∈ (w.after serve run).state.openSlots,
        e = .providerClosed slot ∧
          ClosedDirectly w run ⟨slot, ((w.after serve run).state.bay slot).opened.length - 1⟩ := by
  have closed (slot : SlotIndex) {p : Provider}
      (handed : ((w.after serve run).state.bay slot).current = some p) :=
    closed_iff_closedDirectly start (shut slot) run handed
  have waits : (w.after serve run).state.flushed =
      ((w.after serve run).state.bays.values.filterMap Bay.current).forM Provider.flushed := by
    unfold flushed
    rw [isOpen]
    rfl
  obtain ⟨succeeds, fails⟩ :=
    Provider.forM_flushed ((w.after serve run).state.bays.values.filterMap Bay.current)
  -- the providers that are asked are those handed out, one for each open slot
  rw [waits, succeeds]
  refine ⟨⟨?_, ?_⟩, ?_⟩
  · intro allOpen slot there
    obtain ⟨p, current⟩ :=
      ((sound_after start run).bays slot).current_of_isOpen (mem_openSlots_iff.1 there)
    rw [← closed slot current, allOpen p (mem_handed_iff.2 ⟨slot, current⟩)]
    exact Bool.false_ne_true
  · intro none p handed
    obtain ⟨slot, current⟩ := mem_handed_iff.1 handed
    have notClosed := none slot (mem_openSlots_iff.2 (Bay.of_current current).1)
    rw [← closed slot current] at notClosed
    simpa using notClosed
  · intro e failed
    obtain ⟨p, handed, isClosed, rfl⟩ := fails e failed
    obtain ⟨slot, current⟩ := mem_handed_iff.1 handed
    have own :=
      (((sound_after start run).bays slot).providers p
        (List.mem_of_getElem? (Bay.of_current current).2)).slot
    exact ⟨slot, mem_openSlots_iff.2 (Bay.of_current current).1, congrArg _ own,
      (closed slot current).1 isClosed⟩

end Open

end Runs

/-- What a directory hands out at the end of a run. -/
structure HandsOut (w : World Directory Notice) (run : List (World.Act Op)) : Prop where
  /-- Asked for the provider of a slot it hands one out, which is closed if and only if it was asked
  to close through a handle of its own. -/
  provided : ∀ live slot, slot.value < w.state.options.slotCount → ∃ h p,
    ((w.after serve run).state.step live (.provider slot)).answer = .provider h ∧ h.slot = slot ∧
      ((w.after serve run).state.step live (.provider slot)).directory.find? h = some p ∧
      (p.isClosed = true ↔ ClosedDirectly w run h)
  /-- So all that is handed out is open if no provider was asked to close through a handle of its
  own. -/
  usable : (∀ h, .ask h .close ∉ World.asked run) →
    ∀ live slot, slot.value < w.state.options.slotCount → ∃ h p,
    ((w.after serve run).state.step live (.provider slot)).answer = .provider h ∧
      ((w.after serve run).state.step live (.provider slot)).directory.find? h = some p ∧
        p.isClosed = false
  /-- It hands out the same one again unless the slot or everything is closed in between. -/
  same : ∀ live live' slot h later, ((w.after serve run).state.step live (.provider slot)).answer =
    .provider h →
    .closeSlot slot ∉ World.asked later → .close ∉ World.asked later →
    ((w.after serve (run ++ .ask (.provider slot) :: later)).state.step live'
      (.provider slot)).answer = .provider h
  /-- It lists the slots whose provider was asked for and that were not closed since. -/
  listed : ∀ slot, slot ∈ (w.after serve run).state.openSlots ↔
    slot.value < w.state.options.slotCount ∧
      Standing (· = .provider slot) (· = .closeSlot slot) (World.asked run)
  /-- Of the slots that it lists the provider is there already. -/
  there : ∀ live, ∀ slot ∈ (w.after serve run).state.openSlots,
    ((w.after serve run).state.step live (.provider slot)).directory = (w.after serve run).state
  /-- Waiting for everything posted succeeds if no provider of a listed slot was closed through a
  handle of its own. -/
  flushed : (w.after serve run).state.flushed = .ok () ↔
    ∀ live, ∀ slot ∈ (w.after serve run).state.openSlots, ∀ h,
      ((w.after serve run).state.step live (.provider slot)).answer = .provider h →
        ¬ ClosedDirectly w run h
  /-- Otherwise it fails for one that was. -/
  fails : ∀ e, (w.after serve run).state.flushed = .error e →
    ∃ slot ∈ (w.after serve run).state.openSlots,
    e = .providerClosed slot ∧ ∃ h, ClosedDirectly w run h ∧
      ∀ live, ((w.after serve run).state.step live (.provider slot)).answer = .provider h

/-- **What an open directory hands out.** In every run that leaves the directory open, through
whichever handles providers are closed, it hands out a provider for each slot, which is closed only
if it was closed through a handle of its own. -/
theorem hands_out {options : Options} {config : Config} {d : Directory}
    (built : build options config = .ok d) (room : Mailroom Notice) (run : List (World.Act Op))
    (isOpen : ((World.mk d room).after serve run).state.isClosed = false) :
    HandsOut ⟨d, room⟩ run := by
  have start : (World.mk d room).state.Sound := sound_build built
  have shut (slot : SlotIndex) : ((World.mk d room).state.bay slot).isOpen = false := by
    rw [bay_build built]
    rfl
  generalize World.mk d room = w at start shut isOpen ⊢
  obtain ⟨succeeds, fails⟩ := flushed_after start shut isOpen
  constructor
  · intro live slot inRange
    exact provided_after start shut isOpen inRange live
  · intro none live slot inRange
    obtain ⟨h, p, answered, -, found, closed⟩ := provided_after start shut isOpen inRange live
    have notClosed : ¬ p.isClosed = true := fun isClosed => none h (closed.1 isClosed).asked
    exact ⟨h, p, answered, found, by simpa using notClosed⟩
  · intro live live' slot h later answered notSlot notAll
    rw [World.after_append]
    exact provided_again (sound_after start run) isOpen answered notSlot notAll live'
  · intro slot
    exact mem_openSlots_iff.trans (isOpen_iff_standing start (shut slot) run isOpen)
  · intro live slot there
    rw [latest_after start shut isOpen there live]
  · rw [succeeds]
    constructor
    · intro none live slot there h answered
      rw [latest_after start shut isOpen there live] at answered
      obtain rfl := Answer.provider.inj answered
      exact none slot there
    · intro none slot there
      have latest := latest_after start shut isOpen there fun _ => true
      exact none _ slot there _ (congrArg Outcome.answer latest)
  · intro e failed
    obtain ⟨slot, there, same, closed⟩ := fails e failed
    refine ⟨slot, there, same, _, closed, fun live => ?_⟩
    rw [latest_after start shut isOpen there live]

/-- The provider of slot 0 is closed through its own handle. -/
def closedThroughHandle : List (World.Act Op) := [.ask (.provider ⟨0⟩), .ask (.ask ⟨⟨0⟩, 0⟩ .close)]

/-- A closed provider is handed out and listed, and waiting fails. -/
theorem hands_out_closedThroughHandle :
    ((World.mk twoSlots .empty).after serve closedThroughHandle).state.isClosed = false ∧
      (((World.mk twoSlots .empty).after serve closedThroughHandle).state.step (fun _ => true)
        (.provider ⟨0⟩)).answer =
        .provider ⟨⟨0⟩, 0⟩ ∧
      (((World.mk twoSlots .empty).after serve closedThroughHandle).state.find? ⟨⟨0⟩, 0⟩).map
        Provider.isClosed = some true ∧
      ((World.mk twoSlots .empty).after serve closedThroughHandle).state.openSlots = [⟨0⟩] ∧
      ((World.mk twoSlots .empty).after serve closedThroughHandle).state.flushed =
        .error (.providerClosed ⟨0⟩) := by
  decide

/-- Once the slot is closed too, what is handed out is open again. -/
theorem hands_out_reopened :
    build default .empty = .ok twoSlots ∧
      ((World.mk twoSlots .empty).after serve
        (closedThroughHandle ++ [.ask (.closeSlot ⟨0⟩), .ask (.provider ⟨0⟩)])).state.isClosed =
          false ∧
      HandsOut ⟨twoSlots, .empty⟩
        (closedThroughHandle ++ [.ask (.closeSlot ⟨0⟩), .ask (.provider ⟨0⟩)]) ∧
      ((World.mk twoSlots .empty).after serve
        (closedThroughHandle ++ [.ask (.closeSlot ⟨0⟩), .ask (.provider ⟨0⟩)])).state.flushed =
          .ok () := by
  have built : build default .empty = .ok twoSlots := rfl
  have isOpen : ((World.mk twoSlots .empty).after serve
      (closedThroughHandle ++ [.ask (.closeSlot ⟨0⟩), .ask (.provider ⟨0⟩)])).state.isClosed =
        false := by decide
  exact ⟨built, isOpen, hands_out built .empty _ isOpen, by rfl⟩

end Directory

end AccessStatus
