import AccessStatus.Proofs.Provider.Bays
import AccessStatus.Proofs.Provider.Isolation

/-!
# The life of providers

Providers are opened, closed through the directory or directly, and opened again, while handles to
the closed ones stay and are used. Over the whole life of a directory the source of registration
status is asked to subscribe and to unsubscribe for a slot in turn, and nothing is left subscribed
where a slot, or everything, was closed; closed providers refuse every event and change nothing; and
closing again changes nothing (`providers_live_safely`).
-/

namespace AccessStatus

namespace Provider

/-- Only thresholds are checked, for a class that carries media. -/
theorem checkPost_of_media {event : Post}
    (media : ∀ r, event = .requestThresholds r → r.trafficClass.carriesMedia = true) :
    checkPost event = .ok () := by
  cases event with
  | requestThresholds r => exact if_pos (media r rfl)
  | _ => rfl

/-- A closed provider takes no event, of which it says so. -/
theorem accepts_of_closed {p : Provider} (closed : p.isClosed = true) {event : Post}
    (media : ∀ r, event = .requestThresholds r → r.trafficClass.carriesMedia = true) :
    p.accepts event = .error (.providerClosed p.slot) := by
  unfold accepts
  rw [checkPost_of_media media]
  exact if_pos closed

/-- Thresholds for a class without media are refused by any provider, closed or not. -/
theorem accepts_of_invalid (p : Provider) {r : ThresholdRequest}
    (noMedia : r.trafficClass.carriesMedia = false) :
    p.accepts (.requestThresholds r) = .error (.invalidTrafficClass r.trafficClass.raw) := by
  have checked : checkPost (.requestThresholds r) =
      .error (.invalidTrafficClass r.trafficClass.raw) :=
    if_neg (by simp [noMedia])
  unfold accepts
  rw [checked]

end Provider

namespace Directory

/-! ## Requests that change nothing -/

/-- A handle that was never given out is asked in vain. -/
theorem ask_of_missing {d : Directory} (live : Liveness) {h : Handle} (o : Provider.Op)
    (missing : d.find? h = none) :
    d.step live (.ask h o) = ⟨d, .plain .done, .none⟩ := by
  unfold step ask
  dsimp only
  rw [missing]

/-- A provider that was asked something is found in its place. -/
theorem find?_ask {d : Directory} (live : Liveness) {h : Handle} (o : Provider.Op) {p : Provider}
    (found : d.find? h = some p) :
    (d.step live (.ask h o)).directory.find? h =
      some (p.step d.config.source live d.availability o).provider := by
  have next : (d.step live (.ask h o)).directory.bay h.slot =
      (d.bay h.slot).put h.generation (p.step d.config.source live d.availability o).provider := by
    unfold step ask
    dsimp only
    rw [found]
    exact d.bay_set_self rfl
  have there : h.generation < (d.bay h.slot).opened.length := (List.getElem?_eq_some_iff.1 found).1
  unfold find?
  rw [next]
  exact List.getElem?_set_self there

/-- A provider that stays as it is, and leaves the shared monitor as it is, leaves the whole
directory as it is. -/
theorem ask_of_unchanged {d : Directory} {live : Liveness} {h : Handle} {o : Provider.Op}
    {p : Provider} {answer : AccessStatus.Answer} {effects : Effects} (found : d.find? h = some p)
    (same : p.step d.config.source live d.availability o = ⟨p, d.availability, answer, effects⟩) :
    d.step live (.ask h o) = ⟨d, .plain answer, effects⟩ := by
  have there : (d.bay h.slot).opened[h.generation]? = some p := found
  have put : (d.bay h.slot).put h.generation p = d.bay h.slot := by
    obtain ⟨bound, rfl⟩ := List.getElem?_eq_some_iff.1 there
    unfold Bay.put
    rw [List.set_getElem_self]
  have listed : d.bays.get? h.slot = some (d.bay h.slot) := by
    unfold bay at there ⊢
    cases known : d.bays.get? h.slot with
    | none =>
      rw [known] at there
      cases there
    | some b => rfl
  unfold step ask
  dsimp only
  rw [found]
  dsimp only
  rw [same, put, Table.set_of_get? listed]

/-- A closed provider refuses an event, and nothing changes. -/
theorem post_of_closed {d : Directory} (live : Liveness) {h : Handle} {p : Provider}
    (found : d.find? h = some p) {event : Provider.Post} {e : StatusError}
    (refused : p.accepts event = .error e) :
    d.step live (.ask h (.post event)) = d.refuse e := by
  refine ask_of_unchanged found ?_
  unfold Provider.step
  dsimp only
  unfold Provider.post
  rw [refused]

/-- A provider that is closed is not closed again. -/
theorem close_of_closed {d : Directory} (live : Liveness) {h : Handle} {p : Provider}
    (found : d.find? h = some p) (closed : p.isClosed = true) :
    d.step live (.ask h .close) = ⟨d, .plain .done, .none⟩ := by
  refine ask_of_unchanged found ?_
  simp [Provider.step, Provider.close, Provider.closed, closed, Effects.none]

/-- Closing a slot that has no provider does nothing. -/
theorem closeSlot_of_shut {d : Directory} (live : Liveness) {slot : SlotIndex}
    (shut : (d.bay slot).isOpen = false) :
    d.step live (.closeSlot slot) = ⟨d, .plain .done, .none⟩ := by
  have nobody : (d.bay slot).current = none := by
    rw [Bay.current_eq, shut]
    rfl
  unfold step closeSlot
  dsimp only
  rw [nobody]

/-- Closing the directory again does nothing. -/
theorem close_of_isClosed {d : Directory} (live : Liveness) (closed : d.isClosed = true) :
    d.step live .close = ⟨d, .plain .done, .none⟩ := if_pos closed

/-- A closed directory hands out no provider. -/
theorem provider_of_isClosed {d : Directory} (live : Liveness) (closed : d.isClosed = true)
    (slot : SlotIndex) :
    d.step live (.provider slot) =
      d.refuse (if d.options.slotCount ≤ slot.value then .invalidSlot slot d.options.slotCount
        else .providerClosed slot) := by
  unfold step provider
  dsimp only
  rw [if_pos closed]
  split <;> rfl

/-- The worker of the shared monitor takes nothing after the directory was closed. -/
theorem post_of_isClosed {d : Directory} (closed : d.isClosed = true) (live : Liveness)
    (o : AvailabilityMonitor.Op) : d.post live o = d.refuse d.workerClosed :=
  if_pos closed

/-! ## Closing again -/

/-- The request closes something: one slot, everything, or one provider directly. -/
def Op.tearsDown : Op → Bool
  | .closeSlot _ | .close | .ask _ .close => true
  | _ => false

/-- What was just closed is not closed again. -/
theorem Sound.repeated {d : Directory} (sound : d.Sound) (live later : Liveness) {op : Op}
    (tears : op.tearsDown = true) :
    (d.step live op).directory.step later op =
      ⟨(d.step live op).directory, .plain .done, .none⟩ := by
  cases op with
  | closeSlot slot =>
    exact closeSlot_of_shut later (sound.shut_closeSlot live slot)
  | close =>
    refine close_of_isClosed later ?_
    rw [(d.lasting_step live .close).2]
    exact Bool.or_true _
  | ask h o =>
    obtain rfl : o = .close := by cases o <;> first | rfl | cases tears
    cases found : d.find? h with
    | none =>
      -- a handle that was never given out is asked in vain, both times
      rw [ask_of_missing live .close found, ask_of_missing later .close found]
    | some p =>
      refine close_of_closed later (find?_ask live .close found) ?_
      rw [(p.frame_step _ _ _ .close).2]
      exact Bool.or_true _
  | _ => cases tears

/-! ## Whole runs -/

section Runs

variable {w : World Directory Notice}

/-- A directory that is sound stays so, whatever is asked of it. -/
theorem sound_after (sound : w.state.Sound) (run : List (World.Act Op)) :
    (w.after serve run).state.Sound :=
  World.invariant_after sound fun _ live op _ sound => sound.step live op

/-- The options stay as they are, and a directory is closed once it was asked to close. -/
theorem lasting_after (w : World Directory Notice) (run : List (World.Act Op)) :
    (w.after serve run).state.options = w.state.options ∧
      (w.after serve run).state.isClosed =
        (w.state.isClosed || (World.asked run).any Op.closesAll) := by
  induction run generalizing w with
  | nil => exact ⟨rfl, (Bool.or_false _).symm⟩
  | cons act run ih =>
    cases act with
    | ask op =>
      have now := w.state.lasting_step w.room.live op
      have later := ih (w.next serve (.ask op))
      refine ⟨later.1.trans now.1, later.2.trans ?_⟩
      show ((w.state.step w.room.live op).directory.isClosed ||
        (World.asked run).any Op.closesAll) = _
      rw [now.2, Bool.or_assoc]
      rfl
    | happen e => exact ih (w.next serve (.happen e))

/-- A slot of which no provider is handed out stays so until it is asked for. -/
theorem shut_after (sound : w.state.Sound) {slot : SlotIndex}
    (shut : (w.state.bay slot).isOpen = false) {run : List (World.Act Op)}
    (unasked : .provider slot ∉ World.asked run) :
    ((w.after serve run).state.bay slot).isOpen = false := by
  refine (World.invariant_after (P := fun d : Directory => d.Sound ∧
    (d.bay slot).isOpen = false) ⟨sound, shut⟩ ?_).2
  rintro d live op asks ⟨sound, shut⟩
  have other : op ≠ .provider slot := by
    rintro rfl
    exact unasked asks
  exact ⟨sound.step live op, sound.shut_step live shut other⟩

/-- All along a run the source was asked in turn, last to subscribe exactly if the provider that is
handed out is subscribed. -/
theorem inTurn_after (sound : w.state.Sound) {slot : SlotIndex}
    (fresh : (w.state.bay slot).subscribed = false) (run : List (World.Act Op)) :
    SourceCall.InTurn slot (w.observed serve (callsFor slot) run) ∧
      (w.observed serve (callsFor slot) run).length % 2 =
        if ((w.after serve run).state.bay slot).subscribed then 1 else 0 := by
  induction run using List.reverseRecOn with
  | nil => exact ⟨SourceCall.inTurn_nil slot, by rw [World.after, List.foldl_nil, fresh]; rfl⟩
  | append_singleton run act ih =>
    rw [World.observed_append, World.after_concat]
    cases act with
    | ask op =>
      have soundHere := sound_after sound run
      have calls : (w.after serve run).observed serve (callsFor slot) [.ask op] =
          SourceCall.change slot ((w.after serve run).state.bay slot).subscribed
            (((w.after serve run).next serve (.ask op)).state.bay slot).subscribed :=
        (List.append_nil _).trans (soundHere.callsFor_step _ op slot)
      rw [calls]
      exact ih.1.change ih.2 _
    | happen e =>
      have none : (w.after serve run).observed serve (callsFor slot) [.happen e] = [] := rfl
      rw [none, List.append_nil]
      exact ih

end Runs

/-- What was asked of the source for a slot is settled: as many requests unsubscribed as subscribed,
and no provider that was ever opened for the slot is subscribed or open. -/
structure Released (slot : SlotIndex) (calls : List SourceCall) (d : Directory) : Prop where
  balance : calls.count (.subscribe slot) = calls.count (.unsubscribe slot)
  unsubscribed : ∀ p ∈ (d.bay slot).opened, p.registration.subscribed = false
  closed : ∀ p ∈ (d.bay slot).opened, p.isClosed = true

/-- What can be relied on of the providers of a directory at the end of a run. -/
structure LivesSafely (w : World Directory Notice) (run : List (World.Act Op)) : Prop where
  /-- For each slot the source was asked to subscribe and to unsubscribe in turn, first to
  subscribe, through all providers that were opened for it. -/
  inTurn : ∀ slot i (made : i < (w.observed serve (callsFor slot) run).length),
    (w.observed serve (callsFor slot) run)[i] =
      if i % 2 = 0 then .subscribe slot else .unsubscribe slot
  /-- Once a slot is closed and until its provider is asked for again, nothing of it is left
  subscribed. -/
  slotReleased : ∀ slot later, .provider slot ∉ World.asked later →
    Released slot (w.observed serve (callsFor slot) (run ++ .ask (.closeSlot slot) :: later))
      (w.after serve (run ++ .ask (.closeSlot slot) :: later)).state
  /-- Once the directory is closed, nothing of any slot is ever subscribed again. -/
  released : ∀ slot later,
    Released slot (w.observed serve (callsFor slot) (run ++ .ask .close :: later))
    (w.after serve (run ++ .ask .close :: later)).state
  /-- A closed provider refuses every event, whatever handle it is reached through; the directory
  stays as it is and nothing is set off. -/
  refused : ∀ live h p, (w.after serve run).state.find? h = some p → p.isClosed = true → ∀ event,
    (∀ r, event = .requestThresholds r → r.trafficClass.carriesMedia = true) →
    (w.after serve run).state.step live (.ask h (.post event)) =
      (w.after serve run).state.refuse (.providerClosed h.slot)
  /-- Of thresholds for a class without media it says that there is no such class. -/
  invalid : ∀ live h p, (w.after serve run).state.find? h = some p → p.isClosed = true → ∀ r :
    ThresholdRequest,
    r.trafficClass.carriesMedia = false →
    (w.after serve run).state.step live (.ask h (.post (.requestThresholds r))) =
      (w.after serve run).state.refuse (.invalidTrafficClass r.trafficClass.raw)
  /-- Closing what was just closed changes nothing and sets nothing off. -/
  repeated : ∀ live live' op, op.tearsDown = true →
    ((w.after serve run).state.step live op).directory.step live' op =
      ⟨((w.after serve run).state.step live op).directory, .plain .done, .none⟩
  /-- Once the directory is closed, it hands out no provider. -/
  closedSlots : ∀ live later slot,
    (w.after serve (run ++ .ask .close :: later)).state.step live (.provider slot) =
      (w.after serve (run ++ .ask .close :: later)).state.refuse
        (if w.state.options.slotCount ≤ slot.value then .invalidSlot slot w.state.options.slotCount
          else .providerClosed slot)
  /-- Nor does it take a report that concerns every slot. -/
  closedReports : ∀ live later op, (∃ event, op = .network event) ∨ op = .configChanged →
    (w.after serve (run ++ .ask .close :: later)).state.step live op =
      (w.after serve (run ++ .ask .close :: later)).state.refuse
        (.dispatch (.closed w.state.options.networkWorker))

/-- A slot of which no provider is handed out is settled with the source. -/
theorem released_of_shut {w : World Directory Notice} (sound : w.state.Sound) {slot : SlotIndex}
    (fresh : (w.state.bay slot).subscribed = false) {run : List (World.Act Op)}
    (shut : ((w.after serve run).state.bay slot).isOpen = false) :
    Released slot (w.observed serve (callsFor slot) run) (w.after serve run).state := by
  have bay := (sound_after sound run).bays slot
  obtain ⟨inTurn, parity⟩ := inTurn_after sound fresh run
  have nobody : ((w.after serve run).state.bay slot).subscribed = false := by
    unfold Bay.subscribed
    rw [Bay.current_eq, shut]
    rfl
  rw [nobody] at parity
  have even : (w.observed serve (callsFor slot) run).length % 2 = 0 := parity
  refine ⟨?_, fun p opened => ?_, fun p opened => bay.allClosed shut opened⟩
  · rw [inTurn.count_eq, even, Nat.add_zero]
  · exact (bay.providers p opened).unsubscribed (bay.allClosed shut opened)

/-- **The life of providers.** In every run of a directory, whatever is asked of it and through
whichever handles, its providers live safely. -/
theorem providers_live_safely {options : Options} {config : Config} {d : Directory}
    (built : build options config = .ok d) (room : Mailroom Notice) (run : List (World.Act Op)) :
    LivesSafely ⟨d, room⟩ run := by
  have start : (World.mk d room).state.Sound := sound_build built
  have fresh (slot : SlotIndex) : ((World.mk d room).state.bay slot).subscribed = false := by
    rw [bay_build built]
    rfl
  have sound := sound_after start run
  -- once closed, the directory stays closed, whatever comes later
  have closedAfter (later : List (World.Act Op)) :
      ((World.mk d room).after serve (run ++ .ask .close :: later)).state.isClosed = true := by
    rw [(lasting_after _ _).2, Bool.or_eq_true, List.any_eq_true]
    refine .inr ⟨.close, List.mem_filterMap.2 ⟨.ask .close, ?_, rfl⟩, rfl⟩
    exact List.mem_append_right run List.mem_cons_self
  constructor
  · intro slot i made
    have inTurn := (inTurn_after start (fresh slot) run).1
    exact inTurn.getElem_eq made
  · intro slot later unasked
    refine released_of_shut start (fresh slot) ?_
    rw [World.after_append]
    exact shut_after (w := ((World.mk d room).after serve run).next serve (.ask (.closeSlot slot)))
      (sound.step _ (.closeSlot slot)) (sound.shut_closeSlot _ slot) unasked
  · intro slot later
    refine released_of_shut start (fresh slot) ?_
    exact (sound_after start (run ++ .ask .close :: later)).shut (closedAfter later) slot
  · intro live h p found closed event media
    have mine : p.slot = h.slot :=
      ((sound.bays h.slot).providers p (List.mem_of_getElem? found)).slot
    have refuses : p.accepts event = .error (.providerClosed h.slot) := by
      rw [← mine]
      refine Provider.accepts_of_closed closed ?_
      rintro r rfl
      exact media r rfl
    exact post_of_closed live found refuses
  · intro live h p found closed r noMedia
    exact post_of_closed live found (p.accepts_of_invalid noMedia)
  · intro live later op tears
    exact sound.repeated live later tears
  · intro live later slot
    rw [provider_of_isClosed live (closedAfter later) slot, (lasting_after _ _).1]
  · intro live later op report
    have refuses := post_of_isClosed (closedAfter later) live
    unfold workerClosed at refuses
    rw [(lasting_after _ _).1] at refuses
    rcases report with ⟨event, rfl⟩ | rfl
    · exact refuses (.network event)
    · exact refuses .configChanged

/-- The provider of slot 0 is closed directly while a consumer is registered, then with its slot;
another is opened and closed with everything. Meanwhile the handle to the first one stays in use. -/
def staleHandle : List (World.Act Op) :=
  [.ask (.provider ⟨0⟩), .ask (.ask ⟨⟨0⟩, 0⟩ (.registration (.register ⟨0⟩ ⟨4⟩))),
    .ask (.ask ⟨⟨0⟩, 0⟩ .close), .ask (.ask ⟨⟨0⟩, 0⟩ (.post (.crossSim true))),
    .ask (.closeSlot ⟨0⟩), .ask (.provider ⟨0⟩),
    .ask (.ask ⟨⟨0⟩, 0⟩ (.registration (.register ⟨0⟩ ⟨5⟩))),
    .ask (.ask ⟨⟨0⟩, 1⟩ (.registration (.register ⟨0⟩ ⟨6⟩))), .ask (.ask ⟨⟨0⟩, 0⟩ .close),
    .ask .close, .ask (.ask ⟨⟨0⟩, 1⟩ .close)]

theorem lives_safely_staleHandle :
    build default .empty = .ok twoSlots ∧
      LivesSafely ⟨twoSlots, Mailroom.empty.openBox⟩ staleHandle ∧
      (World.mk twoSlots Mailroom.empty.openBox).observed serve (callsFor ⟨0⟩) staleHandle =
        [.subscribe ⟨0⟩, .unsubscribe ⟨0⟩, .subscribe ⟨0⟩, .unsubscribe ⟨0⟩] ∧
      (((World.mk twoSlots Mailroom.empty.openBox).after serve staleHandle).state.bay
        ⟨0⟩).opened.map Provider.isClosed =
        [true, true] := by
  have built : build default .empty = .ok twoSlots := rfl
  exact ⟨built, providers_live_safely built Mailroom.empty.openBox staleHandle,
    by decide, by decide⟩

end Directory

end AccessStatus
