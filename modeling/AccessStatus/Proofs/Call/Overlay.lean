import AccessStatus.Proofs.Call.CallType
import AccessStatus.Proofs.Stream.Registry

/-!
# The emergency overlay and its history

The overlay is on when some emergency call had to be carried over the IMS connection and the kept
call has not been disconnected since. Whether it is on cannot be read off the present state of the
connections or of the calls: it is set by one report and reset by another, and disconnections of
calls that are not kept do not count. What hangs on it is the call type and the echo of poor
emergency media to the consumers of IMS media. The main statement, `follows_lifecycle`, reads all of
this off the history.
-/

namespace AccessStatus

namespace CallMonitor

/-! ## The overlay by the history -/

/-- The moment brings a report of an emergency call that is being set up or is up, while the
emergency connection is down and the IMS connection is up. -/
def Moment.CarriedOverIms (t : Moment) : Prop :=
  ∃ event, t.report? = some event ∧ event.kind = .emergency ∧
    (event.state = .active ∨ event.state = .dialing ∨ event.state = .alerting) ∧
    t.connected .emergency = false ∧ t.connected .ims = true

/-- The moment brings the disconnection of the emergency call that is kept by the history before
it. -/
def EndsKept (before : List Moment) (t : Moment) : Prop :=
  ∃ event call, t.report? = some event ∧ event.kind = .emergency ∧ event.state = .disconnected ∧
    keptCall (reports before) = some call ∧ call.id = event.id

/-- The overlay by the history: some emergency call was carried over the IMS connection, and no
disconnection of a kept call followed. -/
def OverlayDue (run : List Moment) : Prop := Latched Moment.CarriedOverIms EndsKept run

/-- The overlay is due from an emergency call over the IMS connection until the kept call ends. -/
theorem overlayDue_concat (run : List Moment) (t : Moment) :
    OverlayDue (run ++ [t]) ↔ t.CarriedOverIms ∨ OverlayDue run ∧ ¬ EndsKept run t :=
  latched_concat _ _ run t

/-- A moment without a report of an emergency call does not change whether the overlay is due. -/
theorem overlayDue_concat_of_not_emergency {run : List Moment} {t : Moment}
    (other : ∀ event, t.report? = some event → event.kind ≠ .emergency) :
    OverlayDue (run ++ [t]) ↔ OverlayDue run := by
  have quiet : ¬ t.CarriedOverIms :=
    fun ⟨event, brings, isEmergency, _⟩ => other event brings isEmergency
  have keeps : ¬ EndsKept run t :=
    fun ⟨event, _, brings, isEmergency, _⟩ => other event brings isEmergency
  rw [overlayDue_concat]
  simp [quiet, keeps]

/-- An emergency call is carried over the IMS connection when the monitor begins the overlay. -/
theorem carriedOverIms_iff {t : Moment} {event : CallEvent} (brings : t.report? = some event)
    (isEmergency : event.kind = .emergency) :
    t.CarriedOverIms ↔ beginsOverlay t.connected event = true := by
  have states : event.state.isEmergencyInProgress = true ↔
      event.state = .active ∨ event.state = .dialing ∨ event.state = .alerting := by
    cases event.state <;> simp [LegState.isEmergencyInProgress]
  simp [Moment.CarriedOverIms, beginsOverlay, brings, isEmergency, ← states, and_assoc]

/-- The kept call ends by the history when the monitor drops it. -/
theorem endsKept_iff {run : List Moment} {t : Moment} {event : CallEvent}
    (brings : t.report? = some event) (isEmergency : event.kind = .emergency) :
    EndsKept run t ↔ emergencyAfter (keptCall (reports run)) event = some none := by
  rw [emergencyAfter_eq_some_none_iff]
  simp [EndsKept, brings, isEmergency]

/-! ## What one request preserves -/

/-- What the monitor holds of the emergency call, and what it published of it, is what the history
says. -/
structure EmergencyFits (m : CallMonitor) (run : List Moment) : Prop where
  kept : m.emergency = keptCall (reports run)
  overlay : m.overlay = true ↔ OverlayDue run
  backed : m.overlay = true → m.emergency.isSome
  published : m.emergencyType.current = some (emergencyCallType m.emergency)

theorem emergencyFits_fresh (slot : SlotIndex) : EmergencyFits (fresh slot) [] where
  kept := rfl
  overlay := by simp [fresh, OverlayDue, not_latched_nil]
  backed on := by cases on
  published := rfl

section Step

variable {m : CallMonitor} {run : List Moment} {t : Moment}

/-- A request that brings no report leaves both sides alone. -/
theorem EmergencyFits.of_sameCalls {n : CallMonitor} (fits : m.EmergencyFits run)
    (same : SameCalls m n) (quiet : t.report? = none) : n.EmergencyFits (run ++ [t]) where
  kept := by
    rw [same.emergency, fits.kept, reports_concat, quiet, Option.toList_none, List.append_nil]
  overlay := by
    rw [same.overlay, fits.overlay, overlayDue_concat_of_not_emergency]
    simp [quiet]
  backed := by
    rw [same.overlay, same.emergency]
    exact fits.backed
  published := by rw [same.emergencyType, same.emergency, fits.published]

/-- A report about a leg does not touch what is known of emergency calls. -/
theorem EmergencyFits.updateLeg {event : CallEvent} (fits : m.EmergencyFits run)
    (brings : t.report? = some event) (isLeg : event.kind ≠ .emergency) :
    (m.updateLeg t.live event).1.EmergencyFits (run ++ [t]) := by
  obtain ⟨emergency, emergencyType, -⟩ := m.updateLeg_frame t.live event
  refine ⟨?_, ?_, ?_, ?_⟩
  · rw [emergency, fits.kept, reports_concat, brings, Option.toList_some,
      keptCall_concat_leg _ isLeg]
  · rw [overlay_updateLeg, fits.overlay, overlayDue_concat_of_not_emergency]
    simpa [brings] using isLeg
  · rw [overlay_updateLeg, emergency]
    exact fits.backed
  · rw [emergencyType, emergency, fits.published]

/-- One about an emergency call changes it as the history says. -/
theorem EmergencyFits.updateEmergency {event : CallEvent} (fits : m.EmergencyFits run)
    (brings : t.report? = some event) (isEmergency : event.kind = .emergency) :
    (m.updateEmergency t.live t.connected event).1.EmergencyFits (run ++ [t]) := by
  refine ⟨?_, ?_, ?_, ?_⟩
  · rw [emergency_updateEmergency, fits.kept, reports_concat, brings, Option.toList_some,
      keptCall_concat _ isEmergency]
  · rw [overlay_updateEmergency, fits.overlay, fits.kept, overlayDue_concat,
      carriedOverIms_iff brings isEmergency,
      endsKept_iff brings isEmergency]
  · rw [overlay_updateEmergency, emergency_updateEmergency]
    rintro (begins | ⟨on, keeps⟩)
    · rw [emergencyAfter_of_there _ (state_ne_of_beginsOverlay begins)]
      rfl
    · have backed := fits.backed on
      cases counts : emergencyAfter m.emergency event with
      | none => exact backed
      | some kept =>
        rw [counts] at keeps
        exact Option.isSome_iff_ne_none.2 fun gone => keeps (congrArg some gone)
  · rw [emergencyType_updateEmergency, emergency_updateEmergency]
    cases emergencyAfter m.emergency event with
    | none => exact fits.published
    | some kept => rfl

end Step

/-- After every run that leaves the monitor open, it holds of the emergency call what the history
says. -/
theorem emergencyFits_after (slot : SlotIndex) (run : List Moment)
    (isOpen : ((fresh slot).after run).isClosed = false) :
    ((fresh slot).after run).EmergencyFits run := by
  induction run using List.reverseRecOn with
  | nil => exact emergencyFits_fresh slot
  | append_singleton run t ih =>
    rw [after_concat] at isOpen ⊢
    obtain ⟨before, ⟨event, brings, result⟩ | ⟨quiet, same⟩⟩ := next_cases _ t isOpen
    · rw [result, afterReport]
      split
      · exact (ih before).updateEmergency brings (by assumption)
      · exact (ih before).updateLeg brings (by assumption)
    · exact (ih before).of_sameCalls same quiet

/-! ## Reports of poor media -/

/-- No consumer is registered twice for poor media of one class. -/
def SingleMedia (m : CallMonitor) : Prop := m.imsMedia.Single ∧ m.emergencyMedia.Single

theorem SingleMedia.mediaRegistry {m : CallMonitor} (single : m.SingleMedia) (c : TrafficClass) :
    (m.mediaRegistry c).Single := by
  cases c with
  | emergency => exact single.2
  | _ => exact single.1

theorem SingleMedia.withMediaRegistry {m : CallMonitor} (single : m.SingleMedia)
    (c : TrafficClass) {r : Registry} (registry : r.Single) :
    (m.withMediaRegistry c r).SingleMedia := by
  cases c with
  | emergency => exact ⟨single.1, registry⟩
  | _ => exact ⟨registry, single.2⟩

/-- Reports about calls register nobody for media. -/
theorem SingleMedia.afterReport {m : CallMonitor} (single : m.SingleMedia) (live : Liveness)
    (connected : TrafficClass → Bool) (event : CallEvent) :
    (m.afterReport live connected event).SingleMedia := by
  unfold CallMonitor.afterReport SingleMedia
  split
  · rw [(m.media_updateEmergency live).1, (m.media_updateEmergency live).2]
    exact single
  · obtain ⟨-, -, ims, emergency⟩ := m.updateLeg_frame live event
    rw [ims, emergency]
    exact single

theorem SingleMedia.afterMedia {m : CallMonitor} (single : m.SingleMedia) (live : Liveness)
    (r : PoorMedia) :
    (m.afterMedia live r).SingleMedia := by
  unfold CallMonitor.afterMedia SingleMedia
  constructor
  · dsimp only
    split
    · exact single.1.sweep live
    · exact single.1
  · dsimp only
    split
    · exact single.2.sweep live
    · exact single.2

/-- Whatever is asked, nobody is registered twice for media of a class. -/
theorem SingleMedia.next {m : CallMonitor} (single : m.SingleMedia) (t : Moment) :
    (m.next t).SingleMedia := by
  obtain ⟨live, connected, op⟩ := t
  -- only registrations for media add anybody, and they do not add one twice
  cases op with
  | update event =>
    cases closed : m.isClosed with
    | true => rwa [next_update_of_closed closed]
    | false =>
      rw [next_update_of_open closed]
      exact single.afterReport live connected event
  | poorMedia r => exact single.afterMedia live r
  | registerMedia raw c tag =>
    unfold CallMonitor.next step
    dsimp only
    split
    · exact single
    · exact single.withMediaRegistry _ ((single.mediaRegistry _).addUnique _)
  | unregisterMedia raw c =>
    unfold CallMonitor.next step
    dsimp only
    split
    · exact single
    · exact single.withMediaRegistry _ ((single.mediaRegistry _).remove c)
  | requestThresholds r =>
    unfold CallMonitor.next step
    dsimp only
    split <;> exact single
  | register stream c tag => cases stream <;> exact single
  | unregister stream c => cases stream <;> exact single
  | preferTransport t => exact single
  | tryWfc trying => exact single
  | close =>
    show m.close.SingleMedia
    unfold close
    split
    · exact single
    · exact ⟨Registry.single_clear _, Registry.single_clear _⟩

/-- Nor is anybody after a run. -/
theorem singleMedia_after (slot : SlotIndex) (run : List Moment) :
    ((fresh slot).after run).SingleMedia := by
  induction run using List.reverseRecOn with
  | nil => exact ⟨Registry.single_empty _, Registry.single_empty _⟩
  | append_singleton run t ih =>
    rw [after_concat]
    exact ih.next t

/-- A report of poor media concerns the consumers of IMS media: of a voice or video call always, of
an emergency call if it is echoed. -/
def ConcernsIms (r : PoorMedia) (echoed : Prop) : Prop :=
  r.callType = .voice ∨ r.callType = .video ∨ r.callType = .emergency ∧ echoed

instance (r : PoorMedia) (echoed : Prop) [Decidable echoed] : Decidable (ConcernsIms r echoed) :=
  inferInstanceAs (Decidable (_ ∨ _ ∨ _ ∧ _))

/-- What is sent to the consumers of emergency media, and what to those of IMS media, on a report of
poor media. -/
structure Routed (m : CallMonitor) (live : Liveness) (r : PoorMedia) (echoed : Prop)
    (toEmergency toIms : List (Delivery CallNotice)) : Prop where
  emergency : r.callType = .emergency →
    ToldOnce live m.emergencyMedia (.emergencyMedia r) toEmergency
  notEmergency : r.callType ≠ .emergency → toEmergency = []
  ims : ConcernsIms r echoed → ToldOnce live m.imsMedia (.imsMedia r) toIms
  notIms : ¬ ConcernsIms r echoed → toIms = []

/-- A report of poor media tells the emergency consumers first and the IMS consumers after them. -/
theorem routed_poorMedia {m : CallMonitor} (single : m.SingleMedia) (live : Liveness)
    (connected : TrafficClass → Bool) (r : PoorMedia) :
    ∃ toEmergency toIms, (m.step live connected (.poorMedia r)).sent = toEmergency ++ toIms ∧
      m.Routed live r (m.overlay = true) toEmergency toIms := by
  have ims := single.1.toldOnce live r CallNotice.imsMedia
  have emergency := single.2.toldOnce live r CallNotice.emergencyMedia
  show ∃ _ _, m.mediaDeliveries live r = _ ∧ _
  unfold mediaDeliveries
  cases type : r.callType with
  | idle => exact ⟨[], [], rfl, by simp [type], by simp, by simp [ConcernsIms, type], by simp⟩
  | voice => exact ⟨[], _, rfl, by simp [type], by simp, fun _ => ims, by simp [ConcernsIms, type]⟩
  | video => exact ⟨[], _, rfl, by simp [type], by simp, fun _ => ims, by simp [ConcernsIms, type]⟩
  | emergency =>
    refine ⟨_, _, rfl, fun _ => emergency, by simp [type], fun echoed => ?_, fun silent => ?_⟩
    · rw [if_pos (by simpa [ConcernsIms, type] using echoed)]
      exact ims
    · rw [if_neg (by simpa [ConcernsIms, type] using silent)]

/-! ## The lifecycle -/

/-- The emergency call, the overlay and all that hangs on them are what the history says. -/
structure Lifecycle (m : CallMonitor) (run : List Moment) : Prop where
  kept : m.emergency = keptCall (reports run)
  overlay : m.overlay = true ↔ OverlayDue run
  backed : OverlayDue run → (keptCall (reports run)).isSome
  callType : m.currentType = .emergency ↔ OverlayDue run
  emergencyIdle : m.isEmergencyIdle = true ↔ m.emergencyType.current = some .idle
  media : ∀ live connected r, ∃ toEmergency toIms,
    (m.step live connected (.poorMedia r)).sent = toEmergency ++ toIms ∧
      m.Routed live r (OverlayDue run) toEmergency toIms

/-- After every run that leaves the monitor open, the overlay is on exactly if it is due by the
history. While it is, an emergency call is kept, the call type is emergency, and poor emergency
media is told to the IMS consumers as well. -/
theorem follows_lifecycle (slot : SlotIndex) (run : List Moment)
    (isOpen : ((fresh slot).after run).isClosed = false) :
    ((fresh slot).after run).Lifecycle run := by
  have fits := emergencyFits_after slot run isOpen
  have type := currentType_of_shown (fits_and_shown_after slot run isOpen).2
  have single := singleMedia_after slot run
  generalize (fresh slot).after run = m at *
  have due : (m.overlay = true) = OverlayDue run := propext fits.overlay
  refine ⟨fits.kept, fits.overlay, ?_, ?_, ?_, ?_⟩
  · rw [← fits.overlay, ← fits.kept]
    exact fits.backed
  · rw [← fits.overlay, type]
    split
    · simp [*]
    · simp [*, aggregateLegs_ne_emergency]
  · rw [fits.published, isEmergencyIdle, decide_eq_true_eq, Option.some_inj]
  · intro live connected r
    rw [← due]
    exact routed_poorMedia single live connected r

/-- Emergency calls 7 and 8 over the IMS connection, the second in place of the first; the first is
disconnected after that, when the emergency connection is up, and so is a video call. -/
def displacedCall : List Moment :=
  [(CallMonitor.Op.registerMedia TrafficClass.ims.raw ⟨0⟩ ⟨4⟩, true),
    (.registerMedia TrafficClass.emergency.raw ⟨1⟩ ⟨5⟩, true),
    (.update ⟨⟨2⟩, .video, .active⟩, true), (.update ⟨⟨7⟩, .emergency, .dialing⟩, true),
    (.update ⟨⟨8⟩, .emergency, .alerting⟩, true), (.update ⟨⟨7⟩, .emergency, .disconnected⟩, false),
    (.update ⟨⟨2⟩, .video, .disconnected⟩, false)].map fun (op, overIms) =>
      ⟨fun _ => true, fun c => c = .ims || !overIms, op⟩

/-- The overlay stays while the call that began it is replaced by another, and media reports reach
the consumers of the class that they are routed to. -/
theorem lifecycle_displacedCall :
    ((fresh ⟨0⟩).after displacedCall).isClosed = false ∧
      ((fresh ⟨0⟩).after displacedCall).Lifecycle displacedCall ∧ OverlayDue displacedCall ∧
      keptCall (reports displacedCall) = some ⟨⟨8⟩, .alerting⟩ ∧
      ((fresh ⟨0⟩).after displacedCall).currentType = .emergency ∧
      (((fresh ⟨0⟩).after displacedCall).step (fun _ => true) (fun _ => true)
        (.poorMedia ⟨.emergency, .jitter⟩)).sent =
        [⟨⟨1⟩, ⟨⟨5⟩, none, .emergencyMedia ⟨.emergency, .jitter⟩, none⟩⟩,
          ⟨⟨0⟩, ⟨⟨4⟩, none, .imsMedia ⟨.emergency, .jitter⟩, none⟩⟩] := by
  have lifecycle := follows_lifecycle ⟨0⟩ displacedCall (by decide)
  have due := lifecycle.overlay.1 (by decide)
  exact ⟨by decide, lifecycle, due, by decide, lifecycle.callType.2 due, by decide⟩

end CallMonitor

end AccessStatus
