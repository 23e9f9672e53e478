import AccessStatus.Proofs.Call.Legs
import AccessStatus.Proofs.Call.Run

/-!
# The call type and its history

In an open monitor the call type published last is emergency under the overlay and that of the legs
otherwise (`Shown`). Legs may change while the overlay hides them, so what is kept in step with the
reports is the table of legs, and what is kept in step with the table and the overlay is the
published value. The main statement, `reflects_reports`, reads both off the reports alone.
-/

namespace AccessStatus

namespace CallMonitor

/-- The call type published last is the one that the overlay and the legs call for. -/
def Shown (m : CallMonitor) : Prop :=
  m.callType.current = some (if m.overlay then .emergency else aggregateLegs m.legs)

/-! ## What one request preserves -/

theorem shown_fresh (slot : SlotIndex) : Shown (fresh slot) := rfl

/-- A report about a leg has the call type follow the legs, unless the overlay hides them. -/
theorem Shown.updateLeg {m : CallMonitor} (shown : m.Shown) (live : Liveness) (event : CallEvent) :
    (m.updateLeg live event).1.Shown := by
  rw [Shown, current_updateLeg, legs_updateLeg, overlay_updateLeg]
  by_cases hidden : m.overlay
  · rw [if_pos hidden, if_pos hidden, shown, if_pos hidden]
  · rw [if_neg hidden, if_neg hidden]

/-- The overlay ends with the call type of the legs: it was on exactly if emergency was published
last. -/
theorem Shown.updateOverlay {m : CallMonitor} (shown : m.Shown) (live : Liveness)
    (connected : TrafficClass → Bool) (event : CallEvent) :
    (m.updateOverlay live connected event).1.Shown := by
  by_cases begins : beginsOverlay connected event = true
  · rw [updateOverlay_of_begins m live begins, Shown, current_publishType, overlay_publishType]
    rfl
  · by_cases ended : event.state = .disconnected
    · rw [updateOverlay_of_ended m live ended]
      split
      · rw [Shown, current_publishType, overlay_publishType, legs_publishType]
        rfl
      · rename_i notEmergency
        -- under the overlay emergency would have been published last
        have off : m.overlay = false := by
          by_contra on
          rw [shown, if_pos (by simpa using on)] at notEmergency
          exact notEmergency rfl
        show m.callType.current = some (aggregateLegs m.legs)
        rw [shown, off]
        rfl
    · rwa [updateOverlay_of_neither m live begins ended]

/-- A report about an emergency call sets the call type where it begins or ends the overlay. -/
theorem Shown.updateEmergency {m : CallMonitor} (shown : m.Shown) (live : Liveness)
    (connected : TrafficClass → Bool) (event : CallEvent) :
    (m.updateEmergency live connected event).1.Shown := by
  cases kept : emergencyAfter m.emergency event with
  | none => rwa [updateEmergency_of_ignored m live kept]
  | some call =>
    rw [updateEmergency_of_kept m live kept]
    exact Shown.updateOverlay (m := ({ m with emergency := call }.publishEmergencyType live _).1)
      shown live _ event

/-- So every report leaves the call type as overlay and legs say. -/
theorem Shown.afterReport {m : CallMonitor} (shown : m.Shown) (live : Liveness)
    (connected : TrafficClass → Bool) (event : CallEvent) :
    (m.afterReport live connected event).Shown := by
  unfold CallMonitor.afterReport
  split
  · exact shown.updateEmergency live connected event
  · exact shown.updateLeg live event

theorem Shown.of_sameCalls {m n : CallMonitor} (shown : m.Shown) (same : SameCalls m n) :
    n.Shown := by
  rw [Shown, same.callType, same.overlay, same.legs, shown]

/-- A report keeps the legs in step with the reports. -/
theorem legsFit_afterReport {m : CallMonitor} {events : List CallEvent}
    (fits : LegsFit m.legs events) (live : Liveness) (connected : TrafficClass → Bool)
    (event : CallEvent) :
    LegsFit (m.afterReport live connected event).legs (events ++ [event]) := by
  unfold CallMonitor.afterReport
  split
  · rename_i isEmergency
    rw [legs_updateEmergency]
    exact legsFit_concat_emergency fits isEmergency
  · rename_i isLeg
    rw [legs_updateLeg]
    exact legsFit_concat fits isLeg

/-! ## What a run preserves -/

/-- After a run that leaves the monitor open the legs are in step with the reports, and the call
type with the legs. -/
theorem fits_and_shown_after (slot : SlotIndex) (run : List Moment)
    (isOpen : ((fresh slot).after run).isClosed = false) :
    LegsFit ((fresh slot).after run).legs (reports run) ∧ ((fresh slot).after run).Shown := by
  induction run using List.reverseRecOn with
  | nil => exact ⟨legsFit_nil, shown_fresh slot⟩
  | append_singleton run t ih =>
    rw [after_concat] at isOpen ⊢
    rw [reports_concat]
    -- what is open now was open before, as nothing opens a monitor again
    obtain ⟨before, ⟨event, brings, result⟩ | ⟨quiet, same⟩⟩ := next_cases _ t isOpen
    · obtain ⟨fits, shown⟩ := ih before
      rw [result, brings]
      exact ⟨legsFit_afterReport fits _ _ event, shown.afterReport _ _ event⟩
    · obtain ⟨fits, shown⟩ := ih before
      rw [quiet, same.legs]
      exact ⟨by simpa using fits, shown.of_sameCalls same⟩

/-- What a monitor knows and shows of calls is what the reports say. -/
structure Reflects (m : CallMonitor) (events : List CallEvent) : Prop where
  tracked : ∀ id, (m.legs.get? id).isSome ↔ Ongoing events id
  kind : ∀ id leg, m.legs.get? id = some leg → latestKind events id = some leg.kind
  count : m.legs.size = {id | Ongoing events id}.ncard
  emergency : m.currentType = .emergency ↔ m.overlay = true
  idle : m.overlay = false → (m.currentType = .idle ↔ ∀ id, ¬ Ongoing events id)
  video : m.overlay = false →
    (m.currentType = .video ↔ ∃ id, Ongoing events id ∧ latestKind events id = some .video)
  voice : m.overlay = false →
    (m.currentType = .voice ↔
      (∃ id, Ongoing events id) ∧ ∀ id, Ongoing events id → latestKind events id = some .voice)

/-- What the monitor shows is the emergency while the overlay is on, and else what the legs amount
to. -/
theorem currentType_of_shown {m : CallMonitor} (shown : m.Shown) :
    m.currentType = if m.overlay then .emergency else aggregateLegs m.legs := by
  rw [currentType, shown, Option.getD_some]

/-- After every run that leaves the monitor open, the legs, their number and the call type are what
the history of the reports says, and no emergency report ever touches a leg. -/
theorem reflects_reports (slot : SlotIndex) (run : List Moment)
    (isOpen : ((fresh slot).after run).isClosed = false) :
    Reflects ((fresh slot).after run) (reports run) ∧
      ∀ live connected event, event.kind = .emergency →
        (((fresh slot).after run).next ⟨live, connected, .update event⟩).legs =
          ((fresh slot).after run).legs := by
  obtain ⟨fits, shown⟩ := fits_and_shown_after slot run isOpen
  generalize (fresh slot).after run = m at *
  have type := currentType_of_shown shown
  refine ⟨⟨fun id => (fits id).tracked, fun id => (fits id).kind, fits.size_eq, ?_, ?_, ?_, ?_⟩, ?_⟩
  · rw [type]
    split
    · simp [*]
    · simp [*, aggregateLegs_ne_emergency]
  · intro shownLegs
    rw [type, shownLegs]
    exact aggregateLegs_eq_idle_iff fits
  · intro shownLegs
    rw [type, shownLegs]
    exact aggregateLegs_eq_video_iff fits
  · intro shownLegs
    rw [type, shownLegs]
    exact aggregateLegs_eq_voice_iff fits
  · intro live connected event isEmergency
    rw [next_update_of_open isOpen, CallMonitor.afterReport, if_pos isEmergency,
      legs_updateEmergency]

/-- A voice and a video call; the video call ends while an emergency call over the IMS connection
hides it. -/
def hiddenDisconnect : List Moment :=
  [(1, .voice, .active), (2, .video, .active), (7, .emergency, .dialing),
    (2, .video, .disconnected),
    (7, .emergency, .disconnected)].map fun (id, kind, state) =>
      ⟨fun _ => true, fun c => c = .ims, .update ⟨⟨id⟩, kind, state⟩⟩

/-- The end of the video call does not show while the overlay is on, but the legs know of it, and
the call type shows it once the overlay is off. -/
theorem reflects_hiddenDisconnect :
    ((fresh ⟨0⟩).after (hiddenDisconnect.take 4)).isClosed = false ∧
      Reflects ((fresh ⟨0⟩).after (hiddenDisconnect.take 4)) (reports (hiddenDisconnect.take 4)) ∧
      ((fresh ⟨0⟩).after (hiddenDisconnect.take 4)).overlay = true ∧
      ((fresh ⟨0⟩).after (hiddenDisconnect.take 4)).currentType = .emergency ∧
      ((fresh ⟨0⟩).after (hiddenDisconnect.take 4)).legs.size = 1 ∧
      ((fresh ⟨0⟩).after hiddenDisconnect).isClosed = false ∧
      Reflects ((fresh ⟨0⟩).after hiddenDisconnect) (reports hiddenDisconnect) ∧
      ((fresh ⟨0⟩).after hiddenDisconnect).overlay = false ∧
      ((fresh ⟨0⟩).after hiddenDisconnect).currentType = .voice := by
  have hidden := (reflects_reports ⟨0⟩ (hiddenDisconnect.take 4) (by decide)).1
  have shown := (reflects_reports ⟨0⟩ hiddenDisconnect (by decide)).1
  exact ⟨by decide, hidden, by decide, by decide, by decide, by decide, shown, by decide,
    by decide⟩

end CallMonitor

end AccessStatus
