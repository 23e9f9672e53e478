import AccessStatus.Call.Monitor
import AccessStatus.Proofs.Call.Emergency
import AccessStatus.Proofs.Stream.Notifier

/-!
# Runs of a call monitor

A run is a list of requests, each with what the world answers at its moment: which consumers are
live, and for which traffic classes a session exists. Only a report about a call touches what is
known of calls (`next_cases`); what such a report does is said field by field.
-/

namespace AccessStatus

namespace CallMonitor

/-- A request and the world at its moment. -/
structure Moment where
  live : Liveness
  connected : TrafficClass → Bool
  op : Op

/-- The report that a request brings, if it is one. -/
def Moment.report? (t : Moment) : Option CallEvent :=
  match t.op with
  | .update event => some event
  | _ => none

/-- The monitor after one request. -/
def next (m : CallMonitor) (t : Moment) : CallMonitor := (m.step t.live t.connected t.op).monitor

/-- The monitor after a run. -/
def after (m : CallMonitor) (run : List Moment) : CallMonitor := run.foldl next m

/-- The reports about calls that a run brings, in order. -/
def reports (run : List Moment) : List CallEvent := run.filterMap Moment.report?

theorem after_concat (m : CallMonitor) (run : List Moment) (t : Moment) :
    m.after (run ++ [t]) = (m.after run).next t := by
  rw [after, List.foldl_append, List.foldl_cons, List.foldl_nil, ← after]

theorem reports_concat (run : List Moment) (t : Moment) :
    reports (run ++ [t]) = reports run ++ t.report?.toList := by
  rw [reports, List.filterMap_append, ← reports]
  cases h : t.report? <;> simp [h]

/-! ## What publishing leaves alone -/

section Publish

variable (m : CallMonitor) (live : Liveness) (v : CallType)

@[simp] theorem legs_publishType : (m.publishType live v).1.legs = m.legs := rfl

@[simp] theorem overlay_publishType : (m.publishType live v).1.overlay = m.overlay := rfl

/-- What is published last is the current call type. -/
@[simp] theorem current_publishType : (m.publishType live v).1.callType.current = some v :=
  Notifier.current_publishIfChanged m.callType live v

@[simp] theorem overlay_publishEmergencyType :
    (m.publishEmergencyType live v).1.overlay = m.overlay := rfl

/-- So it is on the emergency stream. -/
@[simp] theorem current_publishEmergencyType :
    (m.publishEmergencyType live v).1.emergencyType.current = some v :=
  Notifier.current_publishIfChanged m.emergencyType live v

end Publish

/-! ## A report about a leg -/

section Leg

variable (m : CallMonitor) (live : Liveness) (event : CallEvent)

/-- A report about a leg changes the legs, and publishes their type unless the overlay hides it. -/
theorem updateLeg_eq :
    m.updateLeg live event =
      if m.overlay then ({ m with legs := legsAfter m.legs event }, [])
      else { m with legs := legsAfter m.legs event }.publishType live
        (aggregateLegs (legsAfter m.legs event)) :=
  rfl

/-- A report about a leg changes the legs as it says. -/
@[simp] theorem legs_updateLeg : (m.updateLeg live event).1.legs = legsAfter m.legs event := by
  rw [updateLeg_eq]
  split <;> rfl

/-- It leaves the overlay. -/
@[simp] theorem overlay_updateLeg : (m.updateLeg live event).1.overlay = m.overlay := by
  rw [updateLeg_eq]
  split <;> rfl

/-- A report about a leg touches nothing that is known of the emergency call, and no registry of
poor media. -/
theorem updateLeg_frame :
    (m.updateLeg live event).1.emergency = m.emergency ∧
    (m.updateLeg live event).1.emergencyType = m.emergencyType ∧
    (m.updateLeg live event).1.imsMedia = m.imsMedia ∧
    (m.updateLeg live event).1.emergencyMedia = m.emergencyMedia := by
  rw [updateLeg_eq]
  split <;> exact ⟨rfl, rfl, rfl, rfl⟩

/-- Under the overlay the call type stays, else it is that of the legs. -/
theorem current_updateLeg :
    (m.updateLeg live event).1.callType.current =
      if m.overlay then m.callType.current else some (aggregateLegs (legsAfter m.legs event)) := by
  rw [updateLeg_eq]
  split
  · rfl
  · rw [current_publishType]

end Leg

/-! ## A report about an emergency call -/

/-- An emergency call in this state has to run over the IMS connection. -/
def beginsOverlay (connected : TrafficClass → Bool) (event : CallEvent) : Bool :=
  event.state.isEmergencyInProgress && !connected .emergency && connected .ims

/-- A call that begins the overlay is not disconnected. -/
theorem state_ne_of_beginsOverlay {connected : TrafficClass → Bool} {event : CallEvent}
    (begins : beginsOverlay connected event = true) : event.state ≠ .disconnected := by
  intro ended
  simp [beginsOverlay, ended, LegState.isEmergencyInProgress] at begins

section Emergency

variable (m : CallMonitor) (live : Liveness) {connected : TrafficClass → Bool} {event : CallEvent}

/-- A report that begins the overlay publishes the emergency. -/
theorem updateOverlay_of_begins (begins : beginsOverlay connected event = true) :
    m.updateOverlay live connected event = { m with overlay := true }.publishType live .emergency :=
  if_pos begins

/-- The end of the overlay publishes the type of the legs if emergency was published last. -/
theorem updateOverlay_of_ended (ended : event.state = .disconnected) :
    m.updateOverlay live connected event =
      if m.callType.current = some .emergency then
        { m with overlay := false }.publishType live (aggregateLegs m.legs)
      else ({ m with overlay := false }, []) :=
  (if_neg fun begins => state_ne_of_beginsOverlay begins ended).trans (if_pos ended)

/-- A report that neither begins it nor ends a call does nothing. -/
theorem updateOverlay_of_neither (begins : ¬ beginsOverlay connected event = true)
    (ended : event.state ≠ .disconnected) : m.updateOverlay live connected event = (m, []) :=
  (if_neg begins).trans (if_neg ended)

/-- The overlay touches nothing but itself and the call type. -/
theorem updateOverlay_frame :
    (m.updateOverlay live connected event).1.legs = m.legs ∧
    (m.updateOverlay live connected event).1.emergency = m.emergency ∧
    (m.updateOverlay live connected event).1.emergencyType = m.emergencyType ∧
    (m.updateOverlay live connected event).1.isClosed = m.isClosed ∧
    (m.updateOverlay live connected event).1.imsMedia = m.imsMedia ∧
    (m.updateOverlay live connected event).1.emergencyMedia = m.emergencyMedia := by
  by_cases begins : beginsOverlay connected event = true
  · rw [updateOverlay_of_begins m live begins]
    exact ⟨rfl, rfl, rfl, rfl, rfl, rfl⟩
  · by_cases ended : event.state = .disconnected
    · rw [updateOverlay_of_ended m live ended]
      split <;> exact ⟨rfl, rfl, rfl, rfl, rfl, rfl⟩
    · rw [updateOverlay_of_neither m live begins ended]
      exact ⟨rfl, rfl, rfl, rfl, rfl, rfl⟩

/-- The overlay is on after its beginning, off after an end, and else as before. -/
theorem overlay_updateOverlay :
    (m.updateOverlay live connected event).1.overlay =
      if beginsOverlay connected event then true else if event.state = .disconnected then false
        else m.overlay := by
  by_cases begins : beginsOverlay connected event = true
  · rw [updateOverlay_of_begins m live begins, if_pos begins, overlay_publishType]
  · rw [if_neg begins]
    by_cases ended : event.state = .disconnected
    · rw [updateOverlay_of_ended m live ended, if_pos ended]
      split <;> rfl
    · rw [updateOverlay_of_neither m live begins ended, if_neg ended]

/-- A report that is not about the kept call is ignored. -/
theorem updateEmergency_of_ignored (ignored : emergencyAfter m.emergency event = none) :
    m.updateEmergency live connected event = (m, []) := by
  rw [updateEmergency, ignored]

/-- A report that counts publishes the type of the emergency stream first, then settles the
overlay. -/
theorem updateEmergency_of_kept {kept : Option EmergencyCall}
    (counts : emergencyAfter m.emergency event = some kept) :
    (m.updateEmergency live connected event).1 =
      (({ m with emergency := kept }.publishEmergencyType live
        (emergencyCallType kept)).1.updateOverlay
        live connected event).1 := by
  rw [updateEmergency, counts]

/-- No report about an emergency call touches a leg. -/
@[simp] theorem legs_updateEmergency :
    (m.updateEmergency live connected event).1.legs = m.legs := by
  cases kept : emergencyAfter m.emergency event with
  | none => rw [updateEmergency_of_ignored m live kept]
  | some call =>
    rw [updateEmergency_of_kept m live kept, (updateOverlay_frame _ live).1]
    rfl

/-- The kept call is the one that the report leaves. -/
@[simp] theorem emergency_updateEmergency :
    (m.updateEmergency live connected event).1.emergency =
      (emergencyAfter m.emergency event).getD m.emergency := by
  cases kept : emergencyAfter m.emergency event with
  | none => rw [updateEmergency_of_ignored m live kept, Option.getD_none]
  | some call =>
    rw [updateEmergency_of_kept m live kept, (updateOverlay_frame _ live).2.1, Option.getD_some]
    rfl

/-- A report that counts publishes the type of the emergency call, any other leaves the one
published last. -/
theorem emergencyType_updateEmergency :
    (m.updateEmergency live connected event).1.emergencyType.current =
      match emergencyAfter m.emergency event with
      | none => m.emergencyType.current
      | some kept => some (emergencyCallType kept) := by
  cases kept : emergencyAfter m.emergency event with
  | none => rw [updateEmergency_of_ignored m live kept]
  | some call =>
    rw [updateEmergency_of_kept m live kept, (updateOverlay_frame _ live).2.2.1,
      current_publishEmergencyType]

/-- The overlay is on after a report that begins it, and stays on unless the kept call is taken
away. -/
theorem overlay_updateEmergency :
    (m.updateEmergency live connected event).1.overlay = true ↔
      beginsOverlay connected event = true ∨ m.overlay = true ∧
        emergencyAfter m.emergency event ≠ some none := by
  cases kept : emergencyAfter m.emergency event with
  | none =>
    have quiet : ¬ beginsOverlay connected event = true := fun begins => by
      rw [emergencyAfter_of_there _ (state_ne_of_beginsOverlay begins)] at kept
      cases kept
    rw [updateEmergency_of_ignored m live kept]
    simp [quiet]
  | some call =>
    rw [updateEmergency_of_kept m live kept, overlay_updateOverlay, overlay_publishEmergencyType]
    by_cases begins : beginsOverlay connected event = true
    · simp [begins]
    · by_cases ended : event.state = .disconnected
      · obtain taken | ignored := emergencyAfter_of_ended m.emergency ended
        · obtain rfl := Option.some.inj (kept.symm.trans taken)
          simp [begins, ended]
        · rw [ignored] at kept
          cases kept
      · rw [emergencyAfter_of_there _ ended] at kept
        obtain rfl := Option.some.inj kept
        simp [begins, ended]

theorem media_updateEmergency :
    (m.updateEmergency live connected event).1.imsMedia = m.imsMedia ∧
    (m.updateEmergency live connected event).1.emergencyMedia = m.emergencyMedia := by
  cases kept : emergencyAfter m.emergency event with
  | none =>
    rw [updateEmergency_of_ignored m live kept]
    exact ⟨rfl, rfl⟩
  | some call =>
    rw [updateEmergency_of_kept m live kept]
    exact (updateOverlay_frame _ live).2.2.2.2

end Emergency

/-! ## One request -/

/-- What is known of calls is the same, and so are the two call types. -/
structure SameCalls (m n : CallMonitor) : Prop where
  legs : n.legs = m.legs
  emergency : n.emergency = m.emergency
  overlay : n.overlay = m.overlay
  callType : n.callType.current = m.callType.current
  emergencyType : n.emergencyType.current = m.emergencyType.current
  isClosed : n.isClosed = m.isClosed

theorem SameCalls.refl (m : CallMonitor) : SameCalls m m := ⟨rfl, rfl, rfl, rfl, rfl, rfl⟩

theorem SameCalls.trans {m n k : CallMonitor} (first : SameCalls m n) (second : SameCalls n k) :
    SameCalls m k where
  legs := second.legs.trans first.legs
  emergency := second.emergency.trans first.emergency
  overlay := second.overlay.trans first.overlay
  callType := second.callType.trans first.callType
  emergencyType := second.emergencyType.trans first.emergencyType
  isClosed := second.isClosed.trans first.isClosed

/-- A registration does not change what is known of calls. -/
theorem sameCalls_register (m : CallMonitor) (live : Liveness) (c : ConsumerId) (tag : Tag)
    (stream : CallStream) :
    SameCalls m (m.register live c tag stream).1 := by
  cases stream <;> exact ⟨rfl, rfl, rfl, rfl, rfl, rfl⟩

/-- Nor does a removal. -/
theorem sameCalls_unregister (m : CallMonitor) (c : ConsumerId) (stream : CallStream) :
    SameCalls m (m.unregister c stream) := by
  cases stream <;> exact ⟨rfl, rfl, rfl, rfl, rfl, rfl⟩

theorem sameCalls_withMediaRegistry (m : CallMonitor) (c : TrafficClass) (r : Registry) :
    SameCalls m (m.withMediaRegistry c r) := by
  cases c <;> exact ⟨rfl, rfl, rfl, rfl, rfl, rfl⟩

/-- The monitor after a report about a call, leg or emergency. -/
def afterReport (m : CallMonitor) (live : Liveness) (connected : TrafficClass → Bool)
    (event : CallEvent) : CallMonitor :=
  if event.kind = .emergency then (m.updateEmergency live connected event).1
    else (m.updateLeg live event).1

/-- A closed monitor takes no report. -/
theorem next_update_of_closed {m : CallMonitor} (closed : m.isClosed = true) (live : Liveness)
    (connected : TrafficClass → Bool) (event : CallEvent) :
    m.next ⟨live, connected, .update event⟩ = m := by
  simp [next, step, closed]

/-- An open one takes every report. -/
theorem next_update_of_open {m : CallMonitor} (isOpen : m.isClosed = false) (live : Liveness)
    (connected : TrafficClass → Bool) (event : CallEvent) :
    m.next ⟨live, connected, .update event⟩ = m.afterReport live connected event := by
  simp only [next, step, isOpen, Bool.false_eq_true, if_false, afterReport]
  split <;> rfl

theorem isClosed_updateOverlay (m : CallMonitor) (live : Liveness) (connected : TrafficClass → Bool)
    (event : CallEvent) : (m.updateOverlay live connected event).1.isClosed = m.isClosed := by
  by_cases begins : beginsOverlay connected event = true
  · rw [updateOverlay_of_begins m live begins]
    rfl
  · by_cases ended : event.state = .disconnected
    · rw [updateOverlay_of_ended m live ended]
      split <;> rfl
    · rw [updateOverlay_of_neither m live begins ended]

/-- No report closes a monitor. -/
theorem isClosed_afterReport (m : CallMonitor) (live : Liveness) (connected : TrafficClass → Bool)
    (event : CallEvent) :
    (m.afterReport live connected event).isClosed = m.isClosed := by
  unfold CallMonitor.afterReport
  split
  · unfold updateEmergency
    split
    · rfl
    · exact isClosed_updateOverlay _ live connected event
  · rw [updateLeg_eq]
    split <;> rfl

/-- After a closing the monitor is closed. -/
theorem isClosed_next_close (m : CallMonitor) (live : Liveness) (connected : TrafficClass → Bool) :
    (m.next ⟨live, connected, .close⟩).isClosed = true := by
  unfold next step close
  dsimp only
  split
  · assumption
  · rfl

/-- A request that neither brings a report nor closes leaves everything known of calls as it was. -/
theorem sameCalls_next (m : CallMonitor) (t : Moment) (quiet : t.report? = none)
    (notClose : t.op ≠ .close) :
    SameCalls m (m.next t) := by
  obtain ⟨live, connected, op⟩ := t
  cases op with
  | update event => cases quiet
  | poorMedia r => exact ⟨rfl, rfl, rfl, rfl, rfl, rfl⟩
  | requestThresholds r =>
    unfold next step
    dsimp only
    split <;> exact ⟨rfl, rfl, rfl, rfl, rfl, rfl⟩
  | preferTransport t => exact ⟨rfl, rfl, rfl, rfl, rfl, rfl⟩
  | tryWfc trying => exact ⟨rfl, rfl, rfl, rfl, rfl, rfl⟩
  | register stream c tag => exact sameCalls_register m live c tag stream
  | unregister stream c => exact sameCalls_unregister m c stream
  | registerMedia raw c tag =>
    unfold next step
    dsimp only
    split
    · exact .refl m
    · exact sameCalls_withMediaRegistry m _ _
  | unregisterMedia raw c =>
    unfold next step
    dsimp only
    split
    · exact .refl m
    · exact sameCalls_withMediaRegistry m _ _
  | close => exact absurd rfl notClose

/-- A monitor that is open after a request was open before it, and the request was a report about a
call or left everything known of calls as it was. -/
theorem next_cases (m : CallMonitor) (t : Moment) (stillOpen : (m.next t).isClosed = false) :
    m.isClosed = false ∧
      ((∃ event, t.report? = some event ∧ m.next t = m.afterReport t.live t.connected event) ∨
        t.report? = none ∧ SameCalls m (m.next t)) := by
  obtain ⟨live, connected, op⟩ := t
  cases report : Moment.report? ⟨live, connected, op⟩ with
  | some event =>
    obtain rfl : op = .update event := by
      cases op <;> simp_all [Moment.report?]
    have isOpen : m.isClosed = false := by
      cases closed : m.isClosed with
      | false => rfl
      | true => rw [← closed, ← stillOpen, next_update_of_closed closed]
    exact ⟨isOpen, Or.inl ⟨event, rfl, next_update_of_open isOpen live connected event⟩⟩
  | none =>
    have notClose : op ≠ .close := by
      rintro rfl
      rw [isClosed_next_close] at stillOpen
      cases stillOpen
    have same := sameCalls_next m ⟨live, connected, op⟩ report notClose
    exact ⟨same.isClosed ▸ stillOpen, Or.inr ⟨rfl, same⟩⟩

end CallMonitor

end AccessStatus
