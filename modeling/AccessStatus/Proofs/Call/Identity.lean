import AccessStatus.Proofs.Call.Overlay

/-!
# One identity in two stores

Voice and video reports concern the legs, emergency reports the one emergency call that is kept.
Both go by the same identities, but each family of reports has its own store, and neither looks into
the other's. So a call that is reported in both families can be in both stores at once, and a
disconnection takes it out of one of them only. For a call that keeps to one family neither happens.
Where an identity is to be found is read off the reports of each family by themselves (`Ongoing`,
`Called`); the main statement, `stores_by_family`, says what follows for one identity in both
stores.
-/

namespace AccessStatus

namespace CallEvent

/-- The report is about the emergency call with this identity. -/
abbrev IsAboutEmergency (event : CallEvent) (id : CallId) : Prop :=
  event.id = id ∧ event.kind = .emergency

/-- The emergency report ends this call, or says that another one is there. -/
def Displaces (event : CallEvent) (id : CallId) : Prop :=
  event.kind = .emergency ∧ (event.id = id ↔ event.state = .disconnected)

end CallEvent

/-- An emergency report said that the call is there, and none after it ended it or said that another
one is there. -/
def Called (events : List CallEvent) (id : CallId) : Prop :=
  Standing (fun e => e.IsAboutEmergency id ∧ e.state ≠ .disconnected)
    (fun e => e.Displaces id) events

/-- All reports about a call are of voice or video, or all are of an emergency. -/
def KeepsToFamily (events : List CallEvent) (id : CallId) : Prop :=
  (∀ e ∈ events, e.id = id → e.kind ≠ .emergency) ∨ ∀ e ∈ events, e.id = id → e.kind = .emergency

/-! ## The emergency call that is kept -/

/-- An emergency call is there by the history from its report until another one displaces it or it
is disconnected. -/
theorem called_concat (events : List CallEvent) (e : CallEvent) (id : CallId) :
    Called (events ++ [e]) id ↔
      (e.IsAboutEmergency id ∧ e.state ≠ .disconnected) ∨ Called events id ∧ ¬ e.Displaces id :=
  standing_concat _ _ events e

/-- A disconnection takes the call away that it is about, and no other. -/
theorem emergencyAfter_id_of_ended (kept : Option EmergencyCall) {e : CallEvent}
    (ended : e.state = .disconnected) (id : CallId) :
    ((emergencyAfter kept e).getD kept).map EmergencyCall.id = some id ↔
      kept.map EmergencyCall.id = some id ∧ e.id ≠ id := by
  unfold emergencyAfter
  rw [if_pos ended]
  cases kept with
  | none => simp
  | some call =>
    by_cases same : call.id = e.id
    · simp [same]
    · simp only [same, if_false, Option.getD_none, Option.map_some, Option.some_inj]
      constructor
      · rintro rfl
        exact ⟨rfl, Ne.symm same⟩
      · exact And.left

/-- The call that is kept is the one that was called. -/
theorem keptCall_id_iff (events : List CallEvent) (id : CallId) :
    (keptCall events).map EmergencyCall.id = some id ↔ Called events id := by
  induction events using List.reverseRecOn with
  | nil =>
    have never : ¬ Called [] id := not_standing_nil _ _
    simp [never, keptCall]
  | append_singleton events e ih =>
    rw [called_concat, ← ih]
    by_cases isEmergency : e.kind = .emergency
    · rw [keptCall_concat events isEmergency]
      by_cases ended : e.state = .disconnected
      · rw [emergencyAfter_id_of_ended _ ended]
        simp [CallEvent.Displaces, isEmergency, ended]
      · rw [emergencyAfter_of_there _ ended]
        by_cases same : e.id = id <;>
          simp [CallEvent.IsAboutEmergency, CallEvent.Displaces, isEmergency, ended, same]
    · rw [keptCall_concat_leg events isEmergency]
      simp [CallEvent.IsAboutEmergency, CallEvent.Displaces, isEmergency]

/-! ## Calls that keep to one family -/

/-- A voice or video report and an emergency report about one call. -/
theorem not_keepsToFamily {events : List CallEvent} {id : CallId} {leg call : CallEvent}
    (legMem : leg ∈ events) (aboutLeg : leg.IsAboutLeg id) (callMem : call ∈ events)
    (aboutCall : call.IsAboutEmergency id) :
    ¬ KeepsToFamily events id := by
  rintro (legs | emergencies)
  · exact legs call callMem aboutCall.1 aboutCall.2
  · exact aboutLeg.2 (emergencies leg legMem aboutLeg.1)

/-- A leg that is there was reported as one. -/
theorem Ongoing.reported {events : List CallEvent} {id : CallId} (ongoing : Ongoing events id) :
    ∃ leg ∈ events, leg.IsAboutLeg id := by
  obtain ⟨leg, mem, about, -⟩ := Standing.exists_sets ongoing
  exact ⟨leg, mem, about⟩

/-- An emergency call that is there was reported as one. -/
theorem Called.reported {events : List CallEvent} {id : CallId} (called : Called events id) :
    ∃ call ∈ events, call.IsAboutEmergency id := by
  obtain ⟨call, mem, about, -⟩ := Standing.exists_sets called
  exact ⟨call, mem, about⟩

namespace CallMonitor

/-! ## The two stores -/

/-- The call is a tracked leg. -/
def Tracks (m : CallMonitor) (id : CallId) : Prop := (m.legs.get? id).isSome

/-- The call is the emergency call that is kept. -/
def Stores (m : CallMonitor) (id : CallId) : Prop := m.emergency.map EmergencyCall.id = some id

instance (m : CallMonitor) (id : CallId) : Decidable (m.Tracks id) :=
  inferInstanceAs (Decidable (_ = true))

instance (m : CallMonitor) (id : CallId) : Decidable (m.Stores id) :=
  inferInstanceAs (Decidable (_ = _))

/-- The call is in neither store. -/
def Lacks (m : CallMonitor) (id : CallId) : Prop := ¬ m.Tracks id ∧ ¬ m.Stores id

/-- What a disconnection makes of a monitor: the call is no longer in the store of the family that
the report is of, and the other store is as it was. -/
structure TakesOut (m n : CallMonitor) (event : CallEvent) : Prop where
  leg : event.kind ≠ .emergency → ¬ n.Tracks event.id ∧ n.emergency = m.emergency
  call : event.kind = .emergency → ¬ n.Stores event.id ∧ n.legs = m.legs

/-- A disconnection takes the call out of the store of its family. -/
theorem takesOut_afterReport (m : CallMonitor) (live : Liveness) (connected : TrafficClass → Bool)
    {event : CallEvent} (ended : event.state = .disconnected) :
    TakesOut m (m.afterReport live connected event) event := by
  unfold CallMonitor.afterReport
  by_cases isEmergency : event.kind = .emergency
  · rw [if_pos isEmergency]
    refine ⟨fun isLeg => absurd isEmergency isLeg, fun _ => ⟨?_, legs_updateEmergency ..⟩⟩
    rw [Stores, emergency_updateEmergency, emergencyAfter_id_of_ended _ ended]
    exact fun kept => kept.2 rfl
  · rw [if_neg isEmergency]
    refine ⟨fun _ => ⟨?_, (m.updateLeg_frame live event).1⟩, fun is => absurd is isEmergency⟩
    rw [Tracks, legs_updateLeg, get?_legsAfter, if_pos rfl]
    cases m.legs.get? event.id <;> simp [legAfter, ended]

/-- Two disconnections, one of each family, take a call out of both stores, whichever comes
first. -/
theorem TakesOut.both {m mid n : CallMonitor} {first second : CallEvent}
    (takes : TakesOut m mid first) (takes' : TakesOut mid n second) (same : first.id = second.id)
    (differ : first.kind = .emergency ↔ second.kind ≠ .emergency) : n.Lacks second.id := by
  by_cases isEmergency : first.kind = .emergency
  · obtain ⟨out, kept⟩ := takes'.leg (differ.1 isEmergency)
    refine ⟨out, ?_⟩
    rw [Stores, kept, ← same]
    exact (takes.call isEmergency).1
  · obtain ⟨out, kept⟩ := takes'.call (not_not.1 fun isLeg => isEmergency (differ.2 isLeg))
    refine ⟨?_, out⟩
    rw [Tracks, kept, ← same]
    exact (takes.leg isEmergency).1

/-! ## Any run -/

/-- Each store goes by the reports of its own family: the legs by the voice and video reports, the
emergency call that is kept by the emergency reports. -/
structure Placed (m : CallMonitor) (events : List CallEvent) : Prop where
  tracks : ∀ id, m.Tracks id ↔ Ongoing events id
  stores : ∀ id, m.Stores id ↔ Called events id

/-- After every run that leaves the monitor open, both stores are as the reports say. -/
theorem placed_after (slot : SlotIndex) (run : List Moment)
    (isOpen : ((fresh slot).after run).isClosed = false) :
    ((fresh slot).after run).Placed (reports run) := by
  refine ⟨fun id => ((fits_and_shown_after slot run isOpen).1 id).tracked, fun id => ?_⟩
  rw [Stores, (emergencyFits_after slot run isOpen).kept]
  exact keptCall_id_iff (reports run) id

section Placed

variable {m n : CallMonitor} {events : List CallEvent}

/-- No call that keeps to one family is in both stores. -/
theorem Placed.apart (placed : m.Placed events) {id : CallId} (keeps : KeepsToFamily events id) :
    ¬ (m.Tracks id ∧ m.Stores id) := by
  rintro ⟨tracked, stored⟩
  obtain ⟨leg, legMem, aboutLeg⟩ := ((placed.tracks id).1 tracked).reported
  obtain ⟨call, callMem, aboutCall⟩ := ((placed.stores id).1 stored).reported
  exact not_keepsToFamily legMem aboutLeg callMem aboutCall keeps

/-- What a disconnection leaves as it was did not have the call, if this keeps to one family. -/
theorem Placed.lacks (placed : m.Placed events) {event : CallEvent} (takes : TakesOut m n event)
    (keeps : KeepsToFamily (events ++ [event]) event.id) : n.Lacks event.id := by
  have last : event ∈ events ++ [event] := List.mem_append_right _ List.mem_cons_self
  -- the call can only be where the other family has put it, and there is no report of that
  by_cases isEmergency : event.kind = .emergency
  · obtain ⟨out, same⟩ := takes.call isEmergency
    refine ⟨fun tracked => ?_, out⟩
    rw [Tracks, same] at tracked
    obtain ⟨leg, legMem, aboutLeg⟩ := ((placed.tracks event.id).1 tracked).reported
    exact not_keepsToFamily (List.mem_append_left _ legMem) aboutLeg last ⟨rfl, isEmergency⟩ keeps
  · obtain ⟨out, same⟩ := takes.leg isEmergency
    refine ⟨out, fun stored => ?_⟩
    rw [Stores, same] at stored
    obtain ⟨call, callMem, aboutCall⟩ := ((placed.stores event.id).1 stored).reported
    exact not_keepsToFamily last ⟨rfl, isEmergency⟩ (List.mem_append_left _ callMem) aboutCall keeps

end Placed

/-- Where a call is to be found after these reports. -/
structure StoresByFamily (m : CallMonitor) (events : List CallEvent) :
    Prop extends Placed m events where
  /-- At most one call is in both stores. -/
  single : ∀ id id', m.Tracks id ∧ m.Stores id → m.Tracks id' ∧ m.Stores id' → id = id'
  /-- No call that keeps to one family is. -/
  apart : ∀ id, KeepsToFamily events id → ¬ (m.Tracks id ∧ m.Stores id)
  /-- A disconnection takes the call out of the store of its family, and leaves the other as it
  is. -/
  takesOut : ∀ live connected event, event.state = .disconnected →
    TakesOut m (m.next ⟨live, connected, .update event⟩) event
  /-- A call that keeps to one family is in neither after its disconnection. -/
  gone : ∀ live connected event, event.state = .disconnected →
    KeepsToFamily (events ++ [event]) event.id →
    (m.next ⟨live, connected, .update event⟩).Lacks event.id
  /-- Any call is in neither after one disconnection of each family. -/
  goneInBoth : ∀ live connected live' connected' first second, first.state = .disconnected →
    second.state = .disconnected → first.id = second.id →
      (first.kind = .emergency ↔ second.kind ≠ .emergency) →
    ((m.next ⟨live, connected, .update first⟩).next ⟨live', connected', .update second⟩).Lacks
      second.id

/-- After every run that leaves the monitor open, however the reported kinds of calls change in it,
a call is a leg exactly if its voice and video reports say so and the kept emergency call exactly if
its emergency reports do, and it is disconnected in each family by itself. -/
theorem stores_by_family (slot : SlotIndex) (run : List Moment)
    (isOpen : ((fresh slot).after run).isClosed = false) :
    ((fresh slot).after run).StoresByFamily (reports run) := by
  have placed := placed_after slot run isOpen
  generalize (fresh slot).after run = m at *
  have takesOut (live : Liveness) (connected : TrafficClass → Bool) (event : CallEvent)
      (ended : event.state = .disconnected) :
        TakesOut m (m.next ⟨live, connected, .update event⟩) event := by
    rw [next_update_of_open isOpen]
    exact m.takesOut_afterReport live connected ended
  refine ⟨placed, ?_, fun id => placed.apart, takesOut, ?_, ?_⟩
  · rintro id id' ⟨-, stored⟩ ⟨-, stored'⟩
    exact Option.some_inj.1 (stored.symm.trans stored')
  · intro live connected event ended keeps
    exact placed.lacks (takesOut live connected event ended) keeps
  · intro live connected live' connected' first second ended ended' same differ
    have stillOpen : (m.next ⟨live, connected, .update first⟩).isClosed = false := by
      rw [next_update_of_open isOpen, isClosed_afterReport, isOpen]
    refine (takesOut live connected first ended).both ?_ same differ
    rw [next_update_of_open stillOpen]
    exact takesOut_afterReport _ live' connected' ended'

/-- A voice call that is reported as an emergency call later on. -/
def reclassifiedCall : List Moment :=
  [(CallKind.voice, LegState.active), (.emergency, .active)].map fun (kind, state) =>
    ⟨fun _ => true, fun _ => true, .update ⟨⟨1⟩, kind, state⟩⟩

/-- It is in both stores, and stays in one when it is disconnected. -/
theorem stores_reclassifiedCall :
    ((fresh ⟨0⟩).after reclassifiedCall).isClosed = false ∧
      ((fresh ⟨0⟩).after reclassifiedCall).StoresByFamily (reports reclassifiedCall) ∧
      Ongoing (reports reclassifiedCall) ⟨1⟩ ∧ Called (reports reclassifiedCall) ⟨1⟩ := by
  have byFamily := stores_by_family ⟨0⟩ reclassifiedCall (by decide)
  exact ⟨by decide, byFamily, (byFamily.tracks ⟨1⟩).1 (by decide),
    (byFamily.stores ⟨1⟩).1 (by decide)⟩

/-- So one identity is not one call: it can be in both stores, and in one after its
disconnection. -/
theorem both_stores_reclassifiedCall :
    (¬ ∀ slot run, ((fresh slot).after run).isClosed = false →
        ∀ id, ¬ (((fresh slot).after run).Tracks id ∧ ((fresh slot).after run).Stores id)) ∧
      ¬ ∀ slot run live connected event, ((fresh slot).after run).isClosed = false →
        event.state = .disconnected →
        (((fresh slot).after run).next ⟨live, connected, .update event⟩).Lacks event.id := by
  refine ⟨fun never => ?_, fun always => ?_⟩
  · exact never ⟨0⟩ reclassifiedCall (by decide) ⟨1⟩ (by decide)
  · have lacks :=
      always ⟨0⟩ reclassifiedCall (fun _ => true) (fun _ => true) ⟨⟨1⟩, .emergency, .disconnected⟩
      (by decide) rfl
    exact lacks.1 (by decide)

end CallMonitor

end AccessStatus
