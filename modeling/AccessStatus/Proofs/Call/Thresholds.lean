import AccessStatus.Proofs.Call.Overlay

/-!
# Who is given which thresholds

A request for thresholds is pushed at once to a call of its own class: for IMS to the talking leg
with the least number, for emergencies to the kept call if it is active (`pushed_request`). The
monitor remembers the last accepted request, one for both classes (`pending_after`), and gives it to
every call that is reported active. The main statement, `pushes_run`, says exactly when that is the
last request of the call's own class: when it is the last request of all.
-/

namespace AccessStatus

/-! ## Talking legs -/

/-- A voice or video report said that the call is active, and none after it that it is on hold or
disconnected. -/
def Talking (events : List CallEvent) (id : CallId) : Prop :=
  Standing (fun e => e.IsAboutLeg id ∧ e.state = .active)
    (fun e => e.IsAboutLeg id ∧ (e.state = .holding ∨ e.state = .disconnected)) events

/-- A leg is talking from a report that it is active until it is held or disconnected. -/
theorem talking_concat (events : List CallEvent) (e : CallEvent) (id : CallId) :
    Talking (events ++ [e]) id ↔ (e.IsAboutLeg id ∧ e.state = .active) ∨
      Talking events id ∧ ¬ (e.IsAboutLeg id ∧ (e.state = .holding ∨ e.state = .disconnected)) :=
  standing_concat _ _ events e

theorem talking_concat_of_not_about {events : List CallEvent} {e : CallEvent} {id : CallId}
    (other : ¬ e.IsAboutLeg id) :
    Talking (events ++ [e]) id ↔ Talking events id := by
  rw [talking_concat]
  simp [other]

/-- A leg that is known as active. -/
def Leg.isActive (leg : Leg) : Bool := leg.state = .active

/-- A leg is active by its state alone. -/
theorem Leg.isActive_iff (leg : Leg) : leg.isActive = true ↔ leg.state = .active :=
  decide_eq_true_iff

/-- The legs known as active are those that talk. -/
def TalkingFit (legs : Table CallId Leg) (events : List CallEvent) : Prop :=
  ∀ id, (∃ leg, legs.get? id = some leg ∧ leg.state = .active) ↔ Talking events id

theorem talkingFit_nil : TalkingFit .empty [] := fun id => by simp [Talking, not_standing_nil]

/-- A report about a leg keeps the legs that are active in step with those that talk by the
history. -/
theorem talkingFit_concat {legs : Table CallId Leg} {events : List CallEvent}
    (fits : TalkingFit legs events) {e : CallEvent} (isLeg : e.kind ≠ .emergency) :
    TalkingFit (legsAfter legs e) (events ++ [e]) := by
  intro id
  rw [get?_legsAfter]
  split
  · rename_i same
    have about : e.IsAboutLeg id := ⟨same.symm, isLeg⟩
    rw [talking_concat, ← fits id]
    cases legs.get? id <;> cases state : e.state <;>
      simp [legAfter, state, CallEvent.IsAboutLeg, about.1, about.2]
  · rename_i other
    rw [talking_concat_of_not_about fun about => other about.1.symm]
    exact fits id

/-- A report about an emergency call is of no concern for them. -/
theorem talkingFit_concat_emergency {legs : Table CallId Leg} {events : List CallEvent}
    (fits : TalkingFit legs events) {e : CallEvent} (isEmergency : e.kind = .emergency) :
    TalkingFit legs (events ++ [e]) := by
  intro id
  rw [talking_concat_of_not_about fun about => about.2 isEmergency]
  exact fits id

/-- The call with the least number of those with the property, if there are any. -/
def IsFirst (P : CallId → Prop) : Option CallId → Prop
  | none => ∀ id, ¬ P id
  | some id => P id ∧ ∀ other, P other → id.value ≤ other.value

namespace CallMonitor

/-- Thresholds for another class than emergency go to the talking leg with the least number. -/
theorem isFirst_activeCall {m : CallMonitor} {events : List CallEvent}
    (fits : TalkingFit m.legs events) :
    IsFirst (Talking events) (m.activeCall .ims) := by
  show IsFirst (Talking events) ((m.legs.entries.find? fun x => x.2.isActive).map Prod.fst)
  cases found : m.legs.entries.find? fun x => x.2.isActive with
  | none =>
    intro id talks
    obtain ⟨leg, known, active⟩ := (fits id).2 talks
    exact Table.find?_entries_eq_none found known (leg.isActive_iff.2 active)
  | some x =>
    obtain ⟨id, leg⟩ := x
    obtain ⟨known, active, least⟩ := Table.find?_entries_eq_some found
    refine ⟨(fits id).1 ⟨leg, known, leg.isActive_iff.1 active⟩, fun other talks => ?_⟩
    obtain ⟨leg, known, active⟩ := (fits other).2 talks
    exact UInt32.le_iff_toNat_le.2 (least other leg known (leg.isActive_iff.2 active))

/-! ## What is remembered -/

/-- The request for thresholds that is accepted at a moment. -/
def Moment.accepted? (t : Moment) : Option ThresholdRequest :=
  match t.op with
  | .requestThresholds r => if r.trafficClass.carriesMedia then some r else none
  | _ => none

section Keeps

variable (m : CallMonitor) (live : Liveness)

theorem keeps_updateOverlay (connected : TrafficClass → Bool) (event : CallEvent) :
    (m.updateOverlay live connected event).1.slot = m.slot ∧
      (m.updateOverlay live connected event).1.pending = m.pending := by
  by_cases begins : beginsOverlay connected event = true
  · rw [updateOverlay_of_begins m live begins]
    exact ⟨rfl, rfl⟩
  · by_cases ended : event.state = .disconnected
    · rw [updateOverlay_of_ended m live ended]
      split <;> exact ⟨rfl, rfl⟩
    · rw [updateOverlay_of_neither m live begins ended]
      exact ⟨rfl, rfl⟩

/-- A report about an emergency call leaves the slot and the pending request. -/
theorem keeps_updateEmergency (connected : TrafficClass → Bool) (event : CallEvent) :
    (m.updateEmergency live connected event).1.slot = m.slot ∧
      (m.updateEmergency live connected event).1.pending = m.pending := by
  unfold updateEmergency
  split
  · exact ⟨rfl, rfl⟩
  · exact keeps_updateOverlay _ live connected event

/-- So does a report about a leg. -/
theorem keeps_updateLeg (event : CallEvent) :
    (m.updateLeg live event).1.slot = m.slot ∧ (m.updateLeg live event).1.pending = m.pending := by
  rw [updateLeg_eq]
  split <;> exact ⟨rfl, rfl⟩

/-- A monitor stays with its slot, and remembers the request that it accepts, or else the one
before. -/
theorem keeps_next (t : Moment) :
    (m.next t).slot = m.slot ∧ (m.next t).pending = t.accepted?.or m.pending := by
  obtain ⟨live, connected, op⟩ := t
  cases op with
  | update event =>
    unfold next step
    dsimp only
    split
    · exact ⟨rfl, rfl⟩
    · split
      · exact m.keeps_updateEmergency live connected event
      · exact m.keeps_updateLeg live event
  | requestThresholds r =>
    unfold next step checkRequest Moment.accepted?
    dsimp only
    -- a class without media is refused, and nothing is remembered of it
    cases r.trafficClass.carriesMedia <;> exact ⟨rfl, rfl⟩
  | register stream c tag => cases stream <;> exact ⟨rfl, rfl⟩
  | unregister stream c => cases stream <;> exact ⟨rfl, rfl⟩
  | registerMedia raw c tag | unregisterMedia raw c =>
    unfold next step
    dsimp only
    split
    · exact ⟨rfl, rfl⟩
    · unfold withMediaRegistry
      split <;> exact ⟨rfl, rfl⟩
  | close =>
    show m.close.slot = m.slot ∧ m.close.pending = m.pending
    unfold close
    split <;> exact ⟨rfl, rfl⟩
  | poorMedia r => exact ⟨rfl, rfl⟩
  | preferTransport transport => exact ⟨rfl, rfl⟩
  | tryWfc trying => exact ⟨rfl, rfl⟩

end Keeps

/-- The request remembered after a run is the last one accepted, of whatever class. -/
theorem pending_after (slot : SlotIndex) (run : List Moment) :
    ((fresh slot).after run).slot = slot ∧
      ((fresh slot).after run).pending = latest Moment.accepted? run := by
  induction run using List.reverseRecOn with
  | nil => exact ⟨rfl, rfl⟩
  | append_singleton run t ih =>
    obtain ⟨slots, remembers⟩ := ((fresh slot).after run).keeps_next t
    rw [after_concat, slots, remembers, latest_concat, ih.1, ih.2]
    exact ⟨rfl, rfl⟩

/-- The legs known as active after a run that leaves the monitor open are those that talk. -/
theorem talkingFit_after (slot : SlotIndex) (run : List Moment)
    (isOpen : ((fresh slot).after run).isClosed = false) :
    TalkingFit ((fresh slot).after run).legs (reports run) := by
  induction run using List.reverseRecOn with
  | nil => exact talkingFit_nil
  | append_singleton run t ih =>
    rw [after_concat] at isOpen ⊢
    rw [reports_concat]
    obtain ⟨before, ⟨event, brings, result⟩ | ⟨quiet, same⟩⟩ := next_cases _ t isOpen
    · rw [result, brings, afterReport]
      split
      · rw [legs_updateEmergency]
        exact talkingFit_concat_emergency (ih before) (by assumption)
      · rw [legs_updateLeg]
        exact talkingFit_concat (ih before) (by assumption)
    · rw [quiet, same.legs]
      simpa using ih before

/-! ## What is pushed -/

/-- What is pushed to the media stack at a moment. -/
def pushed (m : CallMonitor) (t : Moment) : List ThresholdPush :=
  (m.step t.live t.connected t.op).pushed

/-- A request for a class that carries no media is refused; any other is accepted and pushed to the
call it is for. -/
theorem step_requestThresholds (m : CallMonitor) (live : Liveness)
    (connected : TrafficClass → Bool) (r : ThresholdRequest) :
    ((m.step live connected (.requestThresholds r)).answer,
      m.pushed ⟨live, connected, .requestThresholds r⟩) =
      if r.trafficClass.carriesMedia then
        (.accepted, (m.activeCall r.trafficClass).toList.map fun call => ⟨m.slot, call, r⟩)
      else (.refused (.invalidTrafficClass r.trafficClass.raw), []) := by
  unfold pushed step checkRequest
  dsimp only
  cases r.trafficClass.carriesMedia <;> rfl

/-- An open monitor gives every call that is reported active the request it remembers. -/
theorem pushed_update {m : CallMonitor} (isOpen : m.isClosed = false) (live : Liveness)
    (connected : TrafficClass → Bool) (event : CallEvent) :
    m.pushed ⟨live, connected, .update event⟩ =
      if event.state = .active then m.pending.toList.map fun r =>
        ⟨m.slot, event.id, r⟩ else [] := by
  unfold pushed step
  dsimp only
  rw [if_neg (by simp [isOpen])]
  rfl

/-- Nothing but a report about a call and a request for thresholds pushes. -/
theorem pushed_of_other (m : CallMonitor) {t : Moment} (quiet : t.report? = none)
    (asksNone : t.accepted? = none) :
    m.pushed t = [] := by
  obtain ⟨live, connected, op⟩ := t
  cases op with
  | update event => cases quiet
  | requestThresholds r =>
    have refused : r.trafficClass.carriesMedia = false := by simpa [Moment.accepted?] using asksNone
    have both := m.step_requestThresholds live connected r
    rw [refused] at both
    exact congrArg Prod.snd both
  | registerMedia raw c tag | unregisterMedia raw c =>
    unfold pushed step
    dsimp only
    split <;> rfl
  | poorMedia r => rfl
  | preferTransport transport => rfl
  | tryWfc trying => rfl
  | register stream c tag => rfl
  | unregister stream c => rfl
  | close => rfl

/-! ## The rule and what becomes of it -/

/-- The class over which a call runs by its kind. -/
def mediaClassOf (event : CallEvent) : TrafficClass :=
  if event.kind = .emergency then .emergency else .ims

/-- The last request accepted for a class. -/
def requestedFor (c : TrafficClass) (run : List Moment) : Option ThresholdRequest :=
  latest (fun t => t.accepted?.filter fun r => r.trafficClass = c) run

/-- What a request for thresholds, a report about a call or anything else pushes after a run. -/
structure Pushes (slot : SlotIndex) (run : List Moment) (t : Moment) : Prop where
  /-- A request for IMS is pushed at once to the talking leg with the least number. -/
  ims : ∀ r, t.op = .requestThresholds r → r.trafficClass = .ims →
    t.accepted? = some r ∧ ∃ call, IsFirst (Talking (reports run)) call ∧
      ((fresh slot).after run).pushed t = call.toList.map fun id => ⟨slot, id, r⟩
  /-- A request for emergencies is pushed at once to the kept call if it is active. -/
  emergency : ∀ r, t.op = .requestThresholds r → r.trafficClass = .emergency →
    t.accepted? = some r ∧
      ((fresh slot).after run).pushed t =
        ((keptCall (reports run)).filter fun call => call.state = .active).toList.map
          fun call => ⟨slot, call.id, r⟩
  /-- A call that is reported active is given the last accepted request, of whatever class. -/
  active : ∀ event, t.op = .update event → event.state = .active →
    ((fresh slot).after run).pushed t =
      (latest Moment.accepted? run).toList.map fun r => ⟨slot, event.id, r⟩
  /-- That is the last request accepted for its own class exactly if the last one of all is for that
  class, or there is none. -/
  byClass : ∀ event, t.op = .update event → event.state = .active →
    (((fresh slot).after run).pushed t =
        (requestedFor (mediaClassOf event) run).toList.map (fun r => ⟨slot, event.id, r⟩) ↔
      ∀ r ∈ latest Moment.accepted? run, r.trafficClass = mediaClassOf event)
  /-- Nothing else pushes. -/
  silent : t.accepted? = none → (∀ event, t.op = .update event → event.state ≠ .active) →
    ((fresh slot).after run).pushed t = []

/-- The rule for calls that are reported active holds as long as the last request is for the call's
class. -/
theorem latest_eq_requestedFor_iff (c : TrafficClass) (run : List Moment) :
    requestedFor c run = latest Moment.accepted? run ↔
      ∀ r ∈ latest Moment.accepted? run, r.trafficClass = c := by
  rw [requestedFor, latest_filter_eq_iff]
  simp only [decide_eq_true_eq]

/-- Different requests are different pushes. -/
theorem map_push_inj (slot : SlotIndex) (call : CallId) {a b : Option ThresholdRequest} :
    a.toList.map (fun r => (⟨slot, call, r⟩ : ThresholdPush)) =
      b.toList.map (fun r => ⟨slot, call, r⟩) ↔ b = a := by
  cases a <;> cases b <;> simp [eq_comm]

/-- At every moment of a run that leaves the monitor open, it pushes what the requests and the
reports so far say. -/
theorem pushes_run (slot : SlotIndex) (run : List Moment) (t : Moment)
    (isOpen : ((fresh slot).after run).isClosed = false) :
    Pushes slot run t := by
  obtain ⟨slots, pending⟩ := pending_after slot run
  obtain ⟨live, connected, op⟩ := t
  have request (r : ThresholdRequest) (carries : r.trafficClass.carriesMedia = true) :
      Moment.accepted? ⟨live, connected, .requestThresholds r⟩ = some r ∧
        ((fresh slot).after run).pushed ⟨live, connected, .requestThresholds r⟩ =
          (((fresh slot).after run).activeCall r.trafficClass).toList.map fun call =>
            ⟨slot, call, r⟩ := by
    have both := ((fresh slot).after run).step_requestThresholds live connected r
    rw [if_pos carries, slots] at both
    exact ⟨if_pos carries, congrArg Prod.snd both⟩
  -- the request pushed is the last accepted one of either class, which is the last of the class of
  -- the call only if that came last
  have active (event : CallEvent) (isActive : event.state = .active) :
      ((fresh slot).after run).pushed ⟨live, connected, .update event⟩ =
        (latest Moment.accepted? run).toList.map fun r => ⟨slot, event.id, r⟩ := by
    rw [pushed_update isOpen, if_pos isActive, slots, pending]
  refine ⟨?_, ?_, ?_, ?_, ?_⟩
  · rintro r rfl forIms
    obtain ⟨accepted, pushes⟩ := request r (by rw [forIms]; rfl)
    rw [forIms] at pushes
    exact ⟨accepted, _, isFirst_activeCall (talkingFit_after slot run isOpen), pushes⟩
  · rintro r rfl forEmergency
    obtain ⟨accepted, pushes⟩ := request r (by rw [forEmergency]; rfl)
    rw [forEmergency, activeCall, (emergencyFits_after slot run isOpen).kept, Option.toList_map,
      List.map_map] at pushes
    exact ⟨accepted, pushes⟩
  · rintro event rfl isActive
    exact active event isActive
  · rintro event rfl isActive
    rw [active event isActive, map_push_inj]
    exact latest_eq_requestedFor_iff (mediaClassOf event) run
  · intro asksNone idle
    cases report : Moment.report? ⟨live, connected, op⟩ with
    | none => exact pushed_of_other _ report asksNone
    | some event =>
      obtain rfl : op = .update event := by
        cases op <;> simp_all [Moment.report?]
      rw [pushed_update isOpen, if_neg (idle event rfl)]

/-- Limits for IMS calls. -/
def imsLimits : ThresholdRequest := ⟨.ims, ⟨1, 2, 3, 4⟩⟩

/-- Limits for emergency calls. -/
def emergencyLimits : ThresholdRequest := ⟨.emergency, ⟨5, 6, 7, 8⟩⟩

/-- Something is asked while all consumers are live and all sessions exist. -/
def plainly (op : Op) : Moment := ⟨fun _ => true, fun _ => true, op⟩

/-- Two calls are up when limits are asked for, first for IMS and then for emergencies. -/
def bothLimits : List Moment :=
  [plainly (.update ⟨⟨7⟩, .voice, .active⟩), plainly (.update ⟨⟨3⟩, .video, .active⟩),
    plainly (.requestThresholds imsLimits), plainly (.requestThresholds emergencyLimits)]

/-- When the limits for IMS are asked for again, the leg with the lesser number is given them. -/
theorem pushes_run_bothLimits :
    ((fresh ⟨0⟩).after bothLimits).isClosed = false ∧
      Pushes ⟨0⟩ bothLimits (plainly (.requestThresholds imsLimits)) ∧
      ((fresh ⟨0⟩).after bothLimits).pushed (plainly (.requestThresholds imsLimits)) =
        [⟨⟨0⟩, ⟨3⟩, imsLimits⟩] :=
  ⟨by decide, pushes_run ⟨0⟩ bothLimits _ (by decide), by decide⟩

/-- Another voice call that becomes active now is given the limits for emergencies, though some were
asked for IMS. So calls are not always given the last request of their own class. -/
theorem voice_given_emergencyLimits :
    let answered : CallEvent := ⟨⟨1⟩, .voice, .active⟩
    ((fresh ⟨0⟩).after bothLimits).isClosed = false ∧
      requestedFor .ims bothLimits = some imsLimits ∧
      ((fresh ⟨0⟩).after bothLimits).pushed (plainly (.update answered)) =
        [⟨⟨0⟩, ⟨1⟩, emergencyLimits⟩] ∧
      ¬ ∀ slot run t event, ((fresh slot).after run).isClosed = false → t.op = .update event →
        event.kind ≠ .emergency → event.state = .active →
        ((fresh slot).after run).pushed t = (requestedFor .ims run).toList.map fun r =>
          ⟨slot, event.id, r⟩ := by
  intro answered
  refine ⟨by decide, by decide, by decide, fun always => ?_⟩
  have given :=
    always ⟨0⟩ bothLimits (plainly (.update answered)) answered (by decide) rfl (by decide) rfl
  exact absurd given (by decide)

end CallMonitor

end AccessStatus
