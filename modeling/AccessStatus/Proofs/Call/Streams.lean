import AccessStatus.Proofs.Call.Run
import AccessStatus.Proofs.Stream.Members
import AccessStatus.Proofs.Stream.Subscribers
import AccessStatus.Proofs.Stream.World

/-!
# The streams of a call monitor

Whoever a call monitor sends to is live and registered with it (`Within.step`). To each of the two
streams of call types a request comes to at most one operation on the stream's notifier
(`stream_step`): a report publishes what differs from the value published last, a registration or a
removal on that stream is one of its notifier, and the closing clears it. So a consumer that stays
registered alone hears what is published, each value different from the one before.
-/

namespace AccessStatus

namespace CallMonitor

/-! ## Who is reached -/

/-- All consumers that are registered with a monitor have the property. -/
structure Within (P : ConsumerId → Prop) (m : CallMonitor) : Prop where
  callType : m.callType.registry.Within P
  emergencyType : m.emergencyType.registry.Within P
  preferredTransport : m.preferredTransport.registry.Within P
  tryingWfc : m.tryingWfc.registry.Within P
  imsMedia : m.imsMedia.Within P
  emergencyMedia : m.emergencyMedia.Within P

/-- The consumer that a request registers. -/
def Op.registers : Op → Option ConsumerId
  | .register _ c _ | .registerMedia _ c _ => some c
  | _ => none

section Within

variable {P : ConsumerId → Prop} {m : CallMonitor}

theorem within_fresh (slot : SlotIndex) : (fresh slot).Within P where
  callType := Registry.within_empty _
  emergencyType := Registry.within_empty _
  preferredTransport := Registry.within_empty _
  tryingWfc := Registry.within_empty _
  imsMedia := Registry.within_empty _
  emergencyMedia := Registry.within_empty _

/-- Consumers within a set are within a larger one. -/
theorem Within.mono {Q : ConsumerId → Prop} (within : m.Within P) (more : ∀ c, P c → Q c) :
    m.Within Q where
  callType := within.callType.mono more
  emergencyType := within.emergencyType.mono more
  preferredTransport := within.preferredTransport.mono more
  tryingWfc := within.tryingWfc.mono more
  imsMedia := within.imsMedia.mono more
  emergencyMedia := within.emergencyMedia.mono more

/-- What is published reaches registered consumers only. -/
theorem Within.publishType (within : m.Within P) (live : Liveness) (v : CallType) :
    (m.publishType live v).1.Within P ∧ Reaches live P (m.publishType live v).2 := by
  obtain ⟨kept, reaches⟩ := Notifier.within_publishIfChanged within.callType live v
  exact ⟨{ within with callType := kept }, reaches.map CallNotice.callType⟩

theorem Within.publishEmergencyType (within : m.Within P) (live : Liveness) (v : CallType) :
    (m.publishEmergencyType live v).1.Within P ∧
      Reaches live P (m.publishEmergencyType live v).2 := by
  obtain ⟨kept, reaches⟩ := Notifier.within_publishIfChanged within.emergencyType live v
  exact ⟨{ within with emergencyType := kept }, reaches.map CallNotice.emergencyType⟩

/-- A report about a leg reaches registered consumers only. -/
theorem Within.updateLeg (within : m.Within P) (live : Liveness) (event : CallEvent) :
    (m.updateLeg live event).1.Within P ∧ Reaches live P (m.updateLeg live event).2 := by
  have counted : { m with legs := legsAfter m.legs event }.Within P := { within with }
  rw [updateLeg_eq]
  split
  · exact ⟨counted, reaches_nil⟩
  · exact counted.publishType live _

/-- So does the beginning or end of the overlay. -/
theorem Within.updateOverlay (within : m.Within P) (live : Liveness)
    (connected : TrafficClass → Bool) (event : CallEvent) :
    (m.updateOverlay live connected event).1.Within P ∧
      Reaches live P (m.updateOverlay live connected event).2 := by
  have covered (on : Bool) : { m with overlay := on }.Within P := { within with }
  by_cases begins : beginsOverlay connected event = true
  · rw [updateOverlay_of_begins m live begins]
    exact (covered true).publishType live _
  · by_cases ended : event.state = .disconnected
    · rw [updateOverlay_of_ended m live ended]
      split
      · exact (covered false).publishType live _
      · exact ⟨covered false, reaches_nil⟩
    · rw [updateOverlay_of_neither m live begins ended]
      exact ⟨within, reaches_nil⟩

/-- So does a report about an emergency call. -/
theorem Within.updateEmergency (within : m.Within P) (live : Liveness)
    (connected : TrafficClass → Bool) (event : CallEvent) :
    (m.updateEmergency live connected event).1.Within P ∧
      Reaches live P (m.updateEmergency live connected event).2 := by
  unfold CallMonitor.updateEmergency
  split
  · exact ⟨within, reaches_nil⟩
  · rename_i kept _
    have changed : { m with emergency := kept }.Within P := { within with }
    obtain ⟨told, first⟩ := changed.publishEmergencyType live (emergencyCallType kept)
    obtain ⟨settled, second⟩ := told.updateOverlay live connected event
    exact ⟨settled, first.append second⟩

theorem Within.mediaRegistry (within : m.Within P) (c : TrafficClass) :
    (m.mediaRegistry c).Within P := by
  cases c with
  | emergency => exact within.emergencyMedia
  | _ => exact within.imsMedia

theorem Within.withMediaRegistry (within : m.Within P) (c : TrafficClass) {r : Registry}
    (registry : r.Within P) :
    (m.withMediaRegistry c r).Within P := by
  cases c with
  | emergency => exact { within with emergencyMedia := registry }
  | _ => exact { within with imsMedia := registry }

/-- A report about media reaches registered consumers only. -/
theorem Within.mediaDeliveries (within : m.Within P) (live : Liveness) (r : PoorMedia) :
    Reaches live P (m.mediaDeliveries live r) := by
  have ims : Reaches live P ((m.imsMedia.broadcast live r none).map (·.map CallNotice.imsMedia)) :=
    (within.imsMedia.broadcast live r none).map CallNotice.imsMedia
  have emergency : Reaches live P
      ((m.emergencyMedia.broadcast live r none).map (·.map CallNotice.emergencyMedia)) :=
    (within.emergencyMedia.broadcast live r none).map CallNotice.emergencyMedia
  unfold CallMonitor.mediaDeliveries
  dsimp only
  split
  · exact reaches_nil
  · exact ims
  · exact ims
  · refine emergency.append ?_
    split
    · exact ims
    · exact reaches_nil

theorem Within.afterMedia (within : m.Within P) (live : Liveness) (r : PoorMedia) :
    (m.afterMedia live r).Within P := by
  refine { within with imsMedia := ?_, emergencyMedia := ?_ }
  · unfold CallMonitor.afterMedia
    dsimp only
    split
    · exact within.imsMedia.sweep live
    · exact within.imsMedia
  · unfold CallMonitor.afterMedia
    dsimp only
    split
    · exact within.emergencyMedia.sweep live
    · exact within.emergencyMedia

/-- A registration adds a consumer that is to be there, and reaches nobody else. -/
theorem Within.register (within : m.Within P) (live : Liveness) {c : ConsumerId} (own : P c)
    (tag : Tag) (stream : CallStream) :
    (m.register live c tag stream).1.Within P ∧
      Reaches live P (m.register live c tag stream).2 := by
  cases stream with
  | callType => exact ⟨{ within with callType := within.callType.addUnique own }, reaches_nil⟩
  | emergencyType =>
    exact ⟨{ within with emergencyType := within.emergencyType.addUnique own }, reaches_nil⟩
  | preferredTransport =>
    obtain ⟨kept, reaches⟩ :=
      Notifier.within_registerWithReplay within.preferredTransport live own tag
    exact ⟨{ within with preferredTransport := kept }, reaches.map CallNotice.preferredTransport⟩
  | tryingWfc =>
    obtain ⟨kept, reaches⟩ := Notifier.within_registerWithReplay within.tryingWfc live own tag
    exact ⟨{ within with tryingWfc := kept }, reaches.map CallNotice.tryingWfc⟩

/-- A removal adds nobody. -/
theorem Within.unregister (within : m.Within P) (c : ConsumerId) (stream : CallStream) :
    (m.unregister c stream).Within P := by
  cases stream with
  | callType => exact { within with callType := within.callType.remove c }
  | emergencyType => exact { within with emergencyType := within.emergencyType.remove c }
  | preferredTransport =>
    exact { within with preferredTransport := within.preferredTransport.remove c }
  | tryingWfc => exact { within with tryingWfc := within.tryingWfc.remove c }

/-- Nor does a closing. -/
theorem Within.close (within : m.Within P) : m.close.Within P := by
  unfold CallMonitor.close
  split
  · exact within
  · exact ⟨Registry.within_clear _, Registry.within_clear _, Registry.within_clear _,
      Registry.within_clear _, Registry.within_clear _, Registry.within_clear _⟩

/-- Whatever is asked, all who are registered keep a property that those who register have, and only
live consumers with the property are reached. -/
theorem Within.step (within : m.Within P) (live : Liveness) (connected : TrafficClass → Bool)
    {op : Op} (own : ∀ c, op.registers = some c → P c) :
    (m.step live connected op).monitor.Within P ∧
      Reaches live P (m.step live connected op).sent := by
  -- closing and removals only take away; a registration adds whom it names
  cases op with
  | update event =>
    unfold CallMonitor.step
    dsimp only
    split
    · exact ⟨within, reaches_nil⟩
    · split
      · exact within.updateEmergency live connected event
      · exact within.updateLeg live event
  | poorMedia r => exact ⟨within.afterMedia live r, within.mediaDeliveries live r⟩
  | requestThresholds r =>
    unfold CallMonitor.step
    dsimp only
    split
    · exact ⟨within, reaches_nil⟩
    · exact ⟨{ within with }, reaches_nil⟩
  | preferTransport t =>
    obtain ⟨kept, reaches⟩ := Notifier.within_publishIfChanged within.preferredTransport live t
    exact ⟨{ within with preferredTransport := kept }, reaches.map CallNotice.preferredTransport⟩
  | tryWfc trying =>
    obtain ⟨kept, reaches⟩ := Notifier.within_publishIfChanged within.tryingWfc live trying
    exact ⟨{ within with tryingWfc := kept }, reaches.map CallNotice.tryingWfc⟩
  | register stream c tag => exact within.register live (own c rfl) tag stream
  | unregister stream c => exact ⟨within.unregister c stream, reaches_nil⟩
  | registerMedia raw c tag =>
    unfold CallMonitor.step
    dsimp only
    split
    · exact ⟨within, reaches_nil⟩
    · exact ⟨within.withMediaRegistry _ ((within.mediaRegistry _).addUnique (own c rfl)),
        reaches_nil⟩
  | unregisterMedia raw c =>
    unfold CallMonitor.step
    dsimp only
    split
    · exact ⟨within, reaches_nil⟩
    · exact ⟨within.withMediaRegistry _ ((within.mediaRegistry _).remove c), reaches_nil⟩
  | close => exact ⟨within.close, reaches_nil⟩

end Within

/-! ## Monitors in a world of consumers -/

/-- A request, with the traffic classes for which a session exists at its moment. -/
structure Request where
  connected : TrafficClass → Bool
  op : Op

/-- The report that a request brings, if it is one. -/
def Request.report? (request : Request) : Option CallEvent :=
  match request.op with
  | .update event => some event
  | _ => none

/-- The monitor after a request, and what is sent. -/
def serve : Serving CallMonitor Request CallNotice := fun m live request =>
  ((m.step live request.connected request.op).monitor,
    (m.step live request.connected request.op).sent)

/-- The beginning of a run: the monitor is fresh, consumers may exist. -/
def beginning (slot : SlotIndex) (room : Mailroom CallNotice) : World CallMonitor CallNotice :=
  ⟨fresh slot, room⟩

/-- Nothing is sent to consumers that are not live. -/
theorem discreet_serve : serve.Discreet := by
  intro m live request c dead
  have anyone : m.Within fun _ => True := by
    constructor <;> exact fun _ _ => trivial
  obtain ⟨-, reaches⟩ : (m.step live request.connected request.op).monitor.Within (fun _ => True) ∧
      Reaches live (fun _ => True) (m.step live request.connected request.op).sent :=
    anyone.step live request.connected fun _ _ => trivial
  exact reaches.received fun ⟨alive, _⟩ => Bool.false_ne_true (dead.symm.trans alive)

/-- The reports about calls among what happens, in order. -/
def reported (run : List (World.Act Request)) : List CallEvent :=
  (World.asked run).filterMap Request.report?

theorem reported_cons (act : World.Act Request) (run : List (World.Act Request)) :
    reported (act :: run) = (act.request?.bind Request.report?).toList ++ reported run :=
  World.filterMap_asked_cons Request.report? act run

/-- The requests of a run as the monitor meets them, each with the consumers that are live at its
moment. -/
def moments (w : World CallMonitor CallNotice) : List (World.Act Request) → List Moment
  | [] => []
  | .happen e :: run => moments (w.next serve (.happen e)) run
  | .ask request :: run =>
    ⟨w.room.live, request.connected, request.op⟩ :: moments (w.next serve (.ask request)) run

/-- The monitor after a run in the world is the monitor after the run's requests. -/
theorem state_after (w : World CallMonitor CallNotice) (run : List (World.Act Request)) :
    (w.after serve run).state = w.state.after (moments w run) := by
  induction run generalizing w with
  | nil => rfl
  | cons act run ih => cases act <;> exact ih _

/-- The reports of a run are those of its moments. -/
theorem reports_moments (w : World CallMonitor CallNotice) (run : List (World.Act Request)) :
    reports (moments w run) = reported run := by
  induction run generalizing w with
  | nil => rfl
  | cons act run ih =>
    cases act with
    | happen e => exact ih _
    | ask request =>
      have same : Moment.report? ⟨w.room.live, request.connected, request.op⟩ = request.report? :=
        rfl
      have rest := ih (w.next serve (.ask request))
      rw [reported_cons, moments, reports, ← rest]
      cases report : request.report? with
      | none =>
        rw [List.filterMap_cons_none (same.trans report)]; simp
          [World.Act.request?, report, reports]
      | some event =>
        rw [List.filterMap_cons_some (same.trans report)]; simp
          [World.Act.request?, report, reports]

/-! ## The streams of call types -/

/-- The two streams of call types. -/
inductive TypeStream where
  | all | emergency

namespace TypeStream

/-- The name by which consumers register for a stream. -/
def name : TypeStream → CallStream
  | all => .callType
  | emergency => .emergencyType

/-- The notifier of a stream. -/
def notifier (m : CallMonitor) : TypeStream → Notifier CallType
  | all => m.callType
  | emergency => m.emergencyType

/-- The notice of a call type on a stream. -/
def notice : TypeStream → CallType → CallNotice
  | all => .callType
  | emergency => .emergencyType

/-- The call type that a notice of a stream tells. -/
def told? : TypeStream → CallNotice → Option CallType
  | all, .callType v => some v
  | emergency, .emergencyType v => some v
  | _, _ => none

/-- What a consumer is told on a stream. -/
def heard (s : TypeStream) (c : ConsumerId) (sent : List (Delivery CallNotice)) : List CallType :=
  (received c sent).filterMap fun n => s.told? n.value

variable (s : TypeStream) (c : ConsumerId)

theorem heard_nil : s.heard c [] = [] := rfl

theorem heard_append (sent more : List (Delivery CallNotice)) :
    s.heard c (sent ++ more) = s.heard c sent ++ s.heard c more := by
  unfold heard
  rw [received_append, List.filterMap_append]

/-- What is sent as notices of a stream is heard on it. -/
theorem heard_own (sent : List (Delivery CallType)) :
    s.heard c (sent.map (·.map s.notice)) = (received c sent).map Notification.value := by
  have mine : (fun n : Notification CallType => s.told? (n.map s.notice).value) =
      some ∘ Notification.value := by
    funext n
    cases s <;> rfl
  rw [heard, received_map, List.filterMap_map]
  show List.filterMap (fun n : Notification CallType => s.told? (n.map s.notice).value) _ = _
  rw [mine, List.filterMap_eq_map]

/-- What is sent as other notices is not. -/
theorem heard_other {α : Type} {f : α → CallNotice} (other : ∀ v, s.told? (f v) = none)
    (sent : List (Delivery α)) :
    s.heard c (sent.map (·.map f)) = [] := by
  rw [heard, received_map, List.filterMap_map, List.filterMap_eq_nil_iff]
  intro n _
  exact other n.value

end TypeStream

/-! ## What a report tells on a stream -/

/-- What a change of a monitor and what is sent with it come to on a stream: nothing, or the
publication of a call type that differs from the last one. -/
def Tells (s : TypeStream) (live : Liveness) (m : CallMonitor)
    (result : CallMonitor × List (Delivery CallNotice)) :
    Option CallType → Prop
  | none => s.notifier result.1 = s.notifier m ∧ ∀ c, s.heard c result.2 = []
  | some v => s.notifier result.1 = ((s.notifier m).publishIfChanged live v).1 ∧
      ∀ c, s.heard c result.2 =
        (received c ((s.notifier m).publishIfChanged live v).2).map Notification.value

section Report

variable {s : TypeStream} {live : Liveness} {m : CallMonitor}

/-- A change that tells nothing may come before one that tells something. -/
theorem Tells.after_none {first second : CallMonitor × List (Delivery CallNotice)}
    {v : Option CallType} (quiet : Tells s live m first none)
    (tells : Tells s live first.1 second v) :
    Tells s live m (second.1, first.2 ++ second.2) v := by
  obtain ⟨same, silent⟩ := quiet
  have heard (c : ConsumerId) : s.heard c (first.2 ++ second.2) = s.heard c second.2 := by
    rw [s.heard_append, silent, List.nil_append]
  cases v with
  | none =>
    obtain ⟨notifier, told⟩ := tells
    exact ⟨notifier.trans same, fun c => (heard c).trans (told c)⟩
  | some v =>
    obtain ⟨notifier, told⟩ := tells
    rw [same] at notifier told
    exact ⟨notifier, fun c => (heard c).trans (told c)⟩

/-- A change that tells nothing may come after one that tells something. -/
theorem Tells.before_none {first second : CallMonitor × List (Delivery CallNotice)}
    {v : Option CallType} (tells : Tells s live m first v)
    (quiet : Tells s live first.1 second none) :
    Tells s live m (second.1, first.2 ++ second.2) v := by
  obtain ⟨same, silent⟩ := quiet
  have heard (c : ConsumerId) : s.heard c (first.2 ++ second.2) = s.heard c first.2 := by
    rw [s.heard_append, silent, List.append_nil]
  cases v with
  | none =>
    obtain ⟨notifier, told⟩ := tells
    exact ⟨same.trans notifier, fun c => (heard c).trans (told c)⟩
  | some v =>
    obtain ⟨notifier, told⟩ := tells
    exact ⟨same.trans notifier, fun c => (heard c).trans (told c)⟩

theorem tells_nil {m' : CallMonitor} (same : s.notifier m' = s.notifier m) :
    Tells s live m (m', []) none :=
  ⟨same, s.heard_nil⟩

/-- What is published of call types is told on their stream. -/
theorem tells_publishType (live : Liveness) (v : CallType) :
    Tells s live m (m.publishType live v) (match s with | .all => some v | .emergency => none) := by
  cases s with
  | all => exact ⟨rfl, fun c => TypeStream.heard_own .all c _⟩
  | emergency => exact ⟨rfl, fun c => TypeStream.heard_other .emergency c (fun _ => rfl) _⟩

/-- What is published of emergency calls is told on the stream of those. -/
theorem tells_publishEmergencyType (live : Liveness) (v : CallType) :
    Tells s live m (m.publishEmergencyType live v)
      (match s with | .all => none | .emergency => some v) := by
  cases s with
  | all => exact ⟨rfl, fun c => TypeStream.heard_other .all c (fun _ => rfl) _⟩
  | emergency => exact ⟨rfl, fun c => TypeStream.heard_own .emergency c _⟩

/-- A monitor with the same notifier of the stream may stand for the first one. -/
theorem Tells.congr {m' : CallMonitor} {result : CallMonitor × List (Delivery CallNotice)}
    {v : Option CallType} (tells : Tells s live m' result v) (same : s.notifier m' = s.notifier m) :
    Tells s live m result v := by
  cases v with
  | none =>
    obtain ⟨notifier, silent⟩ := tells
    exact ⟨notifier.trans same, silent⟩
  | some v =>
    obtain ⟨notifier, told⟩ := tells
    rw [same] at notifier told
    exact ⟨notifier, told⟩

/-- A report about a leg tells at most one thing on a stream. -/
theorem tells_updateLeg (event : CallEvent) : ∃ v, Tells s live m (m.updateLeg live event) v := by
  have counted : s.notifier { m with legs := legsAfter m.legs event } = s.notifier m := by
    cases s <;> rfl
  rw [updateLeg_eq]
  split
  · exact ⟨none, tells_nil counted⟩
  · exact ⟨_, (tells_publishType live _).congr counted⟩

/-- The overlay tells at most one thing, and nothing on the stream of emergency calls. -/
theorem tells_updateOverlay (connected : TrafficClass → Bool) (event : CallEvent) :
    ∃ v, Tells s live m (m.updateOverlay live connected event) v ∧ (s = .emergency → v = none) := by
  have covered (on : Bool) : s.notifier { m with overlay := on } = s.notifier m := by
    cases s <;> rfl
  have published (on : Bool) (v : CallType) :
      ∃ told, Tells s live m ({ m with overlay := on }.publishType live v) told ∧
        (s = .emergency → told = none) := by
    refine ⟨_, (tells_publishType live v).congr (covered on), ?_⟩
    rintro rfl
    rfl
  by_cases begins : beginsOverlay connected event = true
  · rw [updateOverlay_of_begins m live begins]
    exact published true _
  · by_cases ended : event.state = .disconnected
    · rw [updateOverlay_of_ended m live ended]
      split
      · exact published false _
      · exact ⟨none, tells_nil (covered false), fun _ => rfl⟩
    · rw [updateOverlay_of_neither m live begins ended]
      exact ⟨none, tells_nil rfl, fun _ => rfl⟩

/-- A report about an emergency call tells its type on the emergency stream, and on the other what
the overlay does. -/
theorem tells_updateEmergency (connected : TrafficClass → Bool) (event : CallEvent) :
    ∃ v, Tells s live m (m.updateEmergency live connected event) v := by
  unfold updateEmergency
  split
  · exact ⟨none, tells_nil rfl⟩
  · rename_i kept _
    have changed : s.notifier { m with emergency := kept } = s.notifier m := by cases s <;> rfl
    have first := (tells_publishEmergencyType (s := s) live (emergencyCallType kept)).congr changed
    cases s with
    | all =>
      obtain ⟨v, second, -⟩ := tells_updateOverlay connected event
      exact ⟨v, first.after_none second⟩
    | emergency =>
      obtain ⟨v, second, quiet⟩ := tells_updateOverlay connected event
      obtain rfl := quiet rfl
      exact ⟨_, first.before_none second⟩

end Report

/-! ## What a request comes to on a stream -/

/-- What a request makes of a stream is what this operation makes of its notifier, and what it sends
on the stream is what the operation sends. -/
structure Acts (s : TypeStream) (live : Liveness) (m : CallMonitor) (outcome : Outcome)
    (o : Notifier.Op CallType) : Prop where
  notifier : s.notifier outcome.monitor = ((s.notifier m).step live o).notifier
  heard : ∀ c, s.heard c outcome.sent =
    (received c ((s.notifier m).step live o).sent).map Notification.value

/-- The operations that a request may come to on a stream. -/
inductive Op.ComesTo (s : TypeStream) : Op → Notifier.Op CallType → Prop where
  | report (event : CallEvent) (v : CallType) : ComesTo s (.update event) (.publishIfChanged v)
  | register (c : ConsumerId) (tag : Tag) : ComesTo s (.register s.name c tag) (.register c tag)
  | unregister (c : ConsumerId) : ComesTo s (.unregister s.name c) (.unregister c)
  | close : ComesTo s .close .clear

theorem notifier_withMediaRegistry (s : TypeStream) (m : CallMonitor) (c : TrafficClass)
    (r : Registry) :
    s.notifier (m.withMediaRegistry c r) = s.notifier m := by
  cases s <;> cases c <;> rfl

/-- A report of poor media is no notice of a call type. -/
theorem heard_mediaDeliveries (s : TypeStream) (m : CallMonitor) (live : Liveness) (r : PoorMedia)
    (c : ConsumerId) :
    s.heard c (m.mediaDeliveries live r) = [] := by
  have ims : s.heard c ((m.imsMedia.broadcast live r none).map (·.map CallNotice.imsMedia)) = [] :=
    s.heard_other c (by cases s <;> exact fun _ => rfl) _
  have emergency : s.heard c
      ((m.emergencyMedia.broadcast live r none).map (·.map CallNotice.emergencyMedia)) = [] :=
    s.heard_other c (by cases s <;> exact fun _ => rfl) _
  unfold mediaDeliveries
  dsimp only
  split
  · exact s.heard_nil c
  · exact ims
  · exact ims
  · rw [s.heard_append, emergency, List.nil_append]
    split
    · exact ims
    · exact s.heard_nil c

/-- A request passes a stream by, or comes to one operation of its notifier. -/
theorem stream_step (s : TypeStream) (m : CallMonitor) (live : Liveness)
    (connected : TrafficClass → Bool) (op : Op) :
    (s.notifier (m.step live connected op).monitor = s.notifier m ∧
      ∀ c, s.heard c (m.step live connected op).sent = []) ∨
      ∃ o, op.ComesTo s o ∧ Acts s live m (m.step live connected op) o := by
  cases op with
  | update event =>
    -- both kinds of reports tell the stream one value, or nothing
    have report {result : CallMonitor × List (Delivery CallNotice)}
      (told : ∃ v, Tells s live m result v)
        {pushed : List ThresholdPush} :
        (s.notifier result.1 = s.notifier m ∧ ∀ c, s.heard c result.2 = []) ∨
          ∃ o, (Op.update event).ComesTo s o ∧
            Acts s live m ⟨result.1, .done, result.2, pushed⟩ o := by
      obtain ⟨_ | v, tells⟩ := told
      · exact .inl tells
      · exact .inr ⟨_, .report event v, tells.1, tells.2⟩
    unfold step
    dsimp only
    split
    · exact .inl ⟨rfl, s.heard_nil⟩
    · split
      · exact report (tells_updateEmergency connected event)
      · exact report (tells_updateLeg event)
  | poorMedia r => exact .inl ⟨by cases s <;> rfl, heard_mediaDeliveries s m live r⟩
  | requestThresholds r =>
    unfold step
    dsimp only
    split
    · exact .inl ⟨rfl, s.heard_nil⟩
    · exact .inl ⟨by cases s <;> rfl, s.heard_nil⟩
  | preferTransport t =>
    exact .inl ⟨by cases s <;> rfl, fun c => s.heard_other c (by cases s <;> exact fun _ => rfl) _⟩
  | tryWfc trying =>
    exact .inl ⟨by cases s <;> rfl, fun c => s.heard_other c (by cases s <;> exact fun _ => rfl) _⟩
  | register stream c tag =>
    by_cases same : stream = s.name
    · subst same
      refine .inr ⟨_, .register c tag, ?_, ?_⟩
      · cases s <;> rfl
      · intro d
        cases s <;> rfl
    · cases stream with
      | callType => cases s with
        | all => exact absurd rfl same
        | emergency => exact .inl ⟨rfl, TypeStream.heard_nil _⟩
      | emergencyType => cases s with
        | all => exact .inl ⟨rfl, TypeStream.heard_nil _⟩
        | emergency => exact absurd rfl same
      | preferredTransport | tryingWfc =>
        exact .inl ⟨by cases s <;> rfl,
          fun c => s.heard_other c (by cases s <;> exact fun _ => rfl) _⟩
  | unregister stream c =>
    by_cases same : stream = s.name
    · subst same
      refine .inr ⟨_, .unregister c, ?_, s.heard_nil⟩
      cases s <;> rfl
    · refine .inl ⟨?_, s.heard_nil⟩
      cases stream <;> cases s <;> first | rfl | exact absurd rfl same
  | registerMedia raw c tag =>
    unfold step
    dsimp only
    split
    · exact .inl ⟨rfl, s.heard_nil⟩
    · exact .inl ⟨notifier_withMediaRegistry s m _ _, s.heard_nil⟩
  | unregisterMedia raw c =>
    unfold step
    dsimp only
    split
    · exact .inl ⟨rfl, s.heard_nil⟩
    · exact .inl ⟨notifier_withMediaRegistry s m _ _, s.heard_nil⟩
  | close =>
    -- the first closing clears the stream, and any other does nothing
    cases closed : m.isClosed with
    | true =>
      have same : m.close = m := if_pos closed
      exact .inl ⟨congrArg s.notifier same, s.heard_nil⟩
    | false =>
      refine .inr ⟨_, .close, ?_, s.heard_nil⟩
      show s.notifier m.close = (s.notifier m).clear
      unfold close
      rw [if_neg (by rw [closed]; decide)]
      cases s <;> rfl

end CallMonitor

end AccessStatus
