import AccessStatus.Proofs.Call.Overlay
import AccessStatus.Proofs.Call.Streams
import Mathlib.Data.List.Chain

/-!
# All calls end

When of each call the last report says that it is disconnected, the monitor is idle again: no leg is
left, as the last report about a leg removes it; and no emergency call is kept, as the one that was
stored last has been disconnected after that, whatever calls it displaced. With no kept call the
overlay is off, so idle is what was published last on both streams. A consumer that was registered
all the time heard it, unless it heard nothing at all. The main statement is `converges_to_idle`.
-/

namespace AccessStatus

open CallEvent

/-! ## Calls that have ended -/

/-- The state in the last report about a voice or video call. -/
def lastLegState (events : List CallEvent) (id : CallId) : Option LegState :=
  latest (fun e => if e.IsAboutLeg id then some e.state else none) events

/-- The state in the last report about an emergency call. -/
def lastEmergencyState (events : List CallEvent) (id : CallId) : Option LegState :=
  latest (fun e => if e.id = id ∧ e.kind = .emergency then some e.state else none) events

/-- If there are reports about a call, as a leg or as an emergency call, the last of them
disconnects it. -/
structure Ended (events : List CallEvent) (id : CallId) : Prop where
  leg : lastLegState events id = none ∨ lastLegState events id = some .disconnected
  emergency : lastEmergencyState events id = none ∨
    lastEmergencyState events id = some .disconnected

theorem ended_nil (id : CallId) : Ended [] id := ⟨.inl rfl, .inl rfl⟩

/-- What is found last in a history was found in something of it. -/
theorem exists_of_latest {α β : Type} {f : α → Option β} {history : List α} {b : β}
    (last : latest f history = some b) :
    ∃ x ∈ history, f x = some b :=
  List.mem_filterMap.1 (List.mem_of_getLast? last)

/-- Nothing is found about a call that is not mentioned. -/
theorem latest_of_unmentioned {about : CallEvent → Prop} [DecidablePred about]
    {events : List CallEvent} {id : CallId} (own : ∀ e, about e → e.id = id)
    (unmentioned : ¬ ∃ e ∈ events, e.id = id) :
    latest (fun e => if about e then some e.state else none) events = none := by
  refine Option.eq_none_iff_forall_ne_some.2 fun state last => unmentioned ?_
  obtain ⟨e, there, found⟩ := exists_of_latest last
  split at found
  · rename_i mine
    exact ⟨e, there, own e mine⟩
  · cases found

/-- Only calls that are mentioned need to be looked at. -/
theorem ended_of_mentioned {events : List CallEvent} (mentioned : ∀ e ∈ events, Ended events e.id)
    (id : CallId) :
    Ended events id := by
  by_cases about : ∃ e ∈ events, e.id = id
  · obtain ⟨e, there, rfl⟩ := about
    exact mentioned e there
  · constructor
    · exact .inl (latest_of_unmentioned (fun _ mine => mine.1) about)
    · exact .inl (latest_of_unmentioned (fun _ mine => mine.1) about)

/-- The last report about a leg that is up does not disconnect it. -/
theorem lastLegState_of_ongoing {events : List CallEvent} {id : CallId} (up : Ongoing events id) :
    ∃ state, lastLegState events id = some state ∧ state ≠ .disconnected := by
  induction events using List.reverseRecOn with
  | nil => exact absurd up (not_standing_nil _ _)
  | append_singleton events e ih =>
    rw [lastLegState, latest_concat, ← lastLegState]
    rcases (ongoing_concat events e id).1 up with ⟨about, active⟩ | ⟨was, keeps⟩
    · rw [if_pos about, Option.some_or, active]
      exact ⟨_, rfl, by decide⟩
    · by_cases about : e.IsAboutLeg id
      · rw [if_pos about, Option.some_or]
        exact ⟨_, rfl, fun ended => keeps ⟨about, ended⟩⟩
      · rw [if_neg about, Option.none_or]
        exact ih was

/-- The last report about the emergency call that is kept does not disconnect it. -/
theorem lastEmergencyState_of_kept {events : List CallEvent} {call : EmergencyCall}
    (kept : keptCall events = some call) :
    ∃ state, lastEmergencyState events call.id = some state ∧ state ≠ .disconnected := by
  induction events using List.reverseRecOn with
  | nil => cases kept
  | append_singleton events e ih =>
    rw [lastEmergencyState, latest_concat, ← lastEmergencyState]
    by_cases there : e.kind = .emergency ∧ e.state ≠ .disconnected
    · -- the call is the one that is stored now
      rw [keptCall_concat_of_there events there.1 there.2] at kept
      obtain rfl := Option.some.inj kept
      rw [if_pos ⟨rfl, there.1⟩, Option.some_or]
      exact ⟨_, rfl, there.2⟩
    · have silent : e.emergencyCall? = none := if_neg there
      rw [keptCall_concat_of_not_there events silent, Option.filter_eq_some_iff] at kept
      obtain ⟨was, keeps⟩ := kept
      have other : ¬ (e.id = call.id ∧ e.kind = .emergency) := by
        rintro ⟨same, isEmergency⟩
        have ended : e.state = .disconnected := by
          by_contra up
          exact there ⟨isEmergency, up⟩
        simp [disconnects, isEmergency, ended, same] at keeps
      rw [if_neg other, Option.none_or]
      exact ih was

namespace CallMonitor

/-! ## The monitor is idle -/

/-- Nothing is left of any call, and idle was published last on both streams. -/
structure Idle (m : CallMonitor) : Prop where
  idle : m.isIdle = true
  emergencyIdle : m.isEmergencyIdle = true
  noLeg : m.legs.size = 0
  noOverlay : m.overlay = false
  published : ∀ s : TypeStream, (s.notifier m).current = some .idle

/-- When all calls have ended by the reports, the monitor is idle. -/
theorem idle_after (slot : SlotIndex) (run : List Moment)
    (isOpen : ((fresh slot).after run).isClosed = false) (ended : ∀ id, Ended (reports run) id) :
    ((fresh slot).after run).Idle := by
  obtain ⟨legs, shown⟩ := fits_and_shown_after slot run isOpen
  have emergency := emergencyFits_after slot run isOpen
  -- from here on only what fits the reports counts, not how it came about
  generalize (fresh slot).after run = m at *
  have noneUp (id : CallId) : ¬ Ongoing (reports run) id := by
    intro up
    obtain ⟨state, last, notEnded⟩ := lastLegState_of_ongoing up
    rcases (ended id).leg with none | disconnected
    · cases none.symm.trans last
    · exact notEnded (Option.some.inj (last.symm.trans disconnected))
  have noneKept : m.emergency = none := by
    rw [emergency.kept, Option.eq_none_iff_forall_ne_some]
    intro call kept
    obtain ⟨state, last, notEnded⟩ := lastEmergencyState_of_kept kept
    rcases (ended call.id).emergency with none | disconnected
    · cases none.symm.trans last
    · exact notEnded (Option.some.inj (last.symm.trans disconnected))
  have off : m.overlay = false := by
    by_contra on
    have backed := emergency.backed (by simpa using on)
    rw [noneKept] at backed
    cases backed
  have type : m.callType.current = some .idle := by
    rw [shown, off, if_neg Bool.false_ne_true, (aggregateLegs_eq_idle_iff legs).2 noneUp]
  have emergencyType : m.emergencyType.current = some .idle := by
    rw [emergency.published, noneKept]
    rfl
  refine ⟨?_, ?_, ?_, off, ?_⟩
  · rw [isIdle, currentType, type]
    rfl
  · rw [isEmergencyIdle, noneKept]
    rfl
  · have nobody : {id | Ongoing (reports run) id} = ∅ := Set.eq_empty_of_forall_notMem noneUp
    rw [legs.size_eq, nobody, Set.ncard_empty]
  · rintro (_ | _)
    · exact type
    · exact emergencyType

/-! ## What a consumer hears that stays registered -/

/-- The consumer is live and registered for the stream. -/
structure Attends (s : TypeStream) (c : ConsumerId) (w : World CallMonitor CallNotice) : Prop where
  alive : w.room.live c = true
  registered : (s.notifier w.state).registry.contains c = true

/-- At every moment of a run, from its beginning to its end, the consumer is live and registered. -/
def Stays (s : TypeStream) (c : ConsumerId) (w : World CallMonitor CallNotice)
    (run : List (World.Act Request)) : Prop :=
  ∀ before later, run = before ++ later → Attends s c (w.after serve before)

/-- Who stays all the time stays from the first act on. -/
theorem Stays.tail {s : TypeStream} {c : ConsumerId} {w : World CallMonitor CallNotice}
    {act : World.Act Request} {run : List (World.Act Request)} (stays : Stays s c w (act :: run)) :
    Stays s c (w.next serve act) run := by
  rintro before later rfl
  exact stays (act :: before) later rfl

/-- Nobody is registered twice for a stream of call types. -/
def SingleTypes (m : CallMonitor) : Prop := ∀ s : TypeStream, (s.notifier m).registry.Single

/-- No request registers anybody twice for a stream of call types. -/
theorem SingleTypes.step {m : CallMonitor} (single : m.SingleTypes) (live : Liveness)
    (connected : TrafficClass → Bool) (op : Op) :
    (m.step live connected op).monitor.SingleTypes := by
  intro s
  rcases stream_step s m live connected op with ⟨same, -⟩ | ⟨o, -, acts⟩
  · rw [same]
    exact single s
  · rw [acts.notifier]
    exact Notifier.single_step (single s) live o

/-- Nor does any run. -/
theorem single_after {w : World CallMonitor CallNotice} (single : w.state.SingleTypes)
    (run : List (World.Act Request)) :
    (w.after serve run).state.SingleTypes := by
  induction run generalizing w with
  | nil => exact single
  | cons act run ih =>
    cases act with
    | ask request => exact ih (w := w.next serve (.ask request)) (single.step _ _ _)
    | happen e => exact ih (w := w.next serve (.happen e)) single

/-- A request without a report tells nobody a call type. -/
theorem heard_of_quiet {m : CallMonitor} {live : Liveness} {request : Request}
    (quiet : request.report? = none) (s : TypeStream) (c : ConsumerId) :
    s.heard c (serve m live request).2 = [] := by
  rcases stream_step s m live request.connected request.op with ⟨-, silent⟩ | ⟨o, comes, acts⟩
  · exact silent c
  · refine (acts.heard c).trans ?_
    obtain ⟨connected, op⟩ := request
    cases comes with
    | report event v => cases quiet
    | register d tag => rfl
    | unregister d => rfl
    | close => rfl

/-- Without a report nobody hears anything on the streams of call types. -/
theorem heard_sent_of_quiet (w : World CallMonitor CallNotice) {run : List (World.Act Request)}
    (quiet : reported run = []) (s : TypeStream) (c : ConsumerId) :
    s.heard c (w.sent serve run) = [] := by
  induction run generalizing w with
  | nil => rfl
  | cons act run ih =>
    rw [reported_cons, List.append_eq_nil_iff] at quiet
    obtain ⟨now, later⟩ := quiet
    show s.heard c (w.sentBy serve act ++ (w.next serve act).sent serve run) = []
    rw [s.heard_append, ih _ later, List.append_nil]
    cases act with
    | ask request => exact heard_of_quiet (Option.toList_eq_nil_iff.1 now) s c
    | happen e => rfl

/-- In an act through which a consumer stays it hears at most one call type, which differs from the
one published before and is the one remembered after. -/
theorem heard_act {s : TypeStream} {c : ConsumerId} {w : World CallMonitor CallNotice}
    (single : w.state.SingleTypes) (before : Attends s c w) {act : World.Act Request}
    (after : Attends s c (w.next serve act)) :
    ∃ v : Option CallType, s.heard c (w.sentBy serve act) = v.toList ∧
      (s.notifier (w.next serve act).state).current = v.or (s.notifier w.state).current ∧
      ∀ u ∈ v, (s.notifier w.state).current ≠ some u := by
  cases act with
  | happen e => exact ⟨none, rfl, rfl, fun u none => by cases none⟩
  | ask request =>
    obtain ⟨connected, op⟩ := request
    rcases stream_step s w.state w.room.live connected op with ⟨same, silent⟩ | ⟨o, comes, acts⟩
    · refine ⟨none, silent c, congrArg Notifier.current same, fun u none => by cases none⟩
    · have noReplay (tag : Tag) : o ≠ .registerWithReplay c tag := by
        rintro rfl
        cases comes
      have gated : o.Gated := by cases comes <;> trivial
      have still : ((s.notifier w.state).step w.room.live o).notifier.registry.contains c =
          true := by
        rw [← acts.notifier]
        exact after.registered
      obtain ⟨told, remembered⟩ :=
        Notifier.told_of_still (single s) before.alive before.registered noReplay still
      refine ⟨_, (acts.heard c).trans told,
        (congrArg Notifier.current acts.notifier).trans remembered, ?_⟩
      intro u published last
      exact Notifier.ne_of_published? gated last published rfl

/-- A consumer that stays hears changes only, and has heard last what is remembered. -/
theorem heard_of_stays {s : TypeStream} {c : ConsumerId} {w : World CallMonitor CallNotice}
    (single : w.state.SingleTypes) {run : List (World.Act Request)} (stays : Stays s c w run)
    {first : CallType} (remembered : (s.notifier w.state).current = some first) :
    (first :: s.heard c (w.sent serve run)).IsChain (· ≠ ·) ∧
      (s.notifier (w.after serve run).state).current =
        (s.heard c (w.sent serve run)).getLast?.or (some first) := by
  induction run generalizing w first with
  | nil => exact ⟨List.isChain_singleton _, remembered⟩
  | cons act run ih =>
    have before : Attends s c w := stays [] (act :: run) rfl
    have after : Attends s c (w.next serve act) := stays [act] run rfl
    obtain ⟨v, told, next, differs⟩ := heard_act single before after
    have stillSingle : (w.next serve act).state.SingleTypes := single_after single [act]
    show (first :: s.heard c (w.sentBy serve act ++ (w.next serve act).sent serve run)).IsChain
      (· ≠ ·) ∧
      (s.notifier ((w.next serve act).after serve run).state).current =
        (s.heard c (w.sentBy serve act ++ (w.next serve act).sent serve run)).getLast?.or
          (some first)
    rw [s.heard_append, told]
    rw [remembered] at next differs
    cases v with
    | none => exact ih stillSingle stays.tail next
    | some u =>
      obtain ⟨chain, last⟩ := ih stillSingle stays.tail next
      refine ⟨List.isChain_cons_cons.2 ⟨fun same => differs u rfl (congrArg some same), chain⟩, ?_⟩
      rw [last]
      show _ = (u :: s.heard c ((w.next serve act).sent serve run)).getLast?.or (some first)
      rw [List.getLast?_cons]
      cases (s.heard c ((w.next serve act).sent serve run)).getLast? <;> rfl

/-! ## Whole runs -/

/-- A monitor that is open was open before. -/
theorem open_of_append {slot : SlotIndex} {run later : List Moment}
    (isOpen : ((fresh slot).after (run ++ later)).isClosed = false) :
    ((fresh slot).after run).isClosed = false := by
  induction later using List.reverseRecOn with
  | nil => rwa [List.append_nil] at isOpen
  | append_singleton later t ih =>
    rw [← List.append_assoc, after_concat] at isOpen
    exact ih (next_cases _ t isOpen).1

/-- The moments of a run are those of its parts. -/
theorem moments_append (w : World CallMonitor CallNotice) (run later : List (World.Act Request)) :
    moments w (run ++ later) = moments w run ++ moments (w.after serve run) later := by
  induction run generalizing w with
  | nil => rfl
  | cons act run ih =>
    cases act with
    | ask request => exact congrArg _ (ih _)
    | happen e => exact ih _

/-- No value comes twice in a row, the first is not idle, and the last is. -/
structure DownToIdle (values : List CallType) : Prop where
  changes : values.IsChain (· ≠ ·)
  begins : values.head? ≠ some .idle
  ends : values ≠ [] → values.getLast? = some .idle

/-- Changes that begin after idle and come to it again are changes down to idle. -/
theorem downToIdle_of_chain {values : List CallType}
    (chain : (CallType.idle :: values).IsChain (· ≠ ·))
    (last : values.getLast?.or (some .idle) = some .idle) : DownToIdle values := by
  refine ⟨?_, ?_, ?_⟩
  · cases values with
    | nil => exact List.isChain_nil
    | cons v values => exact (List.isChain_cons_cons.1 chain).2
  · cases values with
    | nil =>
      intro none
      cases none
    | cons v values =>
      intro first
      exact (List.isChain_cons_cons.1 chain).1 (Option.some.inj first).symm
  · intro some
    obtain ⟨v, final⟩ := Option.ne_none_iff_exists'.1 (mt List.getLast?_eq_none_iff.1 some)
    rw [final, Option.some_or] at last
    exact final.trans last

/-- What can be relied on when all calls have ended. -/
structure Converges (first : World CallMonitor CallNotice) (run : List (World.Act Request)) :
    Prop where
  /-- No call is left. -/
  idle : (first.after serve run).state.isIdle = true
  emergencyIdle : (first.after serve run).state.isEmergencyIdle = true
  noLeg : (first.after serve run).state.legs.size = 0
  noOverlay : (first.after serve run).state.overlay = false
  /-- A consumer that is live and registered on a stream of call types from before the first report
  on hears changes that lead back to idle. -/
  heard : ∀ s c before later, run = before ++ later → reported before = [] →
    Stays s c (first.after serve before) later →
    DownToIdle (TypeStream.heard s c (first.sent serve run))
  /-- What a consumer that has not died is sent it has taken or finds in its mailbox. -/
  taken : ∀ c, ¬ (first.after serve run).room.Dead c →
    first.taken serve c run ++ (first.after serve run).room.pending c =
      first.room.pending c ++ received c (first.sent serve run)

/-- After every run that leaves the monitor open and in which the last report about each call, if
any, as a leg and as an emergency call, disconnects it, the monitor is idle, and those who were
registered all the time know. -/
theorem converges_to_idle (slot : SlotIndex) (room : Mailroom CallNotice)
    (run : List (World.Act Request))
    (isOpen : ((beginning slot room).after serve run).state.isClosed = false)
    (ended : ∀ id, Ended (reported run) id) : Converges (beginning slot room) run := by
  have idle {part : List (World.Act Request)}
    (partOpen : ((beginning slot room).after serve part).state.isClosed = false)
      (partEnded : ∀ id, Ended (reported part) id) :
        ((beginning slot room).after serve part).state.Idle := by
    rw [state_after] at partOpen ⊢
    refine idle_after slot _ partOpen ?_
    rw [reports_moments]
    exact partEnded
  have final := idle isOpen ended
  refine ⟨final.idle, final.emergencyIdle, final.noLeg, final.noOverlay, ?_, ?_⟩
  · rintro s c before later rfl quiet stays
    have wasOpen : ((beginning slot room).after serve before).state.isClosed = false := by
      rw [state_after] at isOpen ⊢
      rw [moments_append] at isOpen
      exact open_of_append isOpen
    have start := (idle wasOpen (by rw [quiet]; exact ended_nil)).published s
    have single : ((beginning slot room).after serve before).state.SingleTypes :=
      single_after (by rintro (_ | _) <;> exact Registry.single_empty _) before
    obtain ⟨chain, last⟩ := heard_of_stays single stays start
    rw [World.sent_append, s.heard_append, heard_sent_of_quiet _ quiet, List.nil_append]
    refine downToIdle_of_chain chain ?_
    rw [← last, ← World.after_append]
    exact final.published s
  · exact fun c alive => World.taken_append_pending discreet_serve _ alive

/-- Consumer 0 registers for the call type and consumer 1 for that of emergency calls. Emergency
calls 7 and 8 run over the IMS connection, the second in place of the first; a video call begins
under the overlay. When the first emergency call is disconnected it is not kept any more; the
emergency connection is up by then. -/
def displacedEmergency : List (World.Act Request) :=
  let overIms : TrafficClass → Bool := fun c => c = .ims
  let online : TrafficClass → Bool := fun _ => true
  [.ask ⟨online, .register .callType ⟨0⟩ ⟨4⟩⟩, .ask ⟨online, .register .emergencyType ⟨1⟩ ⟨5⟩⟩,
    .ask ⟨overIms, .update ⟨⟨7⟩, .emergency, .dialing⟩⟩,
    .ask ⟨overIms, .update ⟨⟨2⟩, .video, .active⟩⟩,
    .ask ⟨overIms, .update ⟨⟨8⟩, .emergency, .alerting⟩⟩, .happen (.takeAll ⟨0⟩),
    .ask ⟨online, .update ⟨⟨7⟩, .emergency, .disconnected⟩⟩,
    .ask ⟨online, .update ⟨⟨8⟩, .emergency, .disconnected⟩⟩,
    .ask ⟨online, .update ⟨⟨2⟩, .video, .disconnected⟩⟩]

/-- By the reports all calls have ended. -/
theorem ended_displacedEmergency (id : CallId) : Ended (reported displacedEmergency) id := by
  have states : ∀ e ∈ reported displacedEmergency,
      (lastLegState (reported displacedEmergency) e.id = none ∨
        lastLegState (reported displacedEmergency) e.id = some .disconnected) ∧
      (lastEmergencyState (reported displacedEmergency) e.id = none ∨
        lastEmergencyState (reported displacedEmergency) e.id = some .disconnected) := by decide
  exact ended_of_mentioned (fun e there => ⟨(states e there).1, (states e there).2⟩) id

/-- Both consumers are live and registered from the second act on, each on its own stream. -/
theorem stays_displacedEmergency (s : TypeStream) :
    Stays s (match s with | .all => ⟨0⟩ | .emergency => ⟨1⟩)
      ((beginning ⟨0⟩ Mailroom.empty.openBox.openBox).after serve (displacedEmergency.take 2))
      (displacedEmergency.drop 2) := by
  have attends : ∀ before ∈ (displacedEmergency.drop 2).inits,
      let w := ((beginning ⟨0⟩ Mailroom.empty.openBox.openBox).after serve
        (displacedEmergency.take 2)).after serve before
      w.room.live ⟨0⟩ = true ∧ w.state.callType.registry.contains ⟨0⟩ = true ∧
        w.room.live ⟨1⟩ = true ∧ w.state.emergencyType.registry.contains ⟨1⟩ = true := by decide
  intro before later split
  obtain ⟨liveAll, registeredAll, liveEmergency, registeredEmergency⟩ :=
    attends before ((List.mem_inits _ _).2 ⟨later, split.symm⟩)
  cases s with
  | all => exact ⟨liveAll, registeredAll⟩
  | emergency => exact ⟨liveEmergency, registeredEmergency⟩

/-- The consumer of call types hears of the overlay, of the video call behind it, and of the end;
the one of emergency calls hears of the emergency and of its end. -/
theorem converges_displacedEmergency :
    let first := beginning ⟨0⟩ Mailroom.empty.openBox.openBox
    (first.after serve displacedEmergency).state.isClosed = false ∧
      (∀ id, Ended (reported displacedEmergency) id) ∧ Converges first displacedEmergency ∧
      TypeStream.heard .all ⟨0⟩ (first.sent serve displacedEmergency) =
        [.emergency, .video, .idle] ∧
      DownToIdle (TypeStream.heard .all ⟨0⟩ (first.sent serve displacedEmergency)) ∧
      TypeStream.heard .emergency ⟨1⟩ (first.sent serve displacedEmergency) =
        [.emergency, .idle] ∧
      DownToIdle (TypeStream.heard .emergency ⟨1⟩ (first.sent serve displacedEmergency)) := by
  intro first
  have converges : Converges first displacedEmergency :=
    converges_to_idle ⟨0⟩ Mailroom.empty.openBox.openBox displacedEmergency (by decide)
      ended_displacedEmergency
  have parts := (List.take_append_drop 2 displacedEmergency).symm
  exact ⟨by decide, ended_displacedEmergency, converges, by decide,
    converges.heard .all ⟨0⟩ _ _ parts rfl (stays_displacedEmergency .all), by decide,
    converges.heard .emergency ⟨1⟩ _ _ parts rfl (stays_displacedEmergency .emergency)⟩

end CallMonitor

end AccessStatus
