import AccessStatus.Proofs.Call.Idle
import AccessStatus.Proofs.Call.Thresholds

/-!
# After closing

Closing drops all consumers and ends the reports about calls: what is known of them stays as it is,
and so do the answers about them (`SameCalls.next_of_closed`). But the other requests do not mind.
Consumers can join the four streams that are not of call types again, and are told there what is
told since the closing (`SinceClosing`); and a request for thresholds is pushed to the call that was
active at the closing. The main statement, `after_closing`, says exactly what is still sent and
pushed.
-/

namespace AccessStatus

namespace CallMonitor

/-! ## The streams that are not of call types -/

/-- The streams that are not of call types. -/
inductive SideStream where
  | transport | trying | imsMedia | emergencyMedia
  deriving DecidableEq

namespace SideStream

/-- The side stream with a name. -/
def ofName? : CallStream → Option SideStream
  | .callType | .emergencyType => none
  | .preferredTransport => some transport
  | .tryingWfc => some trying

/-- The side stream of reports of poor media for a class. -/
def ofClass : TrafficClass → SideStream
  | .emergency => emergencyMedia
  | _ => imsMedia

/-- The consumers of a side stream. -/
def registry (m : CallMonitor) : SideStream → Registry
  | transport => m.preferredTransport.registry
  | trying => m.tryingWfc.registry
  | imsMedia => m.imsMedia
  | emergencyMedia => m.emergencyMedia

end SideStream

/-- What a request says of a consumer and a side stream: that the consumer listens from now on, or
does not any more. -/
def Op.turn? : Op → Option (SideStream × ConsumerId × Bool)
  | .register stream c _ => (SideStream.ofName? stream).map fun s => (s, c, true)
  | .unregister stream c => (SideStream.ofName? stream).map fun s => (s, c, false)
  | .registerMedia raw c _ => (mediaClass raw).toOption.map fun cls => (.ofClass cls, c, true)
  | .unregisterMedia raw c => (mediaClass raw).toOption.map fun cls => (.ofClass cls, c, false)
  | .update _ | .poorMedia _ | .requestThresholds _ | .preferTransport _ | .tryWfc _ | .close =>
    none

/-- What a request says of some consumer and one side stream. -/
def Op.turnOf? (s : SideStream) (op : Op) : Option (ConsumerId × Bool) :=
  op.turn?.bind fun x => if x.1 = s then some x.2 else none

/-- What a request says of one consumer and one side stream. -/
def Op.turns (s : SideStream) (c : ConsumerId) (op : Op) : Option Bool :=
  (op.turnOf? s).bind fun x => if x.1 = c then some x.2 else none

theorem registers_of_turn? {s : SideStream} {c : ConsumerId} {op : Op}
    (joins : op.turn? = some (s, c, true)) :
    op.registers = some c := by
  cases op with
  | register stream d tag | registerMedia raw d tag =>
    obtain ⟨named, -, same⟩ := Option.map_eq_some_iff.1 joins
    cases same
    rfl
  | unregister stream d | unregisterMedia raw d =>
    obtain ⟨named, -, same⟩ := Option.map_eq_some_iff.1 joins
    cases same
  | _ => cases joins

/-- Who joins a side stream with a request is registered by it. -/
theorem registers_of_turns {s : SideStream} {c : ConsumerId} {op : Op}
    (joins : op.turns s c = some true) :
    op.registers = some c := by
  obtain ⟨⟨d, yes⟩, turnOf, mine⟩ := Option.bind_eq_some_iff.1 joins
  obtain ⟨⟨named, e, sure⟩, turn, own⟩ := Option.bind_eq_some_iff.1 turnOf
  obtain ⟨rfl, rfl, rfl⟩ : named = s ∧ e = d ∧ sure = yes := by simpa using own
  obtain ⟨rfl, rfl⟩ : e = c ∧ sure = true := by simpa using mine
  exact registers_of_turn? turn

/-- By the requests the consumer listens to the side stream: the last of them about both says so. -/
def listens (ops : List Op) (s : SideStream) (c : ConsumerId) : Bool :=
  (latest (Op.turns s c) ops).getD false

/-- Who listens on a side stream after one more request is settled by it, or else as before. -/
theorem listens_concat (ops : List Op) (op : Op) (s : SideStream) (c : ConsumerId) :
    listens (ops ++ [op]) s c = (op.turns s c).getD (listens ops s c) := by
  rw [listens, latest_concat]
  cases op.turns s c <;> rfl

/-- The transport that a request reports. -/
def Op.transport? : Op → Option Transport
  | .preferTransport t => some t
  | _ => none

/-- What a request reports of Wi-Fi calling. -/
def Op.trying? : Op → Option Bool
  | .tryWfc trying => some trying
  | _ => none

/-- What a request tells a consumer on the side streams, by those to which it listens, what was
reported last, and whether poor media of emergency calls is echoed. -/
def told (listens : SideStream → Bool) (transport : Option Transport) (trying : Option Bool)
    (echoed : Bool) (c : ConsumerId) : Op → List CallNotice
  | .preferTransport t =>
    if listens .transport = true ∧ transport ≠ some t then [.preferredTransport t] else []
  | .tryWfc yes => if listens .trying = true ∧ trying ≠ some yes then [.tryingWfc yes] else []
  | .register .preferredTransport d _ =>
    if d = c then transport.toList.map .preferredTransport else []
  | .register .tryingWfc d _ => if d = c then trying.toList.map .tryingWfc else []
  | .poorMedia r =>
    (if r.callType = .emergency ∧
      listens .emergencyMedia = true then [.emergencyMedia r] else []) ++
      if ConcernsIms r (echoed = true) ∧ listens .imsMedia = true then [.imsMedia r] else []
  | _ => []

/-! ## Who listens -/

/-- What becomes of a registry when a request says this of a consumer, or nothing. -/
inductive Turn (live : Liveness) (r : Registry) : Option (ConsumerId × Bool) → Registry → Prop where
  | joins (c : ConsumerId) (tag : Tag) : Turn live r (some (c, true)) (r.addUnique ⟨c, tag, none⟩)
  | leaves (c : ConsumerId) : Turn live r (some (c, false)) (r.remove c)
  | stays : Turn live r none r
  | swept : Turn live r none (r.sweep live)

section Turn

variable {live : Liveness} {r next : Registry} {turn : Option (ConsumerId × Bool)}

/-- A value that is offered sweeps the registry, if the gate lets it pass. -/
theorem Turn.publishIfChanged {α : Type} [BEq α] (n : Notifier α) (v : α) :
    Turn live n.registry none (n.publishIfChanged live v).1.registry := by
  unfold Notifier.publishIfChanged
  split
  · exact .swept
  · exact .stays

/-- Nobody is registered twice on a side stream. -/
theorem Turn.single (turns : Turn live r turn next) (single : r.Single) : next.Single := by
  cases turns with
  | joins c tag => exact single.addUnique _
  | leaves c => exact single.remove c
  | stays => exact single
  | swept => exact single.sweep live

/-- A live consumer is registered afterwards as is said of it, or else as before. -/
theorem Turn.contains (turns : Turn live r turn next) {c : ConsumerId} (alive : live c = true) :
    next.contains c = (turn.bind fun x => if x.1 = c then some x.2 else none).getD
      (r.contains c) := by
  cases turns with
  | joins d tag =>
    rw [Registry.contains_addUnique, Option.bind_some]
    by_cases same : d = c <;> simp [same]
  | leaves d =>
    rw [Registry.contains_remove, Option.bind_some]
    by_cases same : d = c <;> simp [same]
  | stays => rfl
  | swept => exact r.contains_sweep c alive

end Turn

section Registries

variable (m : CallMonitor) (s : SideStream)

/-- A registration for a side stream changes the registry of that stream. -/
theorem registry_register (live : Liveness) (c : ConsumerId) (tag : Tag) (stream : CallStream) :
    s.registry (m.register live c tag stream).1 =
      if SideStream.ofName? stream = some s then (s.registry m).addUnique ⟨c, tag, none⟩
        else s.registry m := by
  cases stream <;> cases s <;> rfl

/-- So does a removal. -/
theorem registry_unregister (c : ConsumerId) (stream : CallStream) :
    s.registry (m.unregister c stream) =
      if SideStream.ofName? stream = some s then (s.registry m).remove c else s.registry m := by
  cases stream <;> cases s <;> rfl

theorem registry_mediaRegistry (cls : TrafficClass) :
    m.mediaRegistry cls = (SideStream.ofClass cls).registry m := by
  cases cls <;> rfl

/-- The registry of a class is that of its side stream. -/
theorem registry_withMediaRegistry (cls : TrafficClass) (r : Registry) :
    s.registry (m.withMediaRegistry cls r) =
      if SideStream.ofClass cls = s then r else s.registry m := by
  cases cls <;> cases s <;> rfl

end Registries

section Closed

variable {m : CallMonitor} (closed : m.isClosed = true) (t : Moment)

include closed

/-- A closed monitor keeps what it knows of calls, and the call types published last. -/
theorem SameCalls.next_of_closed : SameCalls m (m.next t) := by
  obtain ⟨live, connected, op⟩ := t
  cases op with
  | update event =>
    rw [next_update_of_closed closed]
    exact .refl m
  | close =>
    have again : m.next ⟨live, connected, .close⟩ = m := if_pos closed
    rw [again]
    exact .refl m
  | _ => exact sameCalls_next m _ rfl (by rintro ⟨⟩)

/-- Only a request that says so adds a consumer to a side stream or takes a live one away. -/
theorem turn_next (s : SideStream) :
    Turn t.live (s.registry m) (t.op.turnOf? s) (s.registry (m.next t)) := by
  obtain ⟨live, connected, op⟩ := t
  cases op with
  | update event =>
    rw [next_update_of_closed closed]
    exact .stays
  | poorMedia r =>
    cases s with
    | transport | trying => exact .stays
    | imsMedia | emergencyMedia =>
      unfold next step CallMonitor.afterMedia SideStream.registry
      dsimp only
      split
      · exact .swept
      · exact .stays
  | requestThresholds r =>
    unfold next step
    dsimp only
    split <;> exact .stays
  | preferTransport transport =>
    cases s with
    | transport => exact .publishIfChanged m.preferredTransport transport
    | _ => exact .stays
  | tryWfc trying =>
    cases s with
    | trying => exact .publishIfChanged m.tryingWfc trying
    | _ => exact .stays
  | register stream c tag =>
    show Turn live (s.registry m) _ (s.registry (m.register live c tag stream).1)
    -- the name of the stream says which registry it is
    rw [registry_register, Op.turnOf?, Op.turn?]
    cases SideStream.ofName? stream with
    | none => exact .stays
    | some named =>
      by_cases same : named = s
      · simpa [same] using Turn.joins c tag
      · simpa [same] using Turn.stays
  | unregister stream c =>
    show Turn live (s.registry m) _ (s.registry (m.unregister c stream))
    rw [registry_unregister, Op.turnOf?, Op.turn?]
    cases SideStream.ofName? stream with
    | none => exact .stays
    | some named =>
      by_cases same : named = s
      · simpa [same] using Turn.leaves c
      · simpa [same] using Turn.stays
  | registerMedia raw c tag =>
    unfold next step Op.turnOf? Op.turn?
    dsimp only
    cases mediaClass raw with
    | error e => exact .stays
    | ok cls =>
      dsimp only
      rw [registry_withMediaRegistry, registry_mediaRegistry]
      by_cases same : SideStream.ofClass cls = s
      · simpa [same, Except.toOption] using Turn.joins c tag
      · simpa [same, Except.toOption] using Turn.stays
  | unregisterMedia raw c =>
    unfold next step Op.turnOf? Op.turn?
    dsimp only
    cases mediaClass raw with
    | error e => exact .stays
    | ok cls =>
      dsimp only
      rw [registry_withMediaRegistry, registry_mediaRegistry]
      by_cases same : SideStream.ofClass cls = s
      · simpa [same, Except.toOption] using Turn.leaves c
      · simpa [same, Except.toOption] using Turn.stays
  | close =>
    have again : m.next ⟨live, connected, .close⟩ = m := if_pos closed
    rw [again]
    exact .stays

/-- A report on a side stream is remembered. -/
theorem remembered_next :
    (m.next t).preferredTransport.current = t.op.transport?.or m.preferredTransport.current ∧
      (m.next t).tryingWfc.current = t.op.trying?.or m.tryingWfc.current := by
  obtain ⟨live, connected, op⟩ := t
  cases op with
  | update event =>
    rw [next_update_of_closed closed]
    exact ⟨rfl, rfl⟩
  | preferTransport transport =>
    exact ⟨Notifier.current_publishIfChanged m.preferredTransport live transport, rfl⟩
  | tryWfc trying => exact ⟨rfl, Notifier.current_publishIfChanged m.tryingWfc live trying⟩
  | requestThresholds r =>
    unfold next step
    dsimp only
    split <;> exact ⟨rfl, rfl⟩
  | register stream c tag => cases stream <;> exact ⟨rfl, rfl⟩
  | unregister stream c => cases stream <;> exact ⟨rfl, rfl⟩
  | registerMedia raw c tag | unregisterMedia raw c =>
    unfold next step
    dsimp only
    split
    · exact ⟨rfl, rfl⟩
    · unfold withMediaRegistry
      split <;> exact ⟨rfl, rfl⟩
  | poorMedia r => exact ⟨rfl, rfl⟩
  | close =>
    have again : m.next ⟨live, connected, .close⟩ = m := if_pos closed
    rw [again]
    exact ⟨rfl, rfl⟩

end Closed

/-! ## What one request tells -/

/-- What a closed monitor tells a live consumer on a request. -/
theorem told_step {m : CallMonitor} (closed : m.isClosed = true)
    (single : ∀ s : SideStream, (s.registry m).Single) {live : Liveness} {c : ConsumerId}
    (alive : live c = true) (connected : TrafficClass → Bool) (op : Op) :
    (received c (m.step live connected op).sent).map Notification.value =
      told (fun s => (s.registry m).contains c) m.preferredTransport.current m.tryingWfc.current
        m.overlay c op := by
  cases op with
  | update event =>
    unfold step
    dsimp only
    rw [if_pos closed]
    rfl
  | poorMedia r =>
    have singleIms : m.imsMedia.Single := single .imsMedia
    have singleEmergency : m.emergencyMedia.Single := single .emergencyMedia
    have ims :
        (received c ((m.imsMedia.broadcast live r none).map (·.map CallNotice.imsMedia))).map
          Notification.value =
        if m.imsMedia.contains c = true then [.imsMedia r] else [] := by
      rw [values_received_map, singleIms.values_broadcast alive]
      exact apply_ite (List.map CallNotice.imsMedia) _ _ _
    have emergency :
        (received c
          ((m.emergencyMedia.broadcast live r none).map (·.map CallNotice.emergencyMedia))).map
          Notification.value =
        if m.emergencyMedia.contains c = true then [.emergencyMedia r] else [] := by
      rw [values_received_map, singleEmergency.values_broadcast alive]
      exact apply_ite (List.map CallNotice.emergencyMedia) _ _ _
    -- which of the two media streams is told depends on the kind of call and on the overlay
    obtain ⟨callType, reason⟩ := r
    cases callType with
    | idle => simp [step, mediaDeliveries, told, ConcernsIms]
    | voice | video =>
      refine ims.trans ?_
      simp [told, ConcernsIms, SideStream.registry]
    | emergency =>
      simp only [step, mediaDeliveries, received_append, List.map_append, emergency]
      cases m.overlay
      · simp [told, ConcernsIms, SideStream.registry]
      · simp only [if_true, ims]
        simp [told, ConcernsIms, SideStream.registry]
  | requestThresholds r =>
    unfold step
    dsimp only
    split <;> rfl
  | preferTransport transport =>
    refine (values_received_map c (m.preferredTransport.publishIfChanged live transport).2
      CallNotice.preferredTransport).trans ?_
    rw [Notifier.values_publishIfChanged (single .transport) alive, told]
    exact apply_ite (List.map CallNotice.preferredTransport) _ _ _
  | tryWfc trying =>
    refine (values_received_map c (m.tryingWfc.publishIfChanged live trying).2
      CallNotice.tryingWfc).trans ?_
    rw [Notifier.values_publishIfChanged (single .trying) alive, told]
    exact apply_ite (List.map CallNotice.tryingWfc) _ _ _
  | register stream d tag =>
    cases stream with
    | callType | emergencyType => rfl
    | preferredTransport =>
      refine (values_received_map c (m.preferredTransport.registerWithReplay live d tag).2
        CallNotice.preferredTransport).trans ?_
      rw [Notifier.values_registerWithReplay _ alive, told]
      exact apply_ite (List.map CallNotice.preferredTransport) _ _ _
    | tryingWfc =>
      refine (values_received_map c (m.tryingWfc.registerWithReplay live d tag).2
        CallNotice.tryingWfc).trans ?_
      rw [Notifier.values_registerWithReplay _ alive, told]
      exact apply_ite (List.map CallNotice.tryingWfc) _ _ _
  | unregister stream d => rfl
  | registerMedia raw d tag | unregisterMedia raw d =>
    unfold step
    dsimp only
    split <;> rfl
  | close => rfl

/-! ## Whole runs -/

/-- The registrations of a side stream are among those of the monitor. -/
theorem Within.side {P : ConsumerId → Prop} {m : CallMonitor} (within : m.Within P)
    (s : SideStream) :
    (s.registry m).Within P := by
  cases s with
  | transport => exact within.preferredTransport
  | trying => exact within.tryingWfc
  | imsMedia => exact within.imsMedia
  | emergencyMedia => exact within.emergencyMedia

/-- The first closing drops all consumers, and what was told last on the streams that remember
it. -/
theorem close_of_open {m : CallMonitor} (isOpen : m.isClosed = false) : m.close =
    { m with
      isClosed := true
      callType := m.callType.clear
      emergencyType := m.emergencyType.clear
      preferredTransport := m.preferredTransport.clear
      tryingWfc := m.tryingWfc.clear
      imsMedia := m.imsMedia.clear
      emergencyMedia := m.emergencyMedia.clear } :=
  if_neg (by simp [isOpen])

/-- Closing leaves nobody registered. -/
theorem within_close {m : CallMonitor} (isOpen : m.isClosed = false) (P : ConsumerId → Prop) :
    m.close.Within P := by
  rw [close_of_open isOpen]
  exact ⟨Registry.within_clear _, Registry.within_clear _, Registry.within_clear _,
    Registry.within_clear _, Registry.within_clear _, Registry.within_clear _⟩

/-- A closing keeps the slot, the overlay, and which call is active. -/
theorem kept_close (m : CallMonitor) :
    m.close.slot = m.slot ∧ m.close.overlay = m.overlay ∧
      ∀ c, m.close.activeCall c = m.activeCall c := by
  unfold close
  split <;> exact ⟨rfl, rfl, fun _ => rfl⟩

/-- What a monitor knows of calls is as it was at the closing. Who listens to the side streams, and
what was told there last, is what the requests since the closing say. -/
structure SinceClosing (shut : CallMonitor) (ops : List Op) (w : World CallMonitor CallNotice) :
    Prop where
  calls : SameCalls shut w.state
  slot : w.state.slot = shut.slot
  transport : w.state.preferredTransport.current = latest Op.transport? ops
  trying : w.state.tryingWfc.current = latest Op.trying? ops
  single : ∀ s : SideStream, (s.registry w.state).Single
  within : w.state.Within w.room.Opened
  opened : ∀ s c, listens ops s c = true → w.room.Opened c
  registered : ∀ s c, w.room.live c = true →
    (SideStream.registry w.state s).contains c = listens ops s c

/-- Right after the closing nobody listens and nothing was told. -/
theorem sinceClosing_close {m : CallMonitor} (isOpen : m.isClosed = false)
    (room : Mailroom CallNotice) :
    SinceClosing m.close [] ⟨m.close, room⟩ := by
  have empty (s : SideStream) : ∃ r : Registry, s.registry m.close = r.clear := by
    rw [close_of_open isOpen]
    cases s <;> exact ⟨_, rfl⟩
  refine ⟨.refl _, rfl, ?_, ?_, ?_, within_close isOpen _, ?_, ?_⟩
  · exact congrArg (fun n : CallMonitor => n.preferredTransport.current) (close_of_open isOpen)
  · exact congrArg (fun n : CallMonitor => n.tryingWfc.current) (close_of_open isOpen)
  · intro s
    obtain ⟨r, same⟩ := empty s
    rw [same]
    exact r.single_clear
  · intro s c listening
    cases listening
  · intro s c alive
    obtain ⟨r, same⟩ := empty s
    show (s.registry m.close).contains c = false
    rw [same]
    rfl

section SinceClosing

variable {shut : CallMonitor} {ops : List Op} {w : World CallMonitor CallNotice}

/-- What is known of a closed monitor by the requests since is known after one more. -/
theorem SinceClosing.ask (since : SinceClosing shut ops w) (closed : shut.isClosed = true)
    {request : Request} (exist : ∀ c, request.op.registers = some c → w.room.Opened c) :
    SinceClosing shut (ops ++ [request.op]) (w.next serve (.ask request)) := by
  have stillClosed : w.state.isClosed = true := since.calls.isClosed.trans closed
  let t : Moment := ⟨w.room.live, request.connected, request.op⟩
  obtain ⟨transport, trying⟩ := remembered_next stillClosed t
  have turns := turn_next stillClosed t
  refine ⟨since.calls.trans (SameCalls.next_of_closed stillClosed t),
    (w.state.keeps_next t).1.trans since.slot, ?_, ?_,
    fun s => (turns s).single (since.single s), ?_, ?_, ?_⟩
  · rw [latest_concat, ← since.transport]
    exact transport
  · rw [latest_concat, ← since.trying]
    exact trying
  · exact (since.within.step w.room.live request.connected exist).1.mono fun c opened =>
      opened.deliverAll _
  · intro s c listening
    rw [listens_concat] at listening
    refine Mailroom.Opened.deliverAll ?_ _
    -- a consumer that is said to listen registered with this request or earlier
    cases turned : request.op.turns s c with
    | none =>
      rw [turned] at listening
      exact since.opened s c listening
    | some yes =>
      rw [turned] at listening
      obtain rfl : yes = true := listening
      exact exist c (registers_of_turns turned)
  · intro s c alive
    rw [w.live_ask] at alive
    rw [listens_concat, ← since.registered s c alive]
    exact (turns s).contains alive

/-- It does not depend on what happens to mailboxes. -/
theorem SinceClosing.happen (since : SinceClosing shut ops w) (e : Mailroom.Event) :
    SinceClosing shut ops (w.next serve (.happen e)) := by
  refine ⟨since.calls, since.slot, since.transport, since.trying, since.single,
    since.within.mono fun c opened => opened.afterEvent e, ?_, ?_⟩
  · exact fun s c listening => (since.opened s c listening).afterEvent e
  intro s c alive
  -- a consumer that is live now was so before, unless it did not exist, and then it is not
  -- registered
  by_cases opened : w.room.Opened c
  · have aliveAfter : (w.after serve [.happen e]).room.live c = true := alive
    exact since.registered s c (World.live_of_live_after opened aliveAfter)
  · have unregistered : (s.registry w.state).contains c = false := by
      rw [Bool.eq_false_iff]
      intro held
      obtain ⟨t, stands, rfl⟩ := (Registry.contains_iff _ c).1 held
      exact opened (since.within.side s t stands)
    have deaf : listens ops s c = false := by
      rw [Bool.eq_false_iff]
      exact fun listening => opened (since.opened s c listening)
    exact unregistered.trans deaf.symm

/-- Whatever is asked after the closing, all is as the requests say, as long as consumers exist
before they register. -/
theorem SinceClosing.after (since : SinceClosing shut [] w) (closed : shut.isClosed = true)
    {later : List (World.Act Request)}
    (acquainted : World.Acquainted serve (fun request => request.op.registers) w later) :
    SinceClosing shut ((World.asked later).map Request.op) (w.after serve later) := by
  induction later using List.reverseRecOn with
  | nil => exact since
  | append_singleton later act ih =>
    have sinceThen := ih acquainted.of_concat
    rw [World.after_concat, World.asked_concat, List.map_append]
    cases act with
    | ask request => exact sinceThen.ask closed fun c names => acquainted.opened names
    | happen e =>
      refine (congrArg (SinceClosing shut · _) (List.append_nil _)).mpr ?_
      exact sinceThen.happen e

end SinceClosing

/-! ## What is silent after closing -/

section Silent

variable {w : World CallMonitor CallNotice}

/-- A report about a call sends nothing. -/
theorem sentBy_of_report (closed : w.state.isClosed = true) {request : Request} {event : CallEvent}
    (report : request.report? = some event) : w.sentBy serve (.ask request) = [] := by
  obtain ⟨connected, op⟩ := request
  cases op with
  | update e =>
    show (w.state.step w.room.live connected (.update e)).sent = []
    unfold step
    dsimp only
    rw [if_pos closed]
  | _ => cases report

/-- Nobody is told a call type. -/
theorem heard_sent_of_closed (closed : w.state.isClosed = true) (run : List (World.Act Request))
    (s : TypeStream) (c : ConsumerId) : s.heard c (w.sent serve run) = [] := by
  induction run generalizing w with
  | nil => rfl
  | cons act run ih =>
    cases act with
    | happen e => exact ih (w := w.next serve (.happen e)) closed
    | ask request =>
      have stillClosed : (w.next serve (.ask request)).state.isClosed = true :=
        (SameCalls.next_of_closed closed
          ⟨w.room.live, request.connected, request.op⟩).isClosed.trans closed
      have now : s.heard c (w.sentBy serve (.ask request)) = [] := by
        cases report : request.report? with
        | none => exact heard_of_quiet report s c
        | some event =>
          rw [sentBy_of_report closed report]
          rfl
      show s.heard c (w.sentBy serve (.ask request) ++
        (w.next serve (.ask request)).sent serve run) = []
      rw [s.heard_append, now, ih stillClosed]
      rfl

/-- Whoever is not registered and does not register is told nothing. -/
theorem received_sent_of_stranger {c : ConsumerId} (within : w.state.Within (· ≠ c))
    {run : List (World.Act Request)}
    (never : ∀ request ∈ World.asked run, request.op.registers ≠ some c) :
    received c (w.sent serve run) = [] := by
  induction run generalizing w with
  | nil => rfl
  | cons act run ih =>
    cases act with
    | happen e => exact ih (w := w.next serve (.happen e)) within never
    | ask request =>
      have own : ∀ d, request.op.registers = some d → d ≠ c := by
        rintro d names rfl
        exact never request List.mem_cons_self names
      obtain ⟨still, reaches⟩ := within.step w.room.live request.connected own
      have now : received c (w.sentBy serve (.ask request)) = [] :=
        reaches.received fun both => both.2 rfl
      show received c (w.sentBy serve (.ask request) ++
        (w.next serve (.ask request)).sent serve run) = []
      rw [received_append, now, ih (w := w.next serve (.ask request)) still fun later asks =>
        never later (List.mem_cons_of_mem request asks)]
      rfl

end Silent

/-- Where a monitor knows the same of calls, thresholds go to the same call. -/
theorem SameCalls.activeCall {m n : CallMonitor} (same : SameCalls m n) (c : TrafficClass) :
    n.activeCall c = m.activeCall c := by
  unfold CallMonitor.activeCall
  rw [same.legs, same.emergency]

/-- A closed monitor pushes the thresholds that are asked for to the call that is active by what it
knows. -/
theorem pushed_of_closed {m : CallMonitor} (closed : m.isClosed = true) (t : Moment) :
    m.pushed t = t.accepted?.toList.flatMap fun r =>
      (m.activeCall r.trafficClass).toList.map fun call => ⟨m.slot, call, r⟩ := by
  cases accepted : t.accepted? with
  | some r =>
    obtain ⟨live, connected, op⟩ := t
    cases op with
    | requestThresholds q =>
      obtain ⟨carries, rfl⟩ : q.trafficClass.carriesMedia = true ∧ q = r := by
        simpa [Moment.accepted?] using accepted
      have both := m.step_requestThresholds live connected q
      rw [if_pos carries] at both
      simpa using congrArg Prod.snd both
    | _ => cases accepted
  | none =>
    cases report : t.report? with
    | none => exact m.pushed_of_other report accepted
    | some event =>
      obtain ⟨live, connected, op⟩ := t
      cases op with
      | update e =>
        unfold pushed step
        dsimp only
        rw [if_pos closed]
        rfl
      | _ => cases report

/-- The answers to the five queries. -/
def queries (m : CallMonitor) : CallType × Bool × Bool × Nat × Bool :=
  (m.currentType, m.isIdle, m.isEmergencyIdle, m.legs.size, m.overlay)

theorem SameCalls.queries {m n : CallMonitor} (same : SameCalls m n) : n.queries = m.queries := by
  unfold CallMonitor.queries isIdle isEmergencyIdle currentType
  rw [same.callType, same.emergency, same.legs, same.overlay]

/-- What a monitor does that `atClosing` describes as it was closed, after the acts `later` have led
from `shut`, right after the closing, to `now`. -/
structure AfterClosing (atClosing : CallMonitor) (shut : World CallMonitor CallNotice)
    (later : List (World.Act Request)) (now : World CallMonitor CallNotice) : Prop where
  /-- No answer to a query has changed. -/
  queries : now.state.queries = shut.state.queries
  /-- A report about a call does nothing. -/
  reports : ∀ live connected event, now.state.step live connected (.update event) =
    ⟨now.state, .done, [], []⟩
  /-- No call type has been told to anybody. -/
  types : ∀ (s : TypeStream) c, s.heard c (shut.sent serve later) = []
  /-- Whoever has not registered since has been told nothing at all. -/
  strangers : ∀ c, (∀ request ∈ World.asked later, request.op.registers ≠ some c) →
    received c (shut.sent serve later) = []
  /-- Whoever has registered with a side stream since is told there what differs from what was told
  since, and by a replay what was told last; poor media of an emergency call is echoed if it was at
  the closing. -/
  told : ∀ request c, (received c (now.sentBy serve (.ask request))).map Notification.value =
    let ops := (World.asked later).map Request.op
    if now.room.live c = true then
      told (fun s => listens ops s c) (latest Op.transport? ops)
        (latest Op.trying? ops) atClosing.overlay c request.op
    else []
  /-- An accepted request for thresholds is pushed to the call that was active at the closing, and
  nothing else pushes. -/
  pushes : ∀ t : Moment, now.state.pushed t = t.accepted?.toList.flatMap fun r =>
    (atClosing.activeCall r.trafficClass).toList.map fun call => ⟨atClosing.slot, call, r⟩

/-- After the first closing of a run nothing more comes of calls and the consumers that there were,
but the side streams and the push of thresholds live on. -/
theorem after_closing (slot : SlotIndex) (room : Mailroom CallNotice)
    (before later : List (World.Act Request)) (connected : TrafficClass → Bool)
    (isOpen : ((beginning slot room).after serve before).state.isClosed = false)
    (acquainted : World.Acquainted serve (fun request => request.op.registers)
      (beginning slot room) (before ++ .ask ⟨connected, .close⟩ :: later)) :
    let last := (beginning slot room).after serve before
    let shut := last.next serve (.ask ⟨connected, .close⟩)
    AfterClosing last.state shut later (shut.after serve later) := by
  intro last shut
  have isShut : shut.state.isClosed = true := congrArg CallMonitor.isClosed (close_of_open isOpen)
  obtain ⟨slots, overlays, calls⟩ := last.state.kept_close
  -- everything is read off what is known since the closing
  have since : SinceClosing last.state.close ((World.asked later).map Request.op)
      (shut.after serve later) :=
    (sinceClosing_close isOpen shut.room).after isShut acquainted.of_later.of_cons
  have closedNow : (shut.after serve later).state.isClosed = true :=
    since.calls.isClosed.trans isShut
  refine ⟨since.calls.queries, ?_, heard_sent_of_closed isShut later, ?_, ?_, ?_⟩
  · intro live connected event
    unfold step
    dsimp only
    rw [if_pos closedNow]
  · intro c never
    exact received_sent_of_stranger (within_close isOpen _) never
  · intro request c
    dsimp only
    split
    · rename_i alive
      have listening : (fun s : SideStream =>
        (s.registry (shut.after serve later).state).contains c) =
          fun s => listens ((World.asked later).map Request.op) s c :=
            funext fun s => since.registered s c alive
      have tells := told_step closedNow since.single alive request.connected request.op
      rw [listening, since.transport, since.trying, since.calls.overlay.trans overlays] at tells
      exact tells
    · rename_i dead
      have untold : received c ((shut.after serve later).sentBy serve (.ask request)) = [] :=
        discreet_serve _ _ _ _ (Bool.eq_false_iff.2 dead)
      rw [untold]
      rfl
  · intro t
    rw [pushed_of_closed closedNow, since.slot.trans slots]
    simp only [fun c => (since.calls.activeCall c).trans (calls c)]

/-- A voice call is up. -/
def voiceUp : List (World.Act Request) := [.ask ⟨fun _ => true, .update ⟨⟨1⟩, .voice, .active⟩⟩]

/-- A consumer registers for the preferred transport, and Wi-Fi is reported. -/
def lateRegistration : List (World.Act Request) :=
  [.ask ⟨fun _ => true, .register .preferredTransport ⟨0⟩ ⟨1⟩⟩,
    .ask ⟨fun _ => true, .preferTransport .wlan⟩]

/-- After the closing the late consumer is not told the same transport again, but the next one. -/
theorem after_closing_lateRegistration :
    let last := (beginning ⟨0⟩ Mailroom.empty.openBox).after serve voiceUp
    let shut := last.next serve (.ask ⟨fun _ => true, .close⟩)
    let now := shut.after serve lateRegistration
    last.state.isClosed = false ∧ AfterClosing last.state shut lateRegistration now ∧
      (received ⟨0⟩ (now.sentBy serve (.ask ⟨fun _ => true, .preferTransport .wlan⟩))).map
        Notification.value = [] ∧
      (received ⟨0⟩ (now.sentBy serve (.ask ⟨fun _ => true, .preferTransport .wwan⟩))).map
        Notification.value =
        [.preferredTransport .wwan] := by
  have acquainted : World.Acquainted serve (fun request => request.op.registers)
    (beginning ⟨0⟩ Mailroom.empty.openBox)
      (voiceUp ++ .ask ⟨fun _ => true, .close⟩ :: lateRegistration) := by
    refine World.acquainted_of_opened fun request asks c names => ?_
    simp only [voiceUp, lateRegistration, World.asked, World.Act.request?, List.cons_append,
      List.nil_append, List.filterMap_cons, List.filterMap_nil, List.mem_cons, List.not_mem_nil,
      or_false] at asks
    obtain rfl | rfl | rfl | rfl := asks
    · cases names
    · cases names
    · cases names
      exact (Mailroom.empty : Mailroom CallNotice).openBox.opened_of_live (by decide)
    · cases names
  have isOpen : ((beginning ⟨0⟩ Mailroom.empty.openBox).after serve voiceUp).state.isClosed =
    false := by decide
  exact ⟨isOpen, after_closing ⟨0⟩ _ voiceUp lateRegistration _ isOpen acquainted,
    by decide, by decide⟩

/-- After the closing, limits are pushed to the voice call that was up, and the late consumer is
told the transport. So a closed monitor is not silent. -/
theorem not_silent_after_closing :
    let run := voiceUp ++ [.ask ⟨fun _ => true, .close⟩]
    let shut := (beginning ⟨0⟩ Mailroom.empty.openBox).after serve run
    let limits : Moment := ⟨shut.room.live, fun _ => true, .requestThresholds imsLimits⟩
    shut.state.isClosed = true ∧ shut.state.pushed limits = [⟨⟨0⟩, ⟨1⟩, imsLimits⟩] ∧
      (received ⟨0⟩ (shut.sent serve lateRegistration)).map Notification.value =
        [.preferredTransport .wlan] ∧
      (¬ ∀ slot room run t, ((beginning slot room).after serve run).state.isClosed = true →
        ((beginning slot room).after serve run).state.pushed t = []) ∧
      ¬ ∀ slot room run later, ((beginning slot room).after serve run).state.isClosed = true →
        ((beginning slot room).after serve run).sent serve later = [] := by
  intro run shut limits
  refine ⟨by decide, by decide, by decide, fun never => ?_, fun never => ?_⟩
  · have pushesNone := never ⟨0⟩ Mailroom.empty.openBox run limits (by decide)
    exact absurd pushesNone (by decide)
  · have tellsNobody := never ⟨0⟩ Mailroom.empty.openBox run lateRegistration (by decide)
    exact absurd tellsNobody (by decide)

end CallMonitor

end AccessStatus
