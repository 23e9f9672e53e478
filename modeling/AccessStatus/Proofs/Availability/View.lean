import AccessStatus.Proofs.Availability.Coherence
import AccessStatus.Proofs.Stream.World
import Mathlib.Data.List.Chain

/-!
# What subscribers of an availability monitor see

A monitor serves a world of consumers, while its configuration answers otherwise from time to time.
What a consumer is told does not say about which slot it is; one that registers for a single slot is
told about that slot alone (`hears_or_not`). So a live subscriber has always been told last, but for
the announcement of a loss, what is remembered for its slot (`view_after`), and is not told a value
twice in a row but for announcements (`isChain_heard`).
-/

namespace AccessStatus

namespace AvailabilityMonitor

/-! ## A monitor in a world of consumers -/

/-- What can be asked for: that the configuration answers otherwise from now on, or a request to the
monitor. -/
inductive Query where
  | configure (source : ConfigSource)
  | ask (op : Op)

/-- What happens to the monitor by a query. -/
def Query.happening (live : Liveness) : Query → Happening
  | .configure source => .configure source
  | .ask op => .ask live op

/-- The consumer that a query registers. -/
def Query.registers : Query → Option ConsumerId
  | .ask (.register _ c _) => some c
  | _ => none

/-- What a happening sends. -/
def Scene.sentBy (s : Scene) : Happening → List (Delivery (SlotIndex × Availability))
  | .configure _ => []
  | .ask live op => (s.monitor.step s.config live op).sent

/-- The scene after a query, and what the query sends. -/
def serve : Serving Scene Query (SlotIndex × Availability) := fun s live query =>
  (s.next (query.happening live), s.sentBy (query.happening live))

/-- The consumer is registered for the slot in the course of a run. -/
def RegisteredFor (run : List (World.Act Query)) (slot : SlotIndex) (c : ConsumerId) : Prop :=
  ∃ tag, World.Act.ask (.ask (.register slot c tag)) ∈ run

theorem RegisteredFor.append {run : List (World.Act Query)} {slot : SlotIndex} {c : ConsumerId}
    (registered : RegisteredFor run slot c) (later : List (World.Act Query)) :
    RegisteredFor (run ++ later) slot c :=
  registered.imp fun _ asked => List.mem_append_left later asked

/-! ## What a request sends -/

/-- A closed monitor sends nothing. -/
theorem sent_of_closed {m : AvailabilityMonitor} (closed : m.isClosed = true)
    (config : ConfigSource) (live : Liveness) (op : Op) : (m.step config live op).sent = [] := by
  cases op <;> simp [step, unlessClosed, closed]

/-- What a request sends about a slot is what it comes to for that slot. -/
theorem mem_sent {m : AvailabilityMonitor} {config : ConfigSource} {live : Liveness} {op : Op}
    {d : Delivery (SlotIndex × Availability)} (sent : d ∈ (m.step config live op).sent) :
    d.map Prod.snd ∈
      ((m.slotAct config op d.notification.value.1).apply live
        (m.contexts.get? d.notification.value.1)).2 := by
  cases closed : m.isClosed with
  | true =>
    rw [sent_of_closed closed] at sent
    cases sent
  | false =>
    rw [← about_step config live closed]
    exact List.mem_map.2 ⟨d, List.mem_filter.2 ⟨sent, decide_eq_true rfl⟩, rfl⟩

/-- A request registers a consumer for a slot if the slot's act does. -/
theorem registers_slotAct (m : AvailabilityMonitor) (config : ConfigSource) (op : Op)
    (slot : SlotIndex) (c : ConsumerId) :
    (m.slotAct config op slot).Registers c ↔ ∃ tag, op = .register slot c tag := by
  unfold slotAct
  cases op with
  | network event =>
    dsimp only
    split <;> simp [SlotAct.Registers]
  | registered j yes | crossSim j enabled | unregister j d | closeSlot j =>
    dsimp only
    split <;> simp [SlotAct.Registers]
  | register j d tag =>
    dsimp only
    split
    · rename_i same
      simp [SlotAct.Registers, same]
    · rename_i other
      simp [SlotAct.Registers, other]
  | configChanged | close => simp [SlotAct.Registers]

/-- Nothing is sent to consumers that are not live. -/
theorem discreet_serve : serve.Discreet := by
  intro s live query c dead
  cases query with
  | configure source => rfl
  | ask op =>
    show received c (s.monitor.step s.config live op).sent = []
    rw [List.eq_nil_iff_forall_not_mem]
    intro n told
    obtain ⟨d, sent, rfl, -⟩ := mem_received_iff.1 told
    have alive : live d.consumer = true := (SlotAct.mem_apply _ live _ _ (mem_sent sent)).1
    exact Bool.false_ne_true (dead.symm.trans alive)

/-! ## What a consumer hears -/

/-- What a consumer is told, which does not say about which slot. -/
def heard (c : ConsumerId) (sent : List (Delivery (SlotIndex × Availability))) :
    List (Notification Availability) :=
  received c (sent.map (·.map Prod.snd))

@[simp] theorem heard_nil (c : ConsumerId) : heard c [] = [] := rfl

theorem heard_append (c : ConsumerId) (sent more : List (Delivery (SlotIndex × Availability))) :
    heard c (sent ++ more) = heard c sent ++ heard c more := by
  rw [heard, List.map_append, received_append, ← heard, ← heard]

/-- A consumer that is told about one slot only hears what is sent it about that slot. -/
theorem heard_eq_about {c : ConsumerId} {slot : SlotIndex}
    {sent : List (Delivery (SlotIndex × Availability))}
    (only : ∀ d ∈ sent, d.consumer = c → d.notification.value.1 = slot) :
    heard c sent = received c (about slot sent) := by
  unfold heard about received
  rw [List.filter_map, List.filter_map, List.filter_filter]
  congr 2
  apply List.filter_congr
  intro d told
  show decide (d.consumer = c) = (decide (d.consumer = c) && decide (d.notification.value.1 = slot))
  by_cases mine : d.consumer = c
  · simp [mine, only d told mine]
  · simp [mine]

/-! ## What is known along a run -/

/-- The monitor is coherent, and has registered nobody who does not exist and did not ask for it. -/
structure Sound (w : World Scene (SlotIndex × Availability)) (run : List (World.Act Query)) :
    Prop where
  coherent : w.state.monitor.Coherent
  registered : ∀ slot c, w.state.monitor.Subscribed slot c → w.room.Opened c ∧
    RegisteredFor run slot c

/-- The beginning of a run: the monitor is fresh, consumers may exist. -/
def beginning (config : ConfigSource) (room : Mailroom (SlotIndex × Availability)) :
    World Scene (SlotIndex × Availability) :=
  ⟨⟨config, .fresh⟩, room⟩

section Step

variable {w : World Scene (SlotIndex × Availability)} {run : List (World.Act Query)}

/-- A monitor that is open after an act was open before it. -/
theorem open_of_next {act : World.Act Query}
    (stillOpen : (w.next serve act).state.monitor.isClosed = false) :
    w.state.monitor.isClosed = false := by
  cases act with
  | happen e => exact stillOpen
  | ask query =>
    cases query with
    | configure source => exact stillOpen
    | ask op => exact (open_before w.state.config w.room.live op stillOpen).1

/-- Each act of an open monitor keeps what the run says of who is registered. -/
theorem Sound.next (sound : Sound w run) {act : World.Act Query}
    (stillOpen : (w.next serve act).state.monitor.isClosed = false)
    (exist : ∀ query c, act = .ask query → query.registers = some c → w.room.Opened c) :
    Sound (w.next serve act) (run ++ [act]) := by
  have kept : ∀ slot c, w.state.monitor.Subscribed slot c →
      (w.next serve act).room.Opened c ∧ RegisteredFor (run ++ [act]) slot c := fun slot c known =>
    ⟨World.opened_next (sound.registered slot c known).1 act,
      (sound.registered slot c known).2.append [act]⟩
  cases act with
  | happen e => exact ⟨sound.coherent, kept⟩
  | ask query =>
    refine ⟨Coherent.happen stillOpen fun _ => sound.coherent, ?_⟩
    cases query with
    | configure source => exact kept
    | ask op =>
      obtain ⟨isOpen, -⟩ := open_before w.state.config w.room.live op stillOpen
      intro slot c known
      replace known : SlotAct.Subscribed
        ((w.state.monitor.next w.state.config w.room.live op).contexts.get? slot) c := known
      rw [contexts_step w.state.config w.room.live isOpen] at known
      rcases SlotAct.subscribed_of_apply known with new | old
      · obtain ⟨tag, rfl⟩ := (registers_slotAct _ _ op slot c).1 new
        refine ⟨World.opened_next (exist _ c rfl rfl) _, tag, ?_⟩
        exact List.mem_append_right run List.mem_cons_self
      · exact kept slot c old

/-- A consumer hears one thing in an act: what is remembered for the slot after it. Unless the act
registers it, it was registered for the slot, and what it hears announces a loss or is not what was
remembered. -/
structure Hears (w : World Scene (SlotIndex × Availability)) (act : World.Act Query)
    (slot : SlotIndex) (c : ConsumerId) (n : Notification Availability) : Prop where
  heard : heard c (w.sentBy serve act) = [n]
  remembered : (w.next serve act).state.monitor.lastInfo slot = some n.value.settled
  news : RegisteredFor [act] slot c ∨ w.room.live c = true ∧ w.state.monitor.Subscribed slot c ∧
    (n.value.notifyDisabled = true ∨ w.state.monitor.lastInfo slot ≠ some n.value)

/-- A consumer hears nothing in an act: if it is a live subscriber of the slot after it, it was one
before, and what is remembered is the same. -/
structure HearsNothing (w : World Scene (SlotIndex × Availability)) (act : World.Act Query)
    (slot : SlotIndex) (c : ConsumerId) : Prop where
  heard : heard c (w.sentBy serve act) = []
  kept : (w.next serve act).room.live c = true →
    (w.next serve act).state.monitor.Subscribed slot c →
    w.room.live c = true ∧ w.state.monitor.Subscribed slot c ∧
      (w.next serve act).state.monitor.lastInfo slot = w.state.monitor.lastInfo slot

/-- What happens to mailboxes tells nobody anything. -/
theorem hearsNothing_happen (sound : Sound w run) (e : Mailroom.Event) (slot : SlotIndex)
    (c : ConsumerId) :
    HearsNothing w (.happen e) slot c := by
  refine ⟨rfl, fun alive subscribed => ⟨?_, subscribed, rfl⟩⟩
  by_contra dead
  have opened := (sound.registered slot c subscribed).1
  have stays := Mailroom.Dead.afterEvent ⟨opened, Bool.eq_false_of_not_eq_true dead⟩ e
  exact Bool.false_ne_true (stays.2.symm.trans alive)

/-- Nor does a change of the configuration, before it is announced. -/
theorem hearsNothing_configure (source : ConfigSource) (slot : SlotIndex) (c : ConsumerId) :
    HearsNothing w (.ask (.configure source)) slot c :=
  ⟨rfl, fun alive subscribed => ⟨alive, subscribed, rfl⟩⟩

/-- All that a request sends a consumer is about slots that the consumer is registered for, then or
before. -/
theorem registeredFor_of_sent (sound : Sound w run) {op : Op}
    {d : Delivery (SlotIndex × Availability)}
    (sent : d ∈ (w.state.monitor.step w.state.config w.room.live op).sent) :
    RegisteredFor (run ++ [.ask (.ask op)]) d.notification.value.1 d.consumer := by
  have told : (d.map Prod.snd).notification ∈ received d.consumer
    ((w.state.monitor.slotAct w.state.config op
      d.notification.value.1).apply w.room.live
        (w.state.monitor.contexts.get? d.notification.value.1)).2 :=
    mem_received_iff.2 ⟨d.map Prod.snd, mem_sent sent, rfl, rfl⟩
  rcases SlotAct.told_or_untold
    (w.state.monitor.plain_slotAct w.state.config op d.notification.value.1) w.room.live
    (sound.coherent.sound _) d.consumer with ⟨n, once⟩ | untold
  · rcases once.news with new | ⟨old, -⟩
    · obtain ⟨tag, rfl⟩ := (registers_slotAct _ _ op _ _).1 new
      exact ⟨tag, List.mem_append_right run List.mem_cons_self⟩
    · exact (sound.registered _ _ old).2.append _
  · rw [untold.received] at told
    cases told

/-- A consumer that registers for one slot only hears one thing in an act, or nothing. -/
theorem hears_or_not (sound : Sound w run) {act : World.Act Query}
    (stillOpen : (w.next serve act).state.monitor.isClosed = false) {slot : SlotIndex}
    {c : ConsumerId} (only : ∀ j, RegisteredFor (run ++ [act]) j c → j = slot) :
    (∃ n, Hears w act slot c n) ∨ HearsNothing w act slot c := by
  cases act with
  | happen e => exact Or.inr (hearsNothing_happen sound e slot c)
  | ask query =>
    cases query with
    | configure source => exact Or.inr (hearsNothing_configure source slot c)
    | ask op =>
      -- nothing about other slots reaches the consumer, so what it hears is what the slot's act
      -- tells it
      obtain ⟨isOpen, -⟩ := open_before w.state.config w.room.live op stillOpen
      have contexts := contexts_step w.state.config w.room.live isOpen op slot
      have remembered : (w.next serve (.ask (.ask op))).state.monitor.lastInfo slot =
          SlotAct.remembered ((w.state.monitor.slotAct w.state.config op slot).apply w.room.live
            (w.state.monitor.contexts.get? slot)).1 := congrArg SlotAct.remembered contexts
      have hears : heard c (w.sentBy serve (.ask (.ask op))) =
          received c ((w.state.monitor.slotAct w.state.config op slot).apply w.room.live
            (w.state.monitor.contexts.get? slot)).2 := by
        rw [← about_step w.state.config w.room.live isOpen]
        exact heard_eq_about fun d sent mine => only _ (mine ▸ registeredFor_of_sent sound sent)
      rcases SlotAct.told_or_untold (w.state.monitor.plain_slotAct w.state.config op slot)
        w.room.live (sound.coherent.sound slot) c with ⟨n, told⟩ | untold
      · refine Or.inl ⟨n, hears.trans told.received, remembered.trans told.remembered, ?_⟩
        rcases told.news with new | ⟨old, differs⟩
        · obtain ⟨tag, rfl⟩ := (registers_slotAct _ _ op slot c).1 new
          exact Or.inl ⟨tag, List.mem_cons_self⟩
        · exact Or.inr ⟨told.alive, old, differs⟩
      · refine Or.inr ⟨hears.trans untold.received, fun alive subscribed => ?_⟩
        rw [World.live_ask] at alive
        obtain ⟨was, same⟩ := untold.kept alive (contexts ▸ subscribed)
        exact ⟨alive, was, remembered.trans same⟩

end Step

section Run

variable {config : ConfigSource} {room : Mailroom (SlotIndex × Availability)}
  {run : List (World.Act Query)}

/-- A run leaves the monitor in the state that the run says. -/
theorem sound_after
    (acquainted : World.Acquainted serve Query.registers (beginning config room) run)
    (isOpen : ((beginning config room).after serve run).state.monitor.isClosed = false) :
    Sound ((beginning config room).after serve run) run := by
  induction run using List.reverseRecOn with
  | nil =>
    refine ⟨coherent_fresh, ?_⟩
    rintro slot c ⟨ctx, none, -⟩
    cases none
  | append_singleton run act ih =>
    rw [World.after_concat] at isOpen ⊢
    refine (ih acquainted.of_concat (open_of_next isOpen)).next isOpen ?_
    rintro query c rfl names
    exact acquainted.opened names

/-- A live subscriber of one slot was told last, but for the announcement of a loss, what is
remembered for the slot. -/
theorem view_after
    (acquainted : World.Acquainted serve Query.registers (beginning config room) run)
    (isOpen : ((beginning config room).after serve run).state.monitor.isClosed = false)
    {slot : SlotIndex} {c : ConsumerId} (only : ∀ j, RegisteredFor run j c → j = slot)
    (alive : ((beginning config room).after serve run).room.live c = true)
    (subscribed : ((beginning config room).after serve run).state.monitor.Subscribed slot c) :
    ∃ n, (heard c ((beginning config room).sent serve run)).getLast? = some n ∧
      ((beginning config room).after serve run).state.monitor.lastInfo slot =
        some n.value.settled := by
  induction run using List.reverseRecOn with
  | nil =>
    obtain ⟨ctx, none, -⟩ := subscribed
    cases none
  | append_singleton run act ih =>
    rw [World.after_concat] at isOpen alive subscribed ⊢
    rw [World.sent_concat, heard_append]
    have wasOpen := open_of_next isOpen
    have sound := sound_after acquainted.of_concat wasOpen
    have before :=
      ih acquainted.of_concat wasOpen fun j registered => only j (registered.append [act])
    rcases hears_or_not sound isOpen only with ⟨n, hears⟩ | nothing
    · refine ⟨n, ?_, hears.remembered⟩
      rw [hears.heard, List.getLast?_append, List.getLast?_singleton, Option.some_or]
    · obtain ⟨wasAlive, was, same⟩ := nothing.kept alive subscribed
      obtain ⟨n, last, remembered⟩ := before wasAlive was
      refine ⟨n, ?_, same.trans remembered⟩
      rw [nothing.heard, List.append_nil, last]

theorem getLast?_toList_append {α : Type} (l m : List α) :
    (l.getLast?.toList ++ m).getLast? = (l ++ m).getLast? := by
  rw [List.getLast?_append, List.getLast?_append]
  cases l.getLast? <;> rfl

/-- While a consumer does not register anew, each thing that it hears and that does not announce a
loss differs, but for announcements, from what it heard before. -/
theorem isChain_heard {before later : List (World.Act Query)}
    (acquainted : World.Acquainted serve Query.registers (beginning config room) (before ++ later))
    (isOpen :
      ((beginning config room).after serve (before ++ later)).state.monitor.isClosed = false)
    {slot : SlotIndex} {c : ConsumerId} (only : ∀ j, RegisteredFor (before ++ later) j c → j = slot)
    (stays : ¬ RegisteredFor later slot c) :
    ((heard c ((beginning config room).sent serve before)).getLast?.toList ++
      heard c (((beginning config room).after serve before).sent serve later)).IsChain
        fun n k => k.value.notifyDisabled = false → k.value ≠ n.value.settled := by
  induction later using List.reverseRecOn with
  | nil =>
    rw [World.sent, heard_nil, List.append_nil]
    cases (heard c ((beginning config room).sent serve before)).getLast? with
    | none => exact List.isChain_nil
    | some n => exact List.isChain_singleton n
  | append_singleton later act ih =>
    rw [← List.append_assoc] at acquainted isOpen only
    rw [World.after_concat] at isOpen
    have wasOpen := open_of_next isOpen
    have chain :=
      ih acquainted.of_concat wasOpen (fun j registered => only j (registered.append [act]))
      fun registered => stays (registered.append [act])
    have sound := sound_after acquainted.of_concat wasOpen
    rw [World.sent_concat, heard_append, ← List.append_assoc, ← World.after_append]
    rcases hears_or_not sound isOpen only with ⟨k, hears⟩ | nothing
    · rw [hears.heard, List.isChain_append]
      refine ⟨chain, List.isChain_singleton k, ?_⟩
      rintro n last k' first quiet repeats
      obtain rfl := Option.some.inj first
      obtain ⟨alive, subscribed, news⟩ := hears.news.resolve_left fun registers =>
        stays (registers.imp fun _ asked => List.mem_append_right later asked)
      -- what was heard last is what is remembered, and the gate lets no value pass that is
      obtain ⟨n', last', remembered⟩ := view_after acquainted.of_concat wasOpen
        (fun j registered => only j (registered.append [act])) alive subscribed
      rw [World.sent_append, heard_append, ← getLast?_toList_append, last] at last'
      obtain rfl := Option.some.inj last'
      rcases news with announces | differs
      · exact Bool.false_ne_true (quiet.symm.trans announces)
      · exact differs (repeats ▸ remembered)
    · rw [nothing.heard, List.append_nil]
      exact chain

/-- Whatever is sent is a plain value, or that a slot is not available any more. -/
theorem value_of_sent (w : World Scene (SlotIndex × Availability)) (run : List (World.Act Query)) :
    ∀ d ∈ w.sent serve run,
      d.notification.value.2.IsPlain ∨
        d.notification.value.2 = Availability.unavailable.withDisabledEdge := by
  induction run generalizing w with
  | nil =>
    intro d none
    cases none
  | cons act run ih =>
    intro d sent
    rcases List.mem_append.1 sent with now | later
    · cases act with
      | happen e => cases now
      | ask query =>
        cases query with
        | configure source => cases now
        | ask op =>
          exact (SlotAct.mem_apply _ _ _ _ (mem_sent now)).2.cases (plain_slotAct _ _ op _)
    · exact ih _ d later

/-- What consumers can rely on about a slot after a run. -/
structure Views (first : World Scene (SlotIndex × Availability)) (run : List (World.Act Query))
    (slot : SlotIndex) : Prop where
  /-- What is remembered does not announce a loss. -/
  settled : ∀ a, (first.after serve run).state.monitor.lastInfo slot = some a →
    a.notifyDisabled = false
  /-- A live subscriber of this slot only has been told something, at last, but for the
  announcement, what is remembered. -/
  view : ∀ c, (first.after serve run).room.live c = true →
    (first.after serve run).state.monitor.Subscribed slot c →
    (∀ j, RegisteredFor run j c → j = slot) →
      ∃ n, (heard c (first.sent serve run)).getLast? = some n ∧
        (first.after serve run).state.monitor.lastInfo slot = some n.value.settled
  /-- While a consumer that registers for this slot only does not register anew, each thing that it
  is told and that does not announce a loss differs, but for the announcement, from what it was told
  before. -/
  news : ∀ c before later, run = before ++ later → (∀ j, RegisteredFor run j c → j = slot) →
    ¬ RegisteredFor later slot c →
    ((heard c (first.sent serve before)).getLast?.toList ++
      heard c ((first.after serve before).sent serve later)).IsChain
        fun n k => k.value.notifyDisabled = false → k.value ≠ n.value.settled
  /-- One of four values is told. -/
  values : ∀ d ∈ first.sent serve run, d.notification.value.2 ∈
    [.unavailable, Availability.unavailable.withDisabledEdge, .available false, .available true]
  /-- What a consumer that has not died was told it has taken or finds in its mailbox, each thing
  once and in order. -/
  taken : ∀ c, ¬ (first.after serve run).room.Dead c →
    first.taken serve c run ++ (first.after serve run).room.pending c =
      first.room.pending c ++ received c (first.sent serve run)

/-- After every run that leaves the monitor open and in which only consumers that exist register,
whatever the configuration answered in it, every slot's subscribers are told what is remembered for
it. -/
theorem views_after (config : ConfigSource) (room : Mailroom (SlotIndex × Availability))
    (run : List (World.Act Query))
    (acquainted : World.Acquainted serve Query.registers (beginning config room) run)
    (isOpen : ((beginning config room).after serve run).state.monitor.isClosed = false)
    (slot : SlotIndex) :
    Views (beginning config room) run slot := by
  have sound := sound_after acquainted isOpen
  refine ⟨?_, ?_, ?_, ?_, ?_⟩
  · intro a remembered
    obtain ⟨ctx, known, current⟩ := Option.bind_eq_some_iff.1 remembered
    obtain ⟨b, same, plain⟩ := (sound.coherent.sound slot ctx known).plain
    obtain rfl : b = a := Option.some.inj (same.symm.trans current)
    exact plain.notifyDisabled
  · exact fun c alive subscribed only => view_after acquainted isOpen only alive subscribed
  · rintro c before later rfl only stays
    exact isChain_heard acquainted isOpen only stays
  · intro d sent
    rcases value_of_sent _ run d sent with (h | h | h) | h
    all_goals
      rw [h]
      decide
  · exact fun c alive => World.taken_append_pending discreet_serve _ alive

end Run

/-- Consumer 0 is told of a slot on Wi-Fi, that version 4 is gone where version 6 alone is blocked,
and, as consumer 1 registers after the block was lifted unannounced, that the slot is available
again. -/
def liftedUnannounced : List (World.Act Query) :=
  [.ask (.ask (.register ⟨0⟩ ⟨0⟩ ⟨5⟩)),
    .ask (.ask (.network (.available ⟨1⟩ .wifi none))),
    .ask (.ask (.network (.link ⟨1⟩ [.v4 192 168 0 2]))),
    .ask (.ask (.registered ⟨0⟩ true)),
    .happen (.takeFirst ⟨0⟩),
    .ask (.configure ⟨none, fun _ => none, fun _ => true, fun _ => false⟩),
    .ask (.ask (.network (.link ⟨1⟩ []))),
    .ask (.configure ⟨none, fun _ => none, fun _ => false, fun _ => false⟩),
    .ask (.ask (.register ⟨0⟩ ⟨1⟩ ⟨6⟩))]

/-- A fresh monitor and two consumers. -/
def twoSubscribers : World Scene (SlotIndex × Availability) :=
  beginning ⟨none, fun _ => none, fun _ => false, fun _ => false⟩ Mailroom.empty.openBox.openBox

theorem acquainted_liftedUnannounced :
    World.Acquainted serve Query.registers twoSubscribers liftedUnannounced :=
  World.acquainted_of_opened (by unfold Mailroom.Opened; decide)

/-- The consumer hears of each change once, and of the loss of Wi-Fi as an announcement, and what it
heard last is what is remembered. -/
theorem views_liftedUnannounced :
    World.Acquainted serve Query.registers twoSubscribers liftedUnannounced ∧
      (twoSubscribers.after serve liftedUnannounced).state.monitor.isClosed = false ∧
      Views twoSubscribers liftedUnannounced ⟨0⟩ ∧
      (heard ⟨0⟩ (twoSubscribers.sent serve liftedUnannounced)).map Notification.value =
        [.unavailable, .available false, Availability.unavailable.withDisabledEdge,
          .available false] :=
  ⟨acquainted_liftedUnannounced, by decide,
    views_after _ _ liftedUnannounced acquainted_liftedUnannounced (by decide) ⟨0⟩, by decide⟩

end AvailabilityMonitor

end AccessStatus
