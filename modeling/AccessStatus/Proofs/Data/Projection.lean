import AccessStatus.Proofs.Data.Members
import AccessStatus.Proofs.Data.Records
import AccessStatus.Proofs.Stream.Subscribers

/-!
# The machines of a monitor, each by itself

A request to an open monitor is an occasion for the machine of its class and nothing at all to the
others (`serve_eq`), so each machine goes through its own part of a run, and what consumers hear of
a class is what its machine sends (`after_class`). What a machine emits depends on the reports
alone, whoever is registered (`SameRecord.after`), and who is registered is sent every record
(`Subscribed.run`). The main statement, `projects_run`, puts this together for each class and each
run.
-/

namespace AccessStatus

namespace ConnectionMachine

/-! ## What a machine sends -/

/-- What an occasion sends. -/
def sentBy (m : ConnectionMachine) : Occasion → List (Delivery ConnectionChange)
  | .report live r => (m.report live r).2
  | .register live c tag => (m.register live c tag).2
  | .unregister _ => []

/-- What a run sends. -/
def sent (m : ConnectionMachine) : List Occasion → List (Delivery ConnectionChange)
  | [] => []
  | o :: run => m.sentBy o ++ (m.next o).sent run

/-- Two parts of a run lead where the second leads from the end of the first. -/
theorem after_append (m : ConnectionMachine) (run more : List Occasion) :
    m.after (run ++ more) = (m.after run).after more :=
  List.foldl_append

/-- What two parts of a run send is sent one after the other. -/
theorem sent_append (m : ConnectionMachine) (run more : List Occasion) :
    m.sent (run ++ more) = m.sent run ++ (m.after run).sent more := by
  induction run generalizing m with
  | nil => rfl
  | cons o run ih => rw [List.cons_append, sent, sent, ih, after_cons, List.append_assoc]

/-- The occasion neither registers nor removes the consumer, and finds it live if it is a report. -/
def Occasion.Spares (c : ConsumerId) : Occasion → Prop
  | .report live _ => live c = true
  | .register _ d _ | .unregister d => d ≠ c

/-- A consumer has this one registration and no other. -/
def Subscribed (m : ConnectionMachine) (c : ConsumerId) (tag : Tag) : Prop :=
  m.notifier.registry.registrationsOf c = [⟨c, tag, none⟩]

/-- Who registers has that one registration. -/
theorem subscribed_register (m : ConnectionMachine) (live : Liveness) (c : ConsumerId) (tag : Tag) :
    (m.next (.register live c tag)).Subscribed c tag :=
  m.notifier.registry.registrationsOf_addUnique_self ⟨c, tag, none⟩

/-- An occasion that spares a subscribed consumer keeps its registration, and sends it the record
that it emits. -/
theorem Subscribed.next {m : ConnectionMachine} {c : ConsumerId} {tag : Tag}
    (subscribed : m.Subscribed c tag) {o : Occasion} (spared : o.Spares c) :
    (m.next o).Subscribed c tag ∧
      received c (m.sentBy o) = (m.recordOf? o).toList.map (Notification.plain tag) := by
  cases o with
  | report live r =>
    rcases m.report_eq live r with ⟨dropped, same⟩ | ⟨change, accepted, moved⟩
    · rw [ConnectionMachine.next, sentBy, recordOf?, dropped, same]
      exact ⟨subscribed, rfl⟩
    · obtain ⟨kept, told⟩ := m.notifier.publish_spec spared change
      have sent : received c (m.notifier.registry.broadcast live change none) = _ := told
      rw [ConnectionMachine.next, sentBy, recordOf?, accepted, moved, sent, subscribed]
      exact ⟨kept.trans subscribed, rfl⟩
  | register live d other =>
    have kept : (m.notifier.registry.addUnique ⟨d, other, none⟩).registrationsOf c =
        m.notifier.registry.registrationsOf c :=
          m.notifier.registry.registrationsOf_addUnique_of_ne c spared
    exact ⟨kept.trans subscribed, (m.notifier.register d other).received_replay_of_ne live spared⟩
  | unregister d =>
    exact ⟨(m.notifier.registry.registrationsOf_remove_of_ne c spared).trans subscribed, rfl⟩

/-- A subscribed consumer that is spared stays so, and is sent all records of a run, under its tag,
and nothing else. -/
theorem Subscribed.run {m : ConnectionMachine} {c : ConsumerId} {tag : Tag}
    (subscribed : m.Subscribed c tag) {run : List Occasion} (spared : ∀ o ∈ run, o.Spares c) :
    (m.after run).Subscribed c tag ∧
      received c (m.sent run) = (m.emitted run).map (Notification.plain tag) := by
  induction run generalizing m with
  | nil => exact ⟨subscribed, rfl⟩
  | cons o run ih =>
    obtain ⟨still, now⟩ := subscribed.next (spared o List.mem_cons_self)
    obtain ⟨last, rest⟩ := ih still fun p later => spared p (List.mem_cons_of_mem o later)
    refine ⟨last, ?_⟩
    rw [sent, emitted, received_append, now, rest, List.map_append]

/-! ## What a machine emits -/

/-- The report that an occasion brings, if it does. -/
def Occasion.report? : Occasion → Option ConnectionReport
  | .report _ r => some r
  | .register .. | .unregister _ => none

/-- The reports that a run brings, in order. -/
def reportsIn (run : List Occasion) : List ConnectionReport := run.filterMap Occasion.report?

theorem reportsIn_append (run more : List Occasion) :
    reportsIn (run ++ more) = reportsIn run ++ reportsIn more :=
  List.filterMap_append

/-- Reports to which nobody listens. -/
def unheard (reports : List ConnectionReport) : List Occasion :=
  reports.map (.report fun _ => false)

/-- Two machines stand at the same place and remember the same record. -/
structure SameRecord (m n : ConnectionMachine) : Prop where
  state : m.state = n.state
  transport : m.transport = n.transport
  failCause : m.failCause = n.failCause
  lastChange : m.lastChange = n.lastChange

theorem SameRecord.refl (m : ConnectionMachine) : SameRecord m m := ⟨rfl, rfl, rfl, rfl⟩

/-- They take a report alike, whoever listens to them. -/
theorem SameRecord.report {m n : ConnectionMachine} (same : SameRecord m n)
    (live liveThere : Liveness) (r : ConnectionReport) :
    m.changeOf r = n.changeOf r ∧ SameRecord (m.report live r).1 (n.report liveThere r).1 := by
  have alike : m.changeOf r = n.changeOf r := by rw [changeOf, changeOf, same.state, same.transport]
  refine ⟨alike, ?_⟩
  rcases m.report_eq live r with ⟨dropped, stays⟩ | ⟨change, accepted, moved⟩ <;>
    rcases n.report_eq liveThere r with ⟨droppedThere, staysThere⟩ |
      ⟨changeThere, acceptedThere, movedThere⟩
  · rw [stays, staysThere]
    exact same
  · cases (dropped.symm.trans alike).trans acceptedThere
  · cases (accepted.symm.trans alike).trans droppedThere
  · obtain rfl := Option.some.inj ((accepted.symm.trans alike).trans acceptedThere)
    rw [moved, movedThere]
    exact ⟨rfl, rfl, rfl, rfl⟩

/-- A run emits what its reports make a machine emit that stands at the same place and has no
consumers. -/
theorem SameRecord.after {m n : ConnectionMachine} (same : SameRecord m n) (run : List Occasion) :
    SameRecord (m.after run) (n.after (unheard (reportsIn run))) ∧
      m.emitted run = n.emitted (unheard (reportsIn run)) := by
  induction run generalizing m n with
  | nil => exact ⟨same, rfl⟩
  | cons o run ih =>
    cases o with
    | report live r =>
      obtain ⟨alike, next⟩ := same.report live (fun _ => false) r
      obtain ⟨stands, emits⟩ := ih next
      refine ⟨stands, ?_⟩
      show (m.changeOf r).toList ++ (m.report live r).1.emitted run =
        (n.changeOf r).toList ++ (n.report (fun _ => false) r).1.emitted (unheard (reportsIn run))
      rw [alike, emits]
    | register live c tag => exact ih ⟨same.state, same.transport, same.failCause, same.lastChange⟩
    | unregister c => exact ih ⟨same.state, same.transport, same.failCause, same.lastChange⟩

end ConnectionMachine

namespace ConnectionMonitor

variable (a : TrafficClass)

/-! ## One request -/

/-- What a request to an open monitor is to one of its machines. -/
def Op.occasion? (live : Liveness) : Op → Option (TrafficClass × ConnectionMachine.Occasion)
  | .report b r | .machineReport b r => some (b, .report live r)
  | .register raw c tag => (TrafficClass.ofRaw? raw).map fun b => (b, .register live c tag)
  | .machineRegister b c tag => some (b, .register live c tag)
  | .unregister raw c => (TrafficClass.ofRaw? raw).map fun b => (b, .unregister c)
  | .machineUnregister b c => some (b, .unregister c)
  | .close => none

/-- The machine of a class meets an occasion. -/
def meet (m : ConnectionMonitor) (b : TrafficClass) (o : ConnectionMachine.Occasion) :
    ConnectionMonitor × List (Delivery (TrafficClass × ConnectionChange)) :=
  ({ m with machines := m.machines.set b ((m.machines.get b).next o) },
    ((m.machines.get b).sentBy o).map (·.map (Prod.mk b)))

/-- A request to an open monitor is an occasion for one machine, or nothing. -/
theorem serve_eq {m : ConnectionMonitor} (isOpen : m.isClosed = false) (live : Liveness) {op : Op}
    (stays : op ≠ .close) :
    serve m live op = (op.occasion? live).elim (m, []) fun x => m.meet x.1 x.2 := by
  have through : ¬ m.isClosed = true := by simp [isOpen]
  unfold serve
  cases op with
  | report b r => rw [step, if_neg through]; rfl
  | register raw c tag =>
    rw [step, resolve, Op.occasion?]
    cases TrafficClass.ofRaw? raw with
    | none => rfl
    | some b => dsimp only; rw [if_neg through]; rfl
  | unregister raw c =>
    rw [step, resolve, Op.occasion?]
    cases TrafficClass.ofRaw? raw <;> rfl
  | machineReport b r => rfl
  | machineRegister b c tag => rfl
  | machineUnregister b c => rfl
  | close => exact absurd rfl stays

/-- What is said about a class. -/
def about (told : List (Notification (TrafficClass × ConnectionChange))) :
    List (Notification ConnectionChange) :=
  told.filterMap fun n => if n.value.1 = a then some (n.map Prod.snd) else none

theorem about_append (told more : List (Notification (TrafficClass × ConnectionChange))) :
    about a (told ++ more) = about a told ++ about a more := List.filterMap_append

/-- What the machine of a class sends is about that class. -/
theorem about_marked (b : TrafficClass) (c : ConsumerId) (sent : List (Delivery ConnectionChange)) :
    about a (received c (sent.map (·.map (Prod.mk b)))) =
      if b = a then received c sent else [] := by
  rw [received_map, about, List.filterMap_map]
  split
  · rename_i same
    have back : ((fun n : Notification (TrafficClass × ConnectionChange) =>
        if n.value.1 = a then some (n.map Prod.snd) else none) ∘ fun n => n.map (Prod.mk b)) =
          some := by
      funext n
      exact if_pos same
    rw [back, List.filterMap_some]
  · rename_i other
    rw [List.filterMap_eq_nil_iff]
    intro n _
    exact if_neg other

/-- What a request is to the machine of a class, if it is for that class. -/
def Op.occasionFor? (live : Liveness) (op : Op) : Option ConnectionMachine.Occasion :=
  (op.occasion? live).bind fun x => if x.1 = a then some x.2 else none

/-- The machine of a class meets what is for its class, and of what is sent its part is about the
class. -/
theorem serve_class {m : ConnectionMonitor} (isOpen : m.isClosed = false) (live : Liveness)
    {op : Op} (stays : op ≠ .close) (c : ConsumerId) :
    (serve m live op).1.isClosed = false ∧
      (serve m live op).1.machines.get a =
        (m.machines.get a).after (op.occasionFor? a live).toList ∧
      about a (received c (serve m live op).2) =
        received c ((m.machines.get a).sent (op.occasionFor? a live).toList) := by
  rw [serve_eq isOpen live stays, Op.occasionFor?]
  cases op.occasion? live with
  | none => exact ⟨isOpen, rfl, rfl⟩
  | some x =>
    obtain ⟨b, o⟩ := x
    refine ⟨isOpen, ?_, ?_⟩
    · show (m.machines.set b ((m.machines.get b).next o)).get a = _
      by_cases same : b = a
      · subst same
        rw [PerClass.get_set_self, Option.bind_some, if_pos rfl]
        rfl
      · rw [PerClass.get_set_of_ne _ _ (Ne.symm same), Option.bind_some, if_neg same]
        rfl
    · show about a (received c (((m.machines.get b).sentBy o).map (·.map (Prod.mk b)))) = _
      rw [about_marked, Option.bind_some]
      by_cases same : b = a
      · subst same
        rw [if_pos rfl, if_pos rfl]
        exact congrArg (received c) (List.append_nil _).symm
      · rw [if_neg same, if_neg same]
        rfl

/-! ## Whole runs -/

/-- What the requests of a run are to the machine of a class, each with the consumers that are live
at its moment. -/
def occasions (w : World ConnectionMonitor (TrafficClass × ConnectionChange)) :
    List (World.Act Op) → List ConnectionMachine.Occasion
  | [] => []
  | .happen e :: run => occasions (w.next serve (.happen e)) run
  | .ask op :: run =>
    (op.occasionFor? a w.room.live).toList ++ occasions (w.next serve (.ask op)) run

/-- The occasions of a run are those of its parts. -/
theorem occasions_append (w : World ConnectionMonitor (TrafficClass × ConnectionChange))
    (run later : List (World.Act Op)) :
    occasions a w (run ++ later) = occasions a w run ++ occasions a (w.after serve run) later := by
  induction run generalizing w with
  | nil => rfl
  | cons act run ih =>
    cases act with
    | happen e => exact ih _
    | ask op =>
      show (op.occasionFor? a w.room.live).toList ++
        occasions a (w.next serve (.ask op)) (run ++ later) = _
      rw [ih, ← List.append_assoc]
      rfl

/-- In a run without closing, the machine of a class goes through its own part of the run, and what
is sent about the class is what it sends. -/
theorem after_class {w : World ConnectionMonitor (TrafficClass × ConnectionChange)}
    (isOpen : w.state.isClosed = false) {run : List (World.Act Op)}
    (stays : .close ∉ World.asked run) (c : ConsumerId) :
    (w.after serve run).state.isClosed = false ∧
      (w.after serve run).state.machines.get a =
        (w.state.machines.get a).after (occasions a w run) ∧
      about a (received c (w.sent serve run)) =
        received c ((w.state.machines.get a).sent (occasions a w run)) := by
  induction run generalizing w with
  | nil => exact ⟨isOpen, rfl, rfl⟩
  | cons act run ih =>
    cases act with
    | happen e => exact ih (w := w.next serve (.happen e)) isOpen stays
    | ask op =>
      have staysNow : op ≠ .close := fun closes => stays (closes ▸ List.mem_cons_self)
      obtain ⟨openThen, machine, told⟩ := serve_class a isOpen w.room.live staysNow c
      replace machine : (w.next serve (.ask op)).state.machines.get a = _ := machine
      replace told : about a (received c (w.sentBy serve (.ask op))) = _ := told
      obtain ⟨openLast, machines, sent⟩ := ih (w := w.next serve (.ask op)) openThen
        fun later => stays (List.mem_cons_of_mem op later)
      refine ⟨openLast, ?_, ?_⟩
      · refine machines.trans ?_
        rw [machine, occasions, ConnectionMachine.after_append]
      · show about a (received c
          (w.sentBy serve (.ask op) ++ (w.next serve (.ask op)).sent serve run)) = _
        rw [received_append, about_append, sent, told, machine, occasions,
          ConnectionMachine.sent_append, received_append]

/-! ## Reports of one class -/

/-- The report that a request brings about a class, if it does. -/
def Op.report? : Op → Option ConnectionReport
  | .report b r | .machineReport b r => if b = a then some r else none
  | .register .. | .unregister .. | .close | .machineRegister .. | .machineUnregister .. => none

/-- The reports about a class among what happens, in order. -/
def reportsTo (run : List (World.Act Op)) : List ConnectionReport :=
  (World.asked run).filterMap (Op.report? a)

/-- The request registers the consumer for the class. -/
def Op.Registers (c : ConsumerId) (tag : Tag) (op : Op) : Prop :=
  op = .register a.raw c tag ∨ op = .machineRegister a c tag

/-- The request takes away the consumer's registration for the class. -/
def Op.Removes (c : ConsumerId) (op : Op) : Prop :=
  op = .unregister a.raw c ∨ op = .machineUnregister a c

/-- What a request is to the machine of a class: the report, the registration or the removal that it
is for the class, or nothing. -/
inductive Op.Meets (live : Liveness) (op : Op) : Option ConnectionMachine.Occasion → Prop where
  | reports {r : ConnectionReport} (report : op.report? a = some r) :
    Meets live op (some (.report live r))
  | registers {c : ConsumerId} {tag : Tag} (registers : op.Registers a c tag) :
    Meets live op (some (.register live c tag))
  | removes {c : ConsumerId} (removes : op.Removes a c) : Meets live op (some (.unregister c))
  | nothing (quiet : op.report? a = none) : Meets live op none

/-- A request means something to the machine of a class, or nothing at all. -/
theorem Op.meets (live : Liveness) (op : Op) : op.Meets a live (op.occasionFor? a live) := by
  unfold Op.occasionFor? Op.occasion?
  cases op with
  | report b r | machineReport b r =>
    dsimp only [Option.bind_some]
    split
    · exact .reports (if_pos (by assumption))
    · exact .nothing (if_neg (by assumption))
  | register raw c tag =>
    dsimp only
    -- a number has to name this very class to mean anything to its machine
    cases found : TrafficClass.ofRaw? raw with
    | none => exact .nothing rfl
    | some b =>
      dsimp only [Option.map_some, Option.bind_some]
      split
      · rename_i same
        exact .registers (Or.inl (by rw [← same, TrafficClass.raw_of_ofRaw? found]))
      · exact .nothing rfl
  | unregister raw c =>
    dsimp only
    cases found : TrafficClass.ofRaw? raw with
    | none => exact .nothing rfl
    | some b =>
      dsimp only [Option.map_some, Option.bind_some]
      split
      · rename_i same
        exact .removes (Or.inl (by rw [← same, TrafficClass.raw_of_ofRaw? found]))
      · exact .nothing rfl
  | machineRegister b c tag =>
    dsimp only [Option.bind_some]
    split
    · rename_i same
      exact .registers (Or.inr (by rw [same]))
    · exact .nothing rfl
  | machineUnregister b c =>
    dsimp only [Option.bind_some]
    split
    · rename_i same
      exact .removes (Or.inr (by rw [same]))
    · exact .nothing rfl
  | close => exact .nothing rfl

/-- An open monitor answers a report with the event that it amounts to for the machine of its
class. -/
theorem answer_of_report {m : ConnectionMonitor} (isOpen : m.isClosed = false) (live : Liveness)
    {op : Op} {r : ConnectionReport} (report : op.report? a = some r) :
    (m.step live op).answer =
      .event (((m.machines.get a).changeOf r).map ConnectionChange.event) := by
  cases op with
  | report b s =>
    obtain ⟨rfl, rfl⟩ : b = a ∧ s = r := by simpa [Op.report?] using report
    rw [step, if_neg (by simp [isOpen])]
    rfl
  | machineReport b s =>
    obtain ⟨rfl, rfl⟩ : b = a ∧ s = r := by simpa [Op.report?] using report
    rfl
  | register raw c tag => cases report
  | unregister raw c => cases report
  | machineRegister b c tag => cases report
  | machineUnregister b c => cases report
  | close => cases report

/-- An open monitor accepts a registration for a class. -/
theorem answer_register_raw {m : ConnectionMonitor} (isOpen : m.isClosed = false)
    (live : Liveness) (c : ConsumerId) (tag : Tag) :
    (m.step live (.register a.raw c tag)).answer = .accepted := by
  rw [step, resolve, TrafficClass.ofRaw?_raw]
  dsimp only
  rw [if_neg (by simp [isOpen])]
  rfl

/-- The report in an occasion is the report that the request makes about the class. -/
theorem reportsIn_occasionFor? (live : Liveness) (op : Op) :
    ConnectionMachine.reportsIn (op.occasionFor? a live).toList = (op.report? a).toList := by
  have meets := op.meets a live
  generalize op.occasionFor? a live = occasion at meets ⊢
  cases meets with
  | reports report => rw [report]; rfl
  | registers registers => rcases registers with rfl | rfl <;> rfl
  | removes removes => rcases removes with rfl | rfl <;> rfl
  | nothing quiet => rw [quiet]; rfl

theorem reportsTo_cons (act : World.Act Op) (run : List (World.Act Op)) :
    reportsTo a (act :: run) = (act.request?.bind (Op.report? a)).toList ++ reportsTo a run :=
  World.filterMap_asked_cons (Op.report? a) act run

/-- The reports of a run are those of its parts. -/
theorem reportsTo_append (run later : List (World.Act Op)) :
    reportsTo a (run ++ later) = reportsTo a run ++ reportsTo a later := by
  unfold reportsTo World.asked
  rw [List.filterMap_append, List.filterMap_append]

/-- The machine of a class meets the reports about its class. -/
theorem reportsIn_occasions (w : World ConnectionMonitor (TrafficClass × ConnectionChange))
    (run : List (World.Act Op)) :
    ConnectionMachine.reportsIn (occasions a w run) = reportsTo a run := by
  induction run generalizing w with
  | nil => rfl
  | cons act run ih =>
    rw [reportsTo_cons, ← ih (w.next serve act)]
    cases act with
    | happen e => rfl
    | ask op =>
      show ConnectionMachine.reportsIn ((op.occasionFor? a w.room.live).toList ++
        occasions a (w.next serve (.ask op)) run) = _
      rw [ConnectionMachine.reportsIn_append, reportsIn_occasionFor?]
      rfl

/-! ## Registrations of one consumer -/

/-- A request that registers a consumer for a class is a registration for its machine. -/
theorem Op.Registers.occasionFor? {c : ConsumerId} {tag : Tag} {op : Op}
    (registers : op.Registers a c tag) (live : Liveness) :
    op.occasionFor? a live = some (.register live c tag) := by
  rcases registers with rfl | rfl
  · simp [Op.occasionFor?, Op.occasion?, TrafficClass.ofRaw?_raw]
  · exact if_pos rfl

/-- A live consumer is spared unless it is registered for the class or taken away. -/
theorem spares_of_occasionFor? {live : Liveness} {op : Op} {o : ConnectionMachine.Occasion}
    (meets : op.occasionFor? a live = some o) {c : ConsumerId} (alive : live c = true)
    (left : (∀ tag, ¬ op.Registers a c tag) ∧ ¬ op.Removes a c) : o.Spares c := by
  have role := op.meets a live
  rw [meets] at role
  cases role with
  | reports report => exact alive
  | registers registers =>
    rintro rfl
    exact left.1 _ registers
  | removes removes =>
    rintro rfl
    exact left.2 removes

/-- Nothing in the run registers the consumer for the class or takes it away. -/
def Leaves (c : ConsumerId) (run : List (World.Act Op)) : Prop :=
  ∀ op ∈ World.asked run, (∀ tag, ¬ op.Registers a c tag) ∧ ¬ op.Removes a c

/-- A consumer that stays live and is left alone is spared by all occasions. -/
theorem spares_occasions {w : World ConnectionMonitor (TrafficClass × ConnectionChange)}
    {c : ConsumerId} (opened : w.room.Opened c) {run : List (World.Act Op)}
    (alive : (w.after serve run).room.live c = true) (leaves : Leaves a c run) :
    ∀ o ∈ occasions a w run, o.Spares c := by
  induction run generalizing w with
  | nil => exact fun o none => absurd none List.not_mem_nil
  | cons act run ih =>
    cases act with
    | happen e => exact ih (w := w.next serve (.happen e)) (World.opened_next opened _) alive leaves
    | ask op =>
      have later := ih (w := w.next serve (.ask op)) (World.opened_next opened _) alive
        fun p asks => leaves p (List.mem_cons_of_mem op asks)
      have aliveNow : w.room.live c = true := World.live_of_live_after opened alive
      intro o meets
      rcases List.mem_append.1 meets with now | afterwards
      · exact spares_of_occasionFor? a (Option.mem_toList.1 now) aliveNow
          (leaves op List.mem_cons_self)
      · exact later o afterwards

/-- A live consumer that is registered for the class and then left alone keeps that registration. It
is sent the last record that there was before, and all that the machine emits afterwards. -/
theorem since_registration {w : World ConnectionMonitor (TrafficClass × ConnectionChange)}
    (isOpen : w.state.isClosed = false) {c : ConsumerId} {op : Op} {tag : Tag}
    (registers : op.Registers a c tag) {later : List (World.Act Op)}
    (stays : .close ∉ World.asked (.ask op :: later)) (leaves : Leaves a c later)
    (alive : w.room.live c = true)
    (aliveLast : (w.after serve (.ask op :: later)).room.live c = true) :
    ((w.after serve (.ask op :: later)).state.machines.get a).Subscribed c tag ∧
      about a (received c (w.sent serve (.ask op :: later))) =
        ((w.state.machines.get a).lastChange.toList ++
          (w.state.machines.get a).emitted (occasions a w (.ask op :: later))).map
            (Notification.plain tag) := by
  have part : occasions a w (.ask op :: later) =
      .register w.room.live c tag :: occasions a (w.next serve (.ask op)) later := by
    rw [occasions, registers.occasionFor? a w.room.live]
    rfl
  have spared :=
    spares_occasions a (World.opened_next (w.room.opened_of_live alive) (.ask op)) aliveLast leaves
  obtain ⟨subscribed, since⟩ :=
    ((w.state.machines.get a).subscribed_register w.room.live c tag).run spared
  have replayed := (w.state.machines.get a).notifier.received_registerWithReplay w.room.live c tag
  rw [if_pos alive] at replayed
  obtain ⟨-, machine, told⟩ := after_class a isOpen stays c
  rw [machine, told, part, ConnectionMachine.sent, received_append, since, List.map_append]
  exact ⟨subscribed, congrArg (· ++ _) replayed⟩

/-! ## Each class by itself -/

/-- A fresh machine without consumers, given the reports about a class only. -/
def alone (run : List (World.Act Op)) : ConnectionMachine :=
  ConnectionMachine.fresh.after (ConnectionMachine.unheard (reportsTo a run))

/-- The records that this machine emits. -/
def records (run : List (World.Act Op)) : List ConnectionChange :=
  ConnectionMachine.fresh.emitted (ConnectionMachine.unheard (reportsTo a run))

/-- One more report adds the record that it amounts to. -/
theorem records_ask (run : List (World.Act Op)) {op : Op} {r : ConnectionReport}
    (report : op.report? a = some r) :
    records a (run ++ [.ask op]) = records a run ++ ((alone a run).changeOf r).toList := by
  have one : reportsTo a [.ask op] = [r] := by
    rw [reportsTo_cons]
    simp [World.Act.request?, report, reportsTo, World.asked]
  rw [records, reportsTo_append, one, ConnectionMachine.unheard, List.map_append,
    ConnectionMachine.emitted_append]
  exact congrArg _ (List.append_nil _)

/-- The machine that is given the reports alone stands where its last record says. -/
theorem alone_agreesWith (run : List (World.Act Op)) :
    (alone a run).AgreesWith (records a run).getLast? := by
  have agrees := (ConnectionMachine.agreesWith_fresh.after ConnectionChange.settled_none
    (ConnectionMachine.unheard (reportsTo a run))).2
  rwa [Option.or_none] at agrees

section Run

variable (slot : SlotIndex) (room : Mailroom (TrafficClass × ConnectionChange))
  {run : List (World.Act Op)}

/-- In a run without closing the machine of a class has gone through the occasions for it. -/
theorem machine_after (stays : .close ∉ World.asked run) :
    ((beginning slot room).after serve run).state.isClosed = false ∧
      ((beginning slot room).after serve run).state.machines.get a =
        ConnectionMachine.fresh.after (occasions a (beginning slot room) run) := by
  have fresh : (beginning slot room).state.machines.get a = .fresh := PerClass.get_all _ a
  obtain ⟨isOpen, machine, -⟩ := after_class a (w := beginning slot room) rfl stays ⟨0⟩
  exact ⟨isOpen, fresh ▸ machine⟩

/-- The machine of a class in a monitor stands where the machine by itself stands. -/
theorem sameRecord_alone (stays : .close ∉ World.asked run) :
    ConnectionMachine.SameRecord (((beginning slot room).after serve run).state.machines.get a)
      (alone a run) := by
  have same :=
    (ConnectionMachine.SameRecord.refl .fresh).after (occasions a (beginning slot room) run)
  rw [reportsIn_occasions] at same
  rw [(machine_after a slot room stays).2]
  exact same.1

/-- What the machine of a class emits in a later part of the run are further records. -/
theorem records_append (stays : .close ∉ World.asked run) (later : List (World.Act Op)) :
    records a (run ++ later) = records a run ++
      (((beginning slot room).after serve run).state.machines.get a).emitted
        (occasions a ((beginning slot room).after serve run) later) := by
  have emitted (run : List (World.Act Op)) :
      ConnectionMachine.fresh.emitted (occasions a (beginning slot room) run) = records a run := by
    rw [records, ← reportsIn_occasions a (beginning slot room)]
    exact ((ConnectionMachine.SameRecord.refl .fresh).after _).2
  rw [← emitted, ← emitted, occasions_append, ConnectionMachine.emitted_append,
    (machine_after a slot room stays).2]

end Run

/-- For a class, a run of a monitor is a run of a machine by itself on the reports about that
class. -/
structure Projects (slot : SlotIndex) (room : Mailroom (TrafficClass × ConnectionChange))
    (run : List (World.Act Op)) : Prop where
  /-- The machine of the class stands where the machine by itself stands, and where its last record
  says. -/
  machine : ConnectionMachine.SameRecord
    (((beginning slot room).after serve run).state.machines.get a) (alone a run)
  lastChange : (((beginning slot room).after serve run).state.machines.get a).lastChange =
    (records a run).getLast?
  isConnected : ((beginning slot room).after serve run).state.isConnected a = true ↔
    ∃ record ∈ (records a run).getLast?, record.state = .connected ∨ record.state = .handover
  /-- A report about the class is answered as the machine by itself takes it: with the event of the
  record emitted, if one is. -/
  answers : ∀ before op later r, run = before ++ .ask op :: later → op.report? a = some r →
    let now := (beginning slot room).after serve before
    let emitted := (alone a before).changeOf r
    (now.state.step now.room.live op).answer = .event (emitted.map ConnectionChange.event) ∧
      records a (before ++ [.ask op]) = records a before ++ emitted.toList
  /-- A live consumer's registration for the class is accepted. If it is then left alone and stays
  live, it has that one registration at the end; it was sent about the class the last record there
  was before and every record emitted since; and this is what it has taken or has pending. -/
  consumers : ∀ before op later c tag, run = before ++ .ask op :: later → op.Registers a c tag →
    Leaves a c later →
    let now := (beginning slot room).after serve before
    let last := (beginning slot room).after serve run
    now.room.live c = true → last.room.live c = true →
    ∃ since, records a run = records a before ++ since ∧
      (op = .register a.raw c tag → (now.state.step now.room.live op).answer = .accepted) ∧
      (last.state.machines.get a).Subscribed c tag ∧
      about a (received c (now.sent serve (.ask op :: later))) =
        ((records a before).getLast?.toList ++ since).map (Notification.plain tag) ∧
      about a (now.taken serve c (.ask op :: later) ++ last.room.pending c) =
        about a (now.room.pending c) ++
          ((records a before).getLast?.toList ++ since).map (Notification.plain tag)

/-- In a run without closing, whatever is reported, registered and removed in whatever order, each
class is served as if by a machine that is given the reports about this class alone. -/
theorem projects_run (slot : SlotIndex) (room : Mailroom (TrafficClass × ConnectionChange))
    {run : List (World.Act Op)} (stays : .close ∉ World.asked run) (a : TrafficClass) :
    Projects a slot room run := by
  have upTo {before : List (World.Act Op)} {op : Op} {later : List (World.Act Op)}
      (split : run = before ++ .ask op :: later) : .close ∉ World.asked before ∧
        .close ∉ World.asked (.ask op :: later) := by
    rw [split, World.asked, List.filterMap_append] at stays
    exact ⟨fun first => stays (List.mem_append_left _ first),
      fun second => stays (List.mem_append_right _ second)⟩
  -- the machine in its monitor has the record of one that is alone
  have machine := sameRecord_alone a slot room stays
  have agrees := alone_agreesWith a run
  refine ⟨machine, machine.lastChange.trans agrees.lastChange, ?_, ?_, ?_⟩
  · rw [isConnected, machine.state, agrees.state, ConnectionState.isActive_iff]
    cases (records a run).getLast? with
    | none => simp
    | some record => simp
  · intro before op later r split report now emits
    obtain ⟨staysBefore, -⟩ := upTo split
    have same := sameRecord_alone a slot room staysBefore
    obtain ⟨isOpen, -⟩ := machine_after a slot room staysBefore
    refine ⟨?_, records_ask a before report⟩
    rw [answer_of_report a isOpen now.room.live report,
      (same.report now.room.live now.room.live r).1]
  · intro before op later c tag split registers leaves now last alive aliveLast
    obtain ⟨staysBefore, staysLater⟩ := upTo split
    obtain ⟨isOpen, -⟩ := machine_after a slot room staysBefore
    -- the run splits where the consumer registers, and both parts leave the monitor open
    have whole : last = now.after serve (.ask op :: later) := by
      show (beginning slot room).after serve run = _
      rw [split, World.after_append]
    have survives : ¬ last.room.Dead c :=
      fun dead => Bool.false_ne_true (dead.2.symm.trans aliveLast)
    rw [whole] at aliveLast survives ⊢
    obtain ⟨subscribed, told⟩ :=
      since_registration a isOpen registers staysLater leaves alive aliveLast
    rw [(sameRecord_alone a slot room staysBefore).lastChange,
      (alone_agreesWith a before).lastChange] at told
    refine ⟨_, split ▸ records_append a slot room staysBefore (.ask op :: later), ?_, subscribed,
      told, ?_⟩
    · rintro rfl
      exact answer_register_raw a isOpen now.room.live c tag
    · rw [now.taken_append_pending discreet_serve survives, about_append]
      exact congrArg _ told

/-- An IMS connection is up before the consumer asks for it, and so is an emergency connection
underway. -/
def beforeLateJoiner : List (World.Act Op) :=
  [.ask (.report .ims ⟨.wwan, .connected, 0⟩), .ask (.register 512 ⟨0⟩ ⟨6⟩),
    .ask (.report .emergency ⟨.wlan, .connecting, 0⟩)]

/-- Reports about both classes, one of them dropped, while the consumer takes what it was sent. -/
def afterLateJoiner : List (World.Act Op) :=
  [.ask (.machineReport .ims ⟨.wlan, .handoverInProgress, 0⟩),
    .ask (.report .emergency ⟨.wlan, .disconnected, 7⟩),
    .ask (.report .ims ⟨.wwan, .handoverInProgress, 0⟩), .happen (.takeFirst ⟨0⟩),
    .ask (.unregister 64 ⟨1⟩), .ask (.report .ims ⟨.wlan, .connected, 0⟩)]

/-- The late joiner is told of the connection that is up, and then of the handover from its start to
its success. -/
theorem projects_run_lateJoiner :
    let run := beforeLateJoiner ++ .ask (.register 64 ⟨0⟩ ⟨5⟩) :: afterLateJoiner
    let now := (beginning ⟨0⟩ Mailroom.empty.openBox.openBox).after serve beforeLateJoiner
    let last := (beginning ⟨0⟩ Mailroom.empty.openBox.openBox).after serve run
    .close ∉ World.asked run ∧ Leaves .ims ⟨0⟩ afterLateJoiner ∧ now.room.live ⟨0⟩ = true ∧
      last.room.live ⟨0⟩ = true ∧
      about .ims (received ⟨0⟩ (now.sent serve (.ask (.register 64 ⟨0⟩ ⟨5⟩) :: afterLateJoiner))) =
        [⟨.connected, .connected, .wwan, 0⟩, ⟨.handoverStarted, .handover, .wwan, 0⟩,
          ⟨.handoverSuccess, .connected, .wlan, 0⟩].map (Notification.plain ⟨5⟩) ∧
      last.state.isConnected .ims = true := by
  intro run now last
  have stays : .close ∉ World.asked run := by
    simp [run, World.asked, World.Act.request?, beforeLateJoiner, afterLateJoiner]
  have leaves : Leaves .ims ⟨0⟩ afterLateJoiner := by
    intro op asks
    simp only [afterLateJoiner, World.asked, World.Act.request?, List.filterMap_cons,
      List.filterMap_nil, List.mem_cons, List.not_mem_nil, or_false] at asks
    rcases asks with rfl | rfl | rfl | rfl | rfl <;> simp [Op.Registers, Op.Removes]
  have projects := projects_run ⟨0⟩ Mailroom.empty.openBox.openBox stays .ims
  obtain ⟨since, whole, -, -, told, -⟩ :=
    projects.consumers beforeLateJoiner (.register 64 ⟨0⟩ ⟨5⟩) afterLateJoiner ⟨0⟩ ⟨5⟩
    rfl (Or.inl rfl) leaves (by decide) (by decide)
  have all : records .ims run =
      records .ims beforeLateJoiner ++
        [⟨.handoverStarted, .handover, .wwan, 0⟩, ⟨.handoverSuccess, .connected, .wlan, 0⟩] := by
    decide
  rw [← List.append_cancel_left (all.symm.trans whole)] at told
  exact ⟨stays, leaves, by decide, by decide, told, projects.isConnected.2 ⟨_, rfl, Or.inl rfl⟩⟩

end ConnectionMonitor

end AccessStatus
