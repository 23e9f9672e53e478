import AccessStatus.Proofs.Stream.Registry
import AccessStatus.Proofs.Stream.World

/-!
# Broadcasts over whole runs of a registry

By the history a registration stands from the moment it is made until its consumer is removed or
registered anew, or the registry is cleared. A registry holds standing registrations in the order in
which they were made; it may hold fewer than all, but those it has swept away are of dead consumers
(`holds_after`). As dead consumers stay dead, what a broadcast sends does not depend on when the
registry was swept.
-/

namespace AccessStatus

namespace Registry

variable {α : Type}

/-! ## The registrations that stand by the history -/

/-- The registration that a request makes. -/
def Op.registration? : Op α → Option Subscription
  | .add s | .addUnique s => some s
  | .remove _ | .clear | .sweep | .notifyAll .. | .notifyOne .. => none

/-- The request ends a registration, whether its consumer is live or not. -/
def Op.ends (s : Subscription) : Op α → Bool
  | .addUnique t => s.consumer = t.consumer
  | .remove c => s.consumer = c
  | .clear => true
  | .add _ | .sweep | .notifyAll .. | .notifyOne .. => false

/-- The registrations that requests make and no later one ends, in the order in which they are
made. -/
def standing : List (Op α) → List Subscription
  | [] => []
  | op :: later =>
    (op.registration?.toList.filter fun s => later.all fun l => !l.ends s) ++ standing later

/-- One more request ends some registrations that stood, and its own stands last. -/
theorem standing_concat (ops : List (Op α)) (op : Op α) :
    standing (ops ++ [op]) = (standing ops).filter (fun s => !op.ends s) ++
      op.registration?.toList := by
  induction ops with
  | nil => simp [standing]
  | cons first ops ih =>
    rw [List.cons_append, standing, standing, ih, List.filter_append, List.filter_filter,
      List.append_assoc]
    congr 2
    funext s
    rw [List.all_append, Bool.and_comm]
    simp

/-! ## One request -/

/-- The registry after a request, and what the request sends. -/
def serve : Serving Registry (Op α) α := fun r live op =>
  ((r.step live op).registry, (r.step live op).sent)

/-- The consumer that a request registers. -/
def registers (op : Op α) : Option ConsumerId := op.registration?.map Subscription.consumer

/-- The request keeps live registrations only. -/
def Op.sweeps : Op α → Bool
  | .sweep | .notifyAll .. => true
  | .add _ | .addUnique _ | .remove _ | .clear | .notifyOne .. => false

/-- A request keeps, in their order, the registrations that it does not end, and of these the live
ones if it sweeps; its own comes behind them. -/
theorem subscriptions_step (r : Registry) (live : Liveness) (op : Op α) :
    (r.step live op).registry.subscriptions =
      (r.subscriptions.filter fun s => !op.ends s && (!op.sweeps || live s.consumer)) ++
        op.registration?.toList := by
  cases op <;> simp [step, add, addUnique, remove, clear, sweep, Op.ends, Op.sweeps,
    Op.registration?]

/-- Nothing is ever sent to a consumer that is not live. -/
theorem discreet_serve : (serve : Serving Registry (Op α) α).Discreet := by
  intro r live op c dead
  cases op with
  | notifyAll value error =>
    show received c (r.broadcast live value error) = []
    rw [received_broadcast, if_neg (by simp [dead])]
  | notifyOne d value =>
    show received c (r.replay live d value).toList = []
    by_cases same : d = c
    · subst same
      rw [received_replay_self, if_neg (by simp [dead])]
    · exact received_replay_of_ne r live value same
  | _ => rfl

/-! ## Whole runs -/

/-- The registry holds standing registrations in their order, all of those whose consumers are live,
and none of a consumer that does not exist. -/
structure Holds (w : World Registry α) (ops : List (Op α)) : Prop where
  sublist : w.state.subscriptions.Sublist (standing ops)
  live : (w.state.subscriptions.filter fun s => w.room.live s.consumer) =
    (standing ops).filter fun s => w.room.live s.consumer
  opened : ∀ s ∈ standing ops, w.room.Opened s.consumer

/-- In the beginning nobody has been registered, and nobody is held. -/
theorem holds_empty (name : String) (room : Mailroom α) : Holds ⟨.empty name, room⟩ [] :=
  ⟨List.Sublist.refl _, rfl, fun _ none => absurd none List.not_mem_nil⟩

/-- A request to the registry is added to the history. -/
theorem Holds.ask {w : World Registry α} {ops : List (Op α)} (holds : Holds w ops) {op : Op α}
    (exist : ∀ c, registers op = some c → w.room.Opened c) :
    Holds (w.next serve (.ask op)) (ops ++ [op]) := by
  have subscriptions : (w.next serve (.ask op)).state.subscriptions =
      (w.state.subscriptions.filter fun s => !op.ends s &&
        (!op.sweeps || w.room.live s.consumer)) ++
        op.registration?.toList := w.state.subscriptions_step w.room.live op
  refine ⟨?_, ?_, ?_⟩
  · rw [subscriptions, standing_concat]
    refine List.Sublist.append ?_ (List.Sublist.refl _)
    refine List.Sublist.trans ?_ (holds.sublist.filter _)
    exact List.monotone_filter_right _ fun s kept => (Bool.and_eq_true_iff.1 kept).1
  · rw [subscriptions, standing_concat, w.live_ask, List.filter_append, List.filter_append,
      List.filter_filter, List.filter_filter]
    congr 1
    -- a sweep takes away what is not live, and so has no bearing on the live ones
    calc w.state.subscriptions.filter (fun s => w.room.live s.consumer &&
            (!op.ends s && (!op.sweeps || w.room.live s.consumer)))
        = (w.state.subscriptions.filter fun s => w.room.live s.consumer).filter fun s =>
          !op.ends s := by
          rw [List.filter_filter]
          apply List.filter_congr
          intro s _
          cases w.room.live s.consumer <;> simp
      _ = ((standing ops).filter fun s => w.room.live s.consumer).filter fun s => !op.ends s := by
        rw [holds.live]
      _ = (standing ops).filter fun s => w.room.live s.consumer && !op.ends s := by
          rw [List.filter_filter]
          apply List.filter_congr
          intro s _
          exact Bool.and_comm _ _
  · intro s stands
    rw [standing_concat] at stands
    refine World.opened_next ?_ (.ask op)
    rcases List.mem_append.1 stands with old | new
    · exact holds.opened s (List.mem_filter.1 old).1
    · exact exist s.consumer (congrArg (Option.map Subscription.consumer) (Option.mem_toList.1 new))

/-- Registrations that are live after an event are the live ones among those that were live before
it. -/
theorem filter_live_afterEvent {room : Mailroom α} (e : Mailroom.Event) {l : List Subscription}
    (opened : ∀ s ∈ l, room.Opened s.consumer) :
    (l.filter fun s => (room.afterEvent e).live s.consumer) =
      (l.filter fun s => room.live s.consumer).filter fun s =>
        (room.afterEvent e).live s.consumer := by
  rw [List.filter_filter]
  apply List.filter_congr
  intro s held
  cases alive : room.live s.consumer with
  | true => rw [Bool.and_true]
  | false =>
    have dead := Mailroom.Dead.afterEvent ⟨opened s held, alive⟩ e
    rw [dead.2, Bool.and_false]

/-- What happens to the mailboxes is no part of the history. -/
theorem Holds.happen {w : World Registry α} {ops : List (Op α)} (holds : Holds w ops)
    (e : Mailroom.Event) :
    Holds (w.next serve (.happen e)) ops := by
  refine ⟨holds.sublist, ?_, fun s stands => (holds.opened s stands).afterEvent e⟩
  show (w.state.subscriptions.filter fun s => (w.room.afterEvent e).live s.consumer) =
    (standing ops).filter fun s => (w.room.afterEvent e).live s.consumer
  rw [filter_live_afterEvent e holds.opened,
    filter_live_afterEvent e fun s held => holds.opened s (holds.sublist.subset held), holds.live]

/-- After a run the registry holds what the requests of the run come to. -/
theorem holds_after (name : String) (room : Mailroom α) {run : List (World.Act (Op α))}
    (acquainted : World.Acquainted serve registers ⟨.empty name, room⟩ run) :
    Holds ((⟨.empty name, room⟩ : World Registry α).after serve run) (World.asked run) := by
  induction run using List.reverseRecOn with
  | nil => exact holds_empty name room
  | append_singleton run act ih =>
    rw [World.after_concat, World.asked_concat]
    cases act with
    | ask op => exact (ih acquainted.of_concat).ask fun c names => acquainted.opened names
    | happen e =>
      have before := (ih acquainted.of_concat).happen e
      rwa [← List.append_nil (World.asked run)] at before

/-- What can be relied on in a registry after a run. -/
structure ExactBroadcasts (w : World Registry α) (ops : List (Op α)) : Prop where
  /-- What is held was registered in this order, and all that stands for a live consumer is held. -/
  holds : Holds w ops
  /-- A broadcast appends, for each registration of a live consumer and in their order, one
  notification with the registration's own tag and payload; it answers their number and leaves just
  these registrations, in order. -/
  broadcast : ∀ (value : α) error,
    (w.state.step w.room.live (.notifyAll value error)).sent =
      ((standing ops).filter fun s => w.room.live s.consumer).map
        (fun s => ⟨s.consumer, ⟨s.tag, s.payload, value, error⟩⟩) ∧
    (w.state.step w.room.live (.notifyAll value error)).answer =
      .count ((standing ops).filter fun s => w.room.live s.consumer).length ∧
    (w.next serve (.ask (.notifyAll value error))).state.subscriptions =
      (w.state.subscriptions.filter fun s => w.room.live s.consumer) ∧
    ∀ c, (w.next serve (.ask (.notifyAll value error))).room.pending c =
      w.room.pending c ++ received c (w.state.step w.room.live (.notifyAll value error)).sent
  /-- A dead consumer is never sent anything again, and what it has pending never grows. -/
  silent : ∀ c, w.room.Dead c → ∀ later : List (World.Act (Op α)),
    received c (w.sent serve later) = [] ∧ (w.after serve later).room.pending c <:+ w.room.pending c
  /-- The registrations that any operation keeps stay in their order, and a new one comes behind
  them. -/
  order : ∀ op : Op α, ∃ kept, kept.Sublist w.state.subscriptions ∧
    (w.next serve (.ask op)).state.subscriptions = kept ++ op.registration?.toList
  /-- A registration in place of the earlier ones is the consumer's only one, and the last of
  all. -/
  unique : ∀ s, (w.next serve (.ask (.addUnique s))).state.registrationsOf s.consumer = [s] ∧
    (w.next serve (.ask (.addUnique s))).state.subscriptions.getLast? = some s
  /-- A replay reaches a live consumer through its first registration only, and nobody else. -/
  first : ∀ c (value : α), (w.state.step w.room.live (.notifyOne c value)).sent =
    if w.room.live c then
      ((w.state.registrationsOf c).head?.map fun s => ⟨c, ⟨s.tag, s.payload, value, none⟩⟩).toList
    else []

/-- What a replay sends goes through the first registration of a live consumer. -/
theorem sent_notifyOne (r : Registry) (live : Liveness) (c : ConsumerId) (value : α) :
    (r.step live (.notifyOne c value)).sent =
      if live c then
        ((r.registrationsOf c).head?.map fun s => ⟨c, ⟨s.tag, s.payload, value, none⟩⟩).toList
      else [] := by
  have mine : ∀ s ∈ r.registrationsOf c, s.consumer = c :=
    fun s held => by simpa using (List.mem_filter.1 held).2
  show (r.replay live c value).toList = _
  rw [replay, ← List.head?_filter, filter_live]
  split
  · cases held : r.registrationsOf c with
    | nil => rfl
    | cons s rest =>
      have same := mine s (held ▸ List.mem_cons_self)
      rw [List.head?_cons, Option.map_some, Option.map_some, Subscription.delivery, same]
  · rfl

/-- After every run in which only consumers that exist register, each broadcast reaches exactly the
live consumers of the registrations that stand, once for each and in the order in which they were
made, and no operation ever reaches a dead consumer or changes the order of the registrations that
it keeps. -/
theorem broadcasts_exactly (name : String) (room : Mailroom α) (run : List (World.Act (Op α)))
    (acquainted : World.Acquainted serve registers ⟨.empty name, room⟩ run) :
    ExactBroadcasts ((⟨.empty name, room⟩ : World Registry α).after serve run)
      (World.asked run) := by
  have holds := holds_after name room acquainted
  generalize (⟨.empty name, room⟩ : World Registry α).after serve run = w at *
  refine ⟨holds, ?_, ?_, ?_, ?_, ?_⟩
  · intro value error
    rw [← holds.live]
    refine ⟨rfl, ?_, rfl, ?_⟩
    · exact congrArg Answer.count (List.length_map _)
    · exact w.pending_ask discreet_serve (.notifyAll value error)
  · intro c dead later
    exact ⟨World.received_sent_of_dead discreet_serve dead later,
      World.pending_after_suffix_of_dead dead later⟩
  · intro op
    exact ⟨_, List.filter_sublist, w.state.subscriptions_step w.room.live op⟩
  · intro s
    refine ⟨w.state.registrationsOf_addUnique_self s, ?_⟩
    show ((w.state.remove s.consumer).subscriptions ++ [s]).getLast? = some s
    rw [List.getLast?_append, List.getLast?_singleton, Option.some_or]
  · intro c value
    exact w.state.sent_notifyOne w.room.live c value

/-- Consumer 0 registers twice and consumer 1 between; consumer 1 dies and consumer 0 registers
anew. -/
def twiceRegistered : List (World.Act (Op Nat)) :=
  [.ask (.add ⟨⟨0⟩, ⟨5⟩, none⟩), .ask (.add ⟨⟨1⟩, ⟨6⟩, some "second"⟩),
    .ask (.add ⟨⟨0⟩, ⟨7⟩, none⟩),
    .happen (.invalidate ⟨1⟩), .ask (.add ⟨⟨2⟩, ⟨8⟩, none⟩),
      .ask (.addUnique ⟨⟨0⟩, ⟨9⟩, some "anew"⟩)]

/-- Three consumers that exist. -/
def threeConsumers : Mailroom Nat := Mailroom.empty.openBox.openBox.openBox

/-- Everybody registered there had a mailbox before. -/
theorem acquainted_twiceRegistered :
    World.Acquainted serve registers ⟨.empty "numbers", threeConsumers⟩ twiceRegistered :=
  World.acquainted_of_opened (by unfold Mailroom.Opened; decide)

theorem broadcasts_twiceRegistered :
    World.Acquainted serve registers ⟨.empty "numbers", threeConsumers⟩ twiceRegistered ∧
      ExactBroadcasts ((⟨.empty "numbers", threeConsumers⟩ : World Registry Nat).after serve
        twiceRegistered)
        (World.asked twiceRegistered) ∧
      (((⟨.empty "numbers", threeConsumers⟩ : World Registry Nat).after serve
        twiceRegistered).state.step
        ((⟨.empty "numbers", threeConsumers⟩ : World Registry Nat).after serve
          twiceRegistered).room.live
          (.notifyAll 3 (some "late"))).sent =
        [⟨⟨2⟩, ⟨⟨8⟩, none, 3, some "late"⟩⟩, ⟨⟨0⟩, ⟨⟨9⟩, some "anew", 3, some "late"⟩⟩] :=
  ⟨acquainted_twiceRegistered,
    broadcasts_exactly "numbers" threeConsumers twiceRegistered acquainted_twiceRegistered,
      by decide⟩

end Registry

end AccessStatus
