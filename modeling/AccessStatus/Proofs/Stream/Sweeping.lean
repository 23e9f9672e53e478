import AccessStatus.Proofs.Stream.Broadcast
import AccessStatus.Proofs.Stream.Unwinding

/-!
# When a registry is swept makes no difference

A sweep takes the registrations of dead consumers away. Nothing is ever sent through these, and a
dead consumer stays dead, so nobody can tell when or how often a registry was swept: with sweeps put
into a run wherever one likes, the same is sent in the same order, broadcasts and replays are
answered alike, and as many live registrations are counted at any time (`sweeps_unnoticed`). The two
registries do differ in the meantime: they are the same only in what stands for live consumers
(`Interchangeable`).
-/

namespace AccessStatus

namespace Registry

variable {α : Type}

/-- The second run is the first with sweeps put in, as many and wherever one likes. -/
inductive Swept : List (World.Act (Op α)) → List (World.Act (Op α)) → Prop where
  | nil : Swept [] []
  | act (a : World.Act (Op α)) {run more : List (World.Act (Op α))} (rest : Swept run more) :
    Swept (a :: run) (a :: more)
  | sweep {run more : List (World.Act (Op α))} (rest : Swept run more) :
    Swept run (.ask .sweep :: more)

/-- What a broadcast or a replay answers; the answers to other requests are left out. -/
def deliveryAnswer (r : Registry) (live : Liveness) : Op α → List Answer
  | .notifyAll value error => [(r.step live (.notifyAll value error)).answer]
  | .notifyOne c value => [(r.step live (.notifyOne c value)).answer]
  | .add _ | .addUnique _ | .remove _ | .clear | .sweep => []

/-! ## Registries that list the same live registrations -/

section LiveOnly

variable {r t : Registry} {live : Liveness}
  (same : (t.subscriptions.filter fun s => live s.consumer) =
    r.subscriptions.filter fun s => live s.consumer)
include same

/-- Two registries with the same live subscriptions broadcast the same. -/
theorem broadcast_eq_of_live (value : α) (error : Option String) :
    t.broadcast live value error = r.broadcast live value error := by
  unfold broadcast
  rw [same]

/-- They replay the same. -/
theorem replay_eq_of_live (c : ConsumerId) (value : α) :
    t.replay live c value = r.replay live c value := by
  -- the registration that is found is the consumer's first among the live ones
  have amongLive (k : Registry) :
    (k.subscriptions.find? fun s => s.consumer = c && live s.consumer) =
      (k.subscriptions.filter fun s => live s.consumer).find? fun s => s.consumer = c := by
    rw [List.find?_filter]
    congr 1
    funext s
    cases live s.consumer <;> simp
  unfold replay
  rw [amongLive, amongLive, same]

/-- They count the same. -/
theorem liveSize_eq_of_live : t.liveSize live = r.liveSize live := by
  unfold liveSize
  rw [List.countP_eq_length_filter, List.countP_eq_length_filter, same]

/-- What is sent depends on the live registrations only. -/
theorem sent_eq_of_live (op : Op α) : (t.step live op).sent = (r.step live op).sent := by
  cases op with
  | notifyAll value error => exact broadcast_eq_of_live same value error
  | notifyOne c value => exact congrArg Option.toList (replay_eq_of_live same c value)
  | _ => rfl

/-- So both answer deliveries in the same way. -/
theorem deliveryAnswer_eq_of_live (op : Op α) :
    t.deliveryAnswer live op = r.deliveryAnswer live op := by
  cases op with
  | notifyAll value error =>
    have sent := broadcast_eq_of_live same value error
    exact congrArg (fun sent => [Answer.count (List.length sent)]) sent
  | notifyOne c value =>
    have sent := replay_eq_of_live same c value
    exact congrArg (fun sent => [Answer.found (Option.isSome sent)]) sent
  | _ => rfl

end LiveOnly

/-! ## Worlds that differ in what was swept -/

/-- Two registries after requests that leave the same registrations standing, for consumers whose
mailboxes are the same; which of the dead ones either still holds does not matter. -/
structure Interchangeable (w v : World Registry α) (ops more : List (Op α)) : Prop where
  holds : Holds w ops
  holdsToo : Holds v more
  standing : standing more = standing ops
  room : v.room = w.room

section Interchangeable

variable {w v : World Registry α} {ops more : List (Op α)}

/-- Registries that may be interchanged have the same live subscriptions. -/
theorem Interchangeable.live_eq (same : Interchangeable w v ops more) :
    (v.state.subscriptions.filter fun s => w.room.live s.consumer) =
      w.state.subscriptions.filter fun s => w.room.live s.consumer := by
  have heldToo := same.holdsToo.live
  rw [same.room] at heldToo
  rw [heldToo, same.standing, same.holds.live]

/-- They count the same, then. -/
theorem Interchangeable.liveSize_eq (same : Interchangeable w v ops more) :
    v.state.liveSize v.room.live = w.state.liveSize w.room.live := by
  rw [same.room]
  exact liveSize_eq_of_live same.live_eq

/-- A request sends the same through both registries. -/
theorem Interchangeable.sentBy_eq (same : Interchangeable w v ops more) (act : World.Act (Op α)) :
    v.sentBy serve act = w.sentBy serve act := by
  cases act with
  | ask op =>
    show (v.state.step v.room.live op).sent = (w.state.step w.room.live op).sent
    rw [same.room]
    exact sent_eq_of_live same.live_eq op
  | happen e => rfl

/-- A request leaves the registries interchangeable. -/
theorem Interchangeable.ask (same : Interchangeable w v ops more) {op : Op α}
    (exist : ∀ c, registers op = some c → w.room.Opened c) :
    Interchangeable (w.next serve (.ask op)) (v.next serve (.ask op)) (ops ++ [op])
      (more ++ [op]) where
  holds := same.holds.ask exist
  holdsToo := same.holdsToo.ask (same.room ▸ exist)
  standing := by rw [standing_concat, standing_concat, same.standing]
  room := by
    have sent : (serve v.state v.room.live op).2 = (serve w.state w.room.live op).2 :=
      same.sentBy_eq (.ask op)
    show v.room.deliverAll (serve v.state v.room.live op).2 =
      w.room.deliverAll (serve w.state w.room.live op).2
    rw [sent, same.room]

/-- So does whatever happens to the consumers. -/
theorem Interchangeable.happen (same : Interchangeable w v ops more) (e : Mailroom.Event) :
    Interchangeable (w.next serve (.happen e)) (v.next serve (.happen e)) ops more where
  holds := same.holds.happen e
  holdsToo := same.holdsToo.happen e
  standing := same.standing
  room := by
    show v.room.afterEvent e = w.room.afterEvent e
    rw [same.room]

/-- And so does a sweep of one of them alone, which ends no registration that stands. -/
theorem Interchangeable.sweep (same : Interchangeable w v ops more) :
    Interchangeable w (v.next serve (.ask .sweep)) ops (more ++ [.sweep]) where
  holds := same.holds
  holdsToo := same.holdsToo.ask fun c registers => nomatch registers
  standing := by
    rw [standing_concat, ← same.standing]
    simp [Op.ends, Op.registration?]
  room := same.room

end Interchangeable

/-! ## Whole runs -/

/-- After a run and after the same run with sweeps put in, all that consumers and callers can know
is the same. -/
structure Unnoticed (w v : World Registry α) (run more : List (World.Act (Op α))) : Prop where
  /-- The same is sent, to the same consumers and in the same order. -/
  sent : v.sent serve more = w.sent serve run
  /-- Each consumer takes the same, and in the end all mailboxes are the same. -/
  taken : ∀ c, v.taken serve c more = w.taken serve c run
  room : (v.after serve more).room = (w.after serve run).room
  /-- Broadcasts and replays are answered alike. -/
  answers : v.observed serve deliveryAnswer more = w.observed serve deliveryAnswer run
  /-- In the end as many live registrations are counted. -/
  liveSize : (v.after serve more).state.liveSize (v.after serve more).room.live =
    (w.after serve run).state.liveSize (w.after serve run).room.live

/-- From interchangeable registries on, no sweep is noticed. -/
theorem Swept.unnoticed {run more : List (World.Act (Op α))} (swept : Swept run more)
    {w v : World Registry α} {ops others : List (Op α)} (same : Interchangeable w v ops others)
    (acquainted : World.Acquainted serve registers w run) : Unnoticed w v run more := by
  -- the induction is along the run; registries that are interchangeable stay so at each act
  induction swept generalizing w v ops others with
  | nil => exact ⟨rfl, fun _ => rfl, same.room, rfl, same.liveSize_eq⟩
  | @act a run more rest ih =>
    have later : World.Acquainted serve registers (w.next serve a) run := acquainted.of_cons
    have sent := same.sentBy_eq a
    cases a with
    | ask op =>
      have next := ih (same.ask fun c names => acquainted.opened_of_cons names) later
      have answer : v.state.deliveryAnswer v.room.live op =
          w.state.deliveryAnswer w.room.live op := by
        rw [same.room]
        exact deliveryAnswer_eq_of_live same.live_eq op
      refine ⟨?_, next.taken, next.room, ?_, next.liveSize⟩
      · rw [World.sent, World.sent, sent, next.sent]
      · rw [World.observed, World.observed, answer, next.answers]
    | happen e =>
      have next := ih (same.happen e) later
      refine ⟨next.sent, fun c => ?_, next.room, next.answers, next.liveSize⟩
      show v.room.takenBy c e ++ (v.next serve (.happen e)).taken serve c more =
        w.room.takenBy c e ++ (w.next serve (.happen e)).taken serve c run
      rw [same.room, next.taken]
  | @sweep run more rest ih =>
    have next := ih same.sweep acquainted
    exact ⟨next.sent, next.taken, next.room, next.answers, next.liveSize⟩

/-- Every moment of the run with sweeps put in is a moment of the run without them. -/
theorem Swept.split {run more : List (World.Act (Op α))} (swept : Swept run more)
    {earlier later : List (World.Act (Op α))} (parts : more = earlier ++ later) :
    ∃ early rest, run = early ++ rest ∧ Swept early earlier ∧ Swept rest later := by
  induction swept generalizing earlier with
  | nil =>
    obtain ⟨rfl, rfl⟩ := List.append_eq_nil_iff.1 parts.symm
    exact ⟨[], [], rfl, .nil, .nil⟩
  | @act a run more rest ih =>
    cases earlier with
    | nil =>
      obtain rfl : a :: more = later := parts
      exact ⟨[], a :: run, rfl, .nil, .act a rest⟩
    | cons b earlier =>
      obtain ⟨rfl, tail⟩ := List.cons.inj parts
      obtain ⟨early, after, rfl, before, behind⟩ := ih tail
      exact ⟨a :: early, after, rfl, .act a before, behind⟩
  | @sweep run more rest ih =>
    cases earlier with
    | nil =>
      obtain rfl : .ask .sweep :: more = later := parts
      exact ⟨[], run, rfl, .nil, .sweep rest⟩
    | cons b earlier =>
      obtain ⟨rfl, tail⟩ := List.cons.inj parts
      obtain ⟨early, after, rfl, before, behind⟩ := ih tail
      exact ⟨early, after, rfl, .sweep before, behind⟩

/-- **Sweeping is not noticed.** Put sweeps into any run in which only consumers that exist
register: up to each moment of the run, and so also up to its end, all that consumers and callers
can know is the same. -/
theorem sweeps_unnoticed (name : String) (room : Mailroom α) {run more : List (World.Act (Op α))}
    (swept : Swept run more)
    (acquainted : World.Acquainted serve registers ⟨.empty name, room⟩ run) :
    Unnoticed ⟨.empty name, room⟩ ⟨.empty name, room⟩ run more ∧
      ∀ earlier later, more = earlier ++ later → ∃ early rest, run = early ++ rest ∧
        Swept early earlier ∧
        Swept rest later ∧ Unnoticed ⟨.empty name, room⟩ ⟨.empty name, room⟩ early earlier := by
  have start : Interchangeable (⟨.empty name, room⟩ : World Registry α) ⟨.empty name, room⟩ [] [] :=
    ⟨holds_empty name room, holds_empty name room, rfl, rfl⟩
  refine ⟨swept.unnoticed start acquainted, ?_⟩
  intro earlier later parts
  obtain ⟨early, rest, rfl, before, behind⟩ := swept.split parts
  exact ⟨early, rest, rfl, before, behind, before.unnoticed start acquainted.of_append⟩

/-- Consumer 0 dies, is registered again all the same, and consumer 1 registers twice around it. -/
def registeredDead : List (World.Act (Op Nat)) :=
  [.ask (.add ⟨⟨0⟩, ⟨5⟩, none⟩), .ask (.add ⟨⟨1⟩, ⟨6⟩, some "first"⟩), .happen (.invalidate ⟨0⟩),
    .ask (.addUnique ⟨⟨0⟩, ⟨7⟩, none⟩), .ask (.add ⟨⟨1⟩, ⟨8⟩, none⟩), .ask (.notifyOne ⟨0⟩ 2),
    .ask (.remove ⟨0⟩), .ask (.notifyAll 3 (some "late"))]

/-- The same with sweeps after each death and each registration of a dead consumer. -/
def registeredDeadSwept : List (World.Act (Op Nat)) :=
  [.ask .sweep, .ask (.add ⟨⟨0⟩, ⟨5⟩, none⟩), .ask (.add ⟨⟨1⟩, ⟨6⟩, some "first"⟩),
    .happen (.invalidate ⟨0⟩), .ask .sweep, .ask (.addUnique ⟨⟨0⟩, ⟨7⟩, none⟩), .ask .sweep,
    .ask .sweep, .ask (.add ⟨⟨1⟩, ⟨8⟩, none⟩), .ask (.notifyOne ⟨0⟩ 2), .ask (.remove ⟨0⟩),
    .ask (.notifyAll 3 (some "late"))]

/-- One run is the other with sweeps put in. -/
theorem swept_registeredDead : Swept registeredDead registeredDeadSwept :=
  .sweep (.act _ (.act _
    (.act _ (.sweep (.act _ (.sweep (.sweep (.act _ (.act _ (.act _ (.act _ .nil)))))))))))

/-- Everybody registered there had a mailbox before. -/
theorem acquainted_registeredDead :
    World.Acquainted serve registers ⟨.empty "numbers", threeConsumers⟩ registeredDead :=
  World.acquainted_of_opened (by unfold Mailroom.Opened; decide)

/-- The removal of the dead consumer finds its registration in one run and nothing in the other;
what is sent is the same. -/
theorem sweeps_unnoticed_registeredDead :
    Swept registeredDead registeredDeadSwept ∧
      World.Acquainted serve registers ⟨.empty "numbers", threeConsumers⟩ registeredDead ∧
      Unnoticed ⟨.empty "numbers", threeConsumers⟩ ⟨.empty "numbers", threeConsumers⟩ registeredDead
        registeredDeadSwept ∧
      (⟨.empty "numbers", threeConsumers⟩ : World Registry Nat).sent serve registeredDeadSwept =
        [⟨⟨1⟩, ⟨⟨6⟩, some "first", 3, some "late"⟩⟩, ⟨⟨1⟩, ⟨⟨8⟩, none, 3, some "late"⟩⟩] :=
  ⟨swept_registeredDead, acquainted_registeredDead,
    (sweeps_unnoticed "numbers" threeConsumers swept_registeredDead acquainted_registeredDead).1,
      by decide⟩

end Registry

end AccessStatus
