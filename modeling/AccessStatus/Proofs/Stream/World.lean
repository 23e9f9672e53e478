import AccessStatus.Proofs.History
import AccessStatus.Proofs.Stream.Mailroom

/-!
# A system and the mailboxes it fills

What holds of consumers whatever it is that sends to them. A system answers requests one after the
other; each request changes its state and sends to consumers, who are created, take what they were
sent, and die in between. A dead consumer stays dead (`dead_after`), and one that has not died has
taken or has pending exactly what it was sent (`taken_append_pending`).
-/

namespace AccessStatus

/-- What a request makes of a state and what it sends, where the consumers that are live are
known. -/
abbrev Serving (σ ρ α : Type) := σ → Liveness → ρ → σ × List (Delivery α)

/-- Nothing is ever sent to a consumer that is not live. -/
def Serving.Discreet {σ ρ α : Type} (serve : Serving σ ρ α) : Prop :=
  ∀ s live request c, live c = false → received c (serve s live request).2 = []

/-- The state of a system and all mailboxes. -/
structure World (σ α : Type) where
  state : σ
  room : Mailroom α

namespace World

/-- What can happen: the system is asked for something, or something happens to the mailboxes. -/
inductive Act (ρ : Type) where
  | ask (request : ρ)
  | happen (e : Mailroom.Event)

variable {σ ρ α : Type}

/-- The request that an act is, if it is one. -/
def Act.request? : Act ρ → Option ρ
  | .ask request => some request
  | .happen _ => none

/-- The requests among what happens, in order. -/
def asked (run : List (Act ρ)) : List ρ := run.filterMap Act.request?

section Run

variable (serve : Serving σ ρ α)

/-- The world after one act; what the system sends is delivered at once. -/
def next (w : World σ α) : Act ρ → World σ α
  | .ask request =>
    let (state, sent) := serve w.state w.room.live request
    ⟨state, w.room.deliverAll sent⟩
  | .happen e => { w with room := w.room.afterEvent e }

/-- What an act sends. -/
def sentBy (w : World σ α) : Act ρ → List (Delivery α)
  | .ask request => (serve w.state w.room.live request).2
  | .happen _ => []

/-- What a consumer takes in an act. -/
def takenBy (c : ConsumerId) (w : World σ α) : Act ρ → List (Notification α)
  | .ask _ => []
  | .happen e => w.room.takenBy c e

/-- The world after a run. -/
def after (w : World σ α) (run : List (Act ρ)) : World σ α := run.foldl (next serve) w

/-- What a run sends. -/
def sent (w : World σ α) : List (Act ρ) → List (Delivery α)
  | [] => []
  | act :: run => w.sentBy serve act ++ (w.next serve act).sent run

/-- What a consumer takes in a run. -/
def taken (c : ConsumerId) (w : World σ α) : List (Act ρ) → List (Notification α)
  | [] => []
  | act :: run => w.takenBy c act ++ (w.next serve act).taken c run

end Run

variable {serve : Serving σ ρ α}

/-! ## Putting runs together -/

theorem after_append (w : World σ α) (run later : List (Act ρ)) :
    w.after serve (run ++ later) = (w.after serve run).after serve later := List.foldl_append

/-- The last act of a run works on the world that the others left. -/
theorem after_concat (w : World σ α) (run : List (Act ρ)) (act : Act ρ) :
    w.after serve (run ++ [act]) = (w.after serve run).next serve act := w.after_append run [act]

/-- What is sent over two runs is sent one after the other. -/
theorem sent_append (w : World σ α) (run later : List (Act ρ)) :
    w.sent serve (run ++ later) = w.sent serve run ++ (w.after serve run).sent serve later := by
  induction run generalizing w with
  | nil => rfl
  | cons act run ih =>
    show w.sentBy serve act ++ (w.next serve act).sent serve (run ++ later) = _
    rw [ih, ← List.append_assoc]
    rfl

/-- What the last act sends stands last. -/
theorem sent_concat (w : World σ α) (run : List (Act ρ)) (act : Act ρ) :
    w.sent serve (run ++ [act]) = w.sent serve run ++ (w.after serve run).sentBy serve act := by
  rw [sent_append]
  exact congrArg _ (List.append_nil _)

/-- The requests of a run are those of its acts, in order. -/
theorem asked_concat (run : List (Act ρ)) (act : Act ρ) :
    asked (run ++ [act]) = asked run ++ asked [act] :=
  List.filterMap_append

/-- What `f` finds in the requests of a run, the first act apart. -/
theorem filterMap_asked_cons {β : Type} (f : ρ → Option β) (act : Act ρ) (run : List (Act ρ)) :
    (asked (act :: run)).filterMap f = (act.request?.bind f).toList ++ (asked run).filterMap f := by
  unfold asked
  cases request : act.request? with
  | none => rw [List.filterMap_cons_none request]; rfl
  | some asks =>
    rw [List.filterMap_cons_some request, Option.bind_some]
    cases found : f asks with
    | none => rw [List.filterMap_cons_none found]; rfl
    | some x => rw [List.filterMap_cons_some found]; rfl

/-- What the requests of a run keep is kept by the run. -/
theorem invariant_after {P : σ → Prop} {w : World σ α} {run : List (Act ρ)} (holds : P w.state)
    (step : ∀ s live, ∀ request ∈ asked run, P s → P (serve s live request).1) :
    P (w.after serve run).state := by
  induction run generalizing w with
  | nil => exact holds
  | cons act run ih =>
    cases act with
    | ask request =>
      refine ih (w := w.next serve (.ask request)) (step _ _ request List.mem_cons_self holds) ?_
      intro s live other asks
      exact step s live other (List.mem_cons_of_mem request asks)
    | happen e => exact ih (w := w.next serve (.happen e)) holds step

/-! ## Dead consumers -/

/-- No act takes a mailbox away. -/
theorem opened_next {w : World σ α} {c : ConsumerId} (opened : w.room.Opened c) (act : Act ρ) :
    (w.next serve act).room.Opened c := by
  cases act with
  | ask request => exact opened.deliverAll _
  | happen e => exact opened.afterEvent e

/-- Nor does a run. -/
theorem opened_after {w : World σ α} {c : ConsumerId} (opened : w.room.Opened c)
    (run : List (Act ρ)) :
    (w.after serve run).room.Opened c := by
  induction run generalizing w with
  | nil => exact opened
  | cons act run ih => exact ih (opened_next opened act)

/-- A request kills nobody. -/
theorem live_ask (w : World σ α) (request : ρ) :
    (w.next serve (.ask request)).room.live = w.room.live :=
  w.room.live_deliverAll _

/-- No act brings a dead consumer back. -/
theorem dead_next {w : World σ α} {c : ConsumerId} (dead : w.room.Dead c) (act : Act ρ) :
    (w.next serve act).room.Dead c := by
  cases act with
  | ask request => exact ⟨dead.1.deliverAll _, (congrFun (w.live_ask request) c).trans dead.2⟩
  | happen e => exact dead.afterEvent e

/-- The dead stay dead. -/
theorem dead_after {w : World σ α} {c : ConsumerId} (dead : w.room.Dead c) (run : List (Act ρ)) :
    (w.after serve run).room.Dead c := by
  induction run generalizing w with
  | nil => exact dead
  | cons act run ih => exact ih (dead_next dead act)

/-- Whoever is live after a run and existed before it was live all along. -/
theorem live_of_live_after {w : World σ α} {c : ConsumerId} (opened : w.room.Opened c)
    {run : List (Act ρ)} (alive : (w.after serve run).room.live c = true) :
    w.room.live c = true := by
  cases dead : w.room.live c with
  | true => rfl
  | false => exact absurd ((dead_after ⟨opened, dead⟩ run).2.symm.trans alive) Bool.false_ne_true

/-- Nothing is sent to a dead consumer, whatever happens. -/
theorem received_sent_of_dead (discreet : serve.Discreet) {w : World σ α} {c : ConsumerId}
    (dead : w.room.Dead c) (run : List (Act ρ)) : received c (w.sent serve run) = [] := by
  induction run generalizing w with
  | nil => rfl
  | cons act run ih =>
    have now : received c (w.sentBy serve act) = [] := by
      cases act with
      | ask request => exact discreet _ _ _ _ dead.2
      | happen e => rfl
    show received c (w.sentBy serve act ++ (w.next serve act).sent serve run) = []
    rw [received_append, now, ih (dead_next dead act), List.append_nil]

/-- What a dead consumer has pending never grows. -/
theorem pending_after_suffix_of_dead {w : World σ α} {c : ConsumerId} (dead : w.room.Dead c)
    (run : List (Act ρ)) :
    (w.after serve run).room.pending c <:+ w.room.pending c := by
  induction run generalizing w with
  | nil => exact List.suffix_rfl
  | cons act run ih =>
    refine (ih (dead_next dead act)).trans ?_
    cases act with
    | ask request =>
      have same : (w.room.deliverAll (serve w.state w.room.live request).2).pending c =
          w.room.pending c := by
        rw [w.room.pending_deliverAll, dead.2, if_neg Bool.false_ne_true, List.append_nil]
      exact ⟨[], same⟩
    | happen e => exact w.room.pending_afterEvent_suffix c e

/-! ## Consumers that have not died -/

/-- What a request sends a consumer is pending behind what was. -/
theorem pending_ask (discreet : serve.Discreet) (w : World σ α) (request : ρ) (c : ConsumerId) :
    (w.next serve (.ask request)).room.pending c =
      w.room.pending c ++ received c (w.sentBy serve (.ask request)) := by
  show (w.room.deliverAll (serve w.state w.room.live request).2).pending c = _
  rw [w.room.pending_deliverAll]
  cases alive : w.room.live c with
  | true => rfl
  | false =>
    have untold : received c (w.sentBy serve (.ask request)) = [] := discreet _ _ _ _ alive
    rw [untold, if_neg Bool.false_ne_true]

/-- Nothing that a consumer has pending is ever lost in a run, other than by being taken. -/
def Lossless (serve : Serving σ ρ α) (c : ConsumerId) (w : World σ α) (run : List (Act ρ)) : Prop :=
  ∀ before e later, run = before ++ .happen e :: later →
    (w.after serve before).room.takenBy c e ++
        ((w.after serve before).room.afterEvent e).pending c =
      (w.after serve before).room.pending c

/-- Nothing is lost of a consumer that survives. -/
theorem lossless_of_not_dead {w : World σ α} {c : ConsumerId} {run : List (Act ρ)}
    (alive : ¬ (w.after serve run).room.Dead c) : Lossless serve c w run := by
  rintro before e later rfl
  refine Mailroom.takenBy_append_pending_of_not_dead _ fun dead => alive ?_
  rw [after_append]
  exact dead_after (w := (w.after serve before).next serve (.happen e)) dead later

/-- Nothing is lost as long as the mailbox of a consumer is spared, live or not. -/
theorem lossless_of_spared (w : World σ α) {c : ConsumerId} {run : List (Act ρ)}
    (spared : ∀ e, .happen e ∈ run → e.Spares c) : Lossless serve c w run := by
  rintro before e later rfl
  exact Mailroom.takenBy_append_pending _
    (spared e (List.mem_append_right _ List.mem_cons_self))

/-- What a consumer has taken and has pending after a run in which nothing is lost is what it had
pending and what it was sent. -/
theorem Lossless.taken_append_pending (discreet : serve.Discreet) {w : World σ α} {c : ConsumerId}
    {run : List (Act ρ)} (lossless : Lossless serve c w run) :
    w.taken serve c run ++ (w.after serve run).room.pending c =
      w.room.pending c ++ received c (w.sent serve run) := by
  induction run generalizing w with
  | nil => exact (List.append_nil _).symm
  | cons act run ih =>
    have still : Lossless serve c (w.next serve act) run := by
      rintro before e later rfl
      exact lossless (act :: before) e later rfl
    have rest := ih still
    have now : w.takenBy c act ++ (w.next serve act).room.pending c =
        w.room.pending c ++ received c (w.sentBy serve act) := by
      cases act with
      | ask request => exact w.pending_ask discreet request c
      | happen e => exact (lossless [] e run rfl).trans (List.append_nil _).symm
    show (w.takenBy c act ++ (w.next serve act).taken serve c run) ++
        ((w.next serve act).after serve run).room.pending c =
      w.room.pending c ++
        received c (w.sentBy serve act ++ (w.next serve act).sent serve run)
    rw [List.append_assoc, rest, ← List.append_assoc, now, List.append_assoc, received_append]

/-- So it is for a consumer that survives. -/
theorem taken_append_pending (discreet : serve.Discreet) (w : World σ α) {c : ConsumerId}
    {run : List (Act ρ)} (alive : ¬ (w.after serve run).room.Dead c) :
    w.taken serve c run ++ (w.after serve run).room.pending c =
      w.room.pending c ++ received c (w.sent serve run) :=
  (lossless_of_not_dead alive).taken_append_pending discreet

/-! ## Consumers exist before they register -/

/-- Whenever a request registers a consumer, that consumer exists. -/
def Acquainted (serve : Serving σ ρ α) (registers : ρ → Option ConsumerId) (w : World σ α)
    (run : List (Act ρ)) : Prop :=
  ∀ before request later c, run = before ++ .ask request :: later → registers request = some c →
    (w.after serve before).room.Opened c

variable {registers : ρ → Option ConsumerId}

/-- What comes before the last act knows whom it names, too. -/
theorem Acquainted.of_concat {w : World σ α} {run : List (Act ρ)} {act : Act ρ}
    (acquainted : Acquainted serve registers w (run ++ [act])) :
    Acquainted serve registers w run := by
  rintro before request later c rfl names
  exact acquainted before request (later ++ [act]) c (by simp) names

/-- Whom the last request names has a mailbox by then. -/
theorem Acquainted.opened {w : World σ α} {run : List (Act ρ)} {request : ρ}
    (acquainted : Acquainted serve registers w (run ++ [.ask request])) {c : ConsumerId}
    (names : registers request = some c) : (w.after serve run).room.Opened c :=
  acquainted run request [] c rfl names

/-- The first part of an acquainted run is acquainted. -/
theorem Acquainted.of_append {w : World σ α} {run later : List (Act ρ)}
    (acquainted : Acquainted serve registers w (run ++ later)) :
    Acquainted serve registers w run := by
  rintro before request rest c rfl names
  exact acquainted before request (rest ++ later) c (by simp) names

/-- So is the second part, from where the first one leads. -/
theorem Acquainted.of_later {w : World σ α} {run later : List (Act ρ)}
    (acquainted : Acquainted serve registers w (run ++ later)) :
    Acquainted serve registers (w.after serve run) later := by
  rintro before request rest c rfl names
  rw [← after_append]
  exact acquainted (run ++ before) request rest c (by simp) names

/-- After the first act the same is true of the rest of the run. -/
theorem Acquainted.of_cons {w : World σ α} {act : Act ρ} {run : List (Act ρ)}
    (acquainted : Acquainted serve registers w (act :: run)) :
    Acquainted serve registers (w.next serve act) run := by
  rintro before request later c rfl names
  exact acquainted (act :: before) request later c rfl names

/-- Whom the first request names has a mailbox in the beginning. -/
theorem Acquainted.opened_of_cons {w : World σ α} {request : ρ} {run : List (Act ρ)}
    (acquainted : Acquainted serve registers w (.ask request :: run)) {c : ConsumerId}
    (names : registers request = some c) : w.room.Opened c :=
  acquainted [] request run c rfl names

/-- It is enough that all who register exist from the beginning. -/
theorem acquainted_of_opened {w : World σ α} {run : List (Act ρ)}
    (exist : ∀ request ∈ asked run, ∀ c, registers request = some c → w.room.Opened c) :
    Acquainted serve registers w run := by
  rintro before request later c rfl names
  have asks : request ∈ asked (before ++ .ask request :: later) :=
    List.mem_filterMap.2 ⟨.ask request, List.mem_append_right _ List.mem_cons_self, rfl⟩
  exact opened_after (exist request asks c names) before

end World

end AccessStatus
