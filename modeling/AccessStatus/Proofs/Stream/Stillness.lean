import AccessStatus.Proofs.Stream.World

/-!
# Requests without effect

A request may leave what is seen of a state as it is and send nothing, whoever is live. A run that
asks for nothing else leaves it as it is to the end: nobody is sent anything, and the mailboxes are
what became of them by themselves (`still_of_ignores`). A single request that has no effect where it
is made may as well be left out of the run (`omissible_of_ignored`).
-/

namespace AccessStatus

variable {σ ρ τ α : Type}

/-- In every state of which `seen` is seen, the request leaves it at that and sends nothing, whoever
is live. -/
def Serving.Ignores (serve : Serving σ ρ α) (see : σ → τ) (seen : τ) (request : ρ) : Prop :=
  ∀ s live, see s = seen → see (serve s live request).1 = seen ∧ (serve s live request).2 = []

namespace World

/-! ## Whole runs -/

/-- What happens to the mailboxes in an act, if it is not a request. -/
def Act.event? : Act ρ → Option Mailroom.Event
  | .ask _ => none
  | .happen e => some e

/-- What happens to the mailboxes in a run, the requests apart. -/
def happened (run : List (Act ρ)) : List Mailroom.Event := run.filterMap Act.event?

/-- Nothing comes of the requests of a run: what is seen of the state is the same at its end,
nothing is sent, and the mailboxes are as if nobody had asked for anything. -/
structure Still (serve : Serving σ ρ α) (see : σ → τ) (w : World σ α) (run : List (Act ρ)) :
    Prop where
  state : see (w.after serve run).state = see w.state
  sent : w.sent serve run = []
  room : (w.after serve run).room = (happened run).foldl Mailroom.afterEvent w.room

variable {serve : Serving σ ρ α} {see : σ → τ} {w : World σ α}

/-- A run is still if its first act is, and the rest is after that. -/
theorem Still.cons {act : Act ρ} {run : List (Act ρ)} (now : Still serve see w [act])
    (later : Still serve see (w.next serve act) run) : Still serve see w (act :: run) where
  state := later.state.trans now.state
  sent := by
    have silent : w.sentBy serve act = [] := (List.append_nil _).symm.trans now.sent
    show w.sentBy serve act ++ (w.next serve act).sent serve run = []
    rw [silent, later.sent, List.append_nil]
  room := by
    have first : (w.next serve act).room = (happened [act]).foldl Mailroom.afterEvent w.room :=
      now.room
    have split : happened ([act] ++ run) = happened [act] ++ happened run := List.filterMap_append
    show ((w.next serve act).after serve run).room =
      (happened ([act] ++ run)).foldl Mailroom.afterEvent w.room
    rw [later.room, first, split, List.foldl_append]

/-- What happens to the mailboxes is still. -/
theorem still_happen (e : Mailroom.Event) : Still serve see w [.happen e] := ⟨rfl, rfl, rfl⟩

/-- A request that is ignored is still. -/
theorem still_ask {request : ρ} (ignores : serve.Ignores see (see w.state) request) :
    Still serve see w [.ask request] := by
  obtain ⟨state, silent⟩ := ignores w.state w.room.live rfl
  refine ⟨state, (List.append_nil _).trans silent, ?_⟩
  show w.room.deliverAll (serve w.state w.room.live request).2 = w.room
  rw [silent]
  rfl

/-- Nothing comes of a run in which all requests are ignored. -/
theorem still_of_ignores {run : List (Act ρ)}
    (ignores : ∀ request ∈ asked run, serve.Ignores see (see w.state) request) :
    Still serve see w run := by
  induction run generalizing w with
  | nil => exact ⟨rfl, rfl, rfl⟩
  | cons act run ih =>
    have now : Still serve see w [act] := by
      cases act with
      | ask request => exact still_ask (ignores request List.mem_cons_self)
      | happen e => exact still_happen e
    have same : see (w.next serve act).state = see w.state := now.state
    refine now.cons (ih fun request asks => ?_)
    rw [same]
    obtain ⟨other, there, found⟩ := List.mem_filterMap.1 asks
    exact ignores request (List.mem_filterMap.2 ⟨other, List.mem_cons_of_mem act there, found⟩)

/-! ## One request -/

/-- What a consumer takes over two runs it takes one after the other. -/
theorem taken_append (w : World σ α) (c : ConsumerId) (run later : List (Act ρ)) :
    w.taken serve c (run ++ later) =
      w.taken serve c run ++ (w.after serve run).taken serve c later := by
  induction run generalizing w with
  | nil => rfl
  | cons act run ih =>
    show w.takenBy c act ++ (w.next serve act).taken serve c (run ++ later) = _
    rw [ih, ← List.append_assoc]
    rfl

/-- Whether the request is made after the run or not, everything is the same then and ever after. -/
structure Omissible (serve : Serving σ ρ α) (w : World σ α) (run : List (Act ρ)) (request : ρ) :
    Prop where
  after : ∀ later, w.after serve (run ++ .ask request :: later) = w.after serve (run ++ later)
  sent : ∀ later, w.sent serve (run ++ .ask request :: later) = w.sent serve (run ++ later)
  taken : ∀ later c, w.taken serve c (run ++ .ask request :: later) = w.taken serve c (run ++ later)

/-- A request that leaves the state as it is and sends nothing leaves the whole world as it is. -/
theorem next_of_ignored {request : ρ}
    (ignored : serve w.state w.room.live request = (w.state, [])) :
    w.next serve (.ask request) = w := by
  show (⟨(serve w.state w.room.live request).1,
    w.room.deliverAll (serve w.state w.room.live request).2⟩ : World σ α) = w
  rw [ignored]
  rfl

/-- Such a request may be left out. -/
theorem omissible_of_ignored {run : List (Act ρ)} {request : ρ}
    (ignored : serve (w.after serve run).state (w.after serve run).room.live request =
      ((w.after serve run).state, [])) :
    Omissible serve w run request := by
  have same := next_of_ignored ignored
  have silent : (w.after serve run).sentBy serve (.ask request) = [] := congrArg Prod.snd ignored
  refine ⟨fun later => ?_, fun later => ?_, fun later c => ?_⟩
  · rw [after_append, after_append]
    show ((w.after serve run).next serve (.ask request)).after serve later = _
    rw [same]
  · rw [sent_append, sent_append]
    show _ ++ ((w.after serve run).sentBy serve (.ask request) ++
      ((w.after serve run).next serve (.ask request)).sent serve later) = _
    rw [silent, same, List.nil_append]
  · rw [taken_append, taken_append]
    show _ ++ ((w.after serve run).takenBy c (.ask request) ++
      ((w.after serve run).next serve (.ask request)).taken serve c later) = _
    rw [same]
    rfl

end World

end AccessStatus
