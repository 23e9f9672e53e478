import AccessStatus.Proofs.Stream.World

/-!
# Requests that some do not notice

Some requests are hidden from some of the consumers. If a hidden request makes no difference to what
these consumers can learn later and sends them nothing, and any other request makes of states that
are alike states that are alike and sends them the same, then they cannot tell a run from the run
without the hidden requests (`Unwinds.run`).
-/

namespace AccessStatus

variable {α : Type}

namespace Mailroom

/-! ## The mailboxes of some consumers -/

/-- The same consumers exist and are live, and the mailboxes of some of them are the same. -/
structure SameFor (P : ConsumerId → Prop) (m n : Mailroom α) : Prop where
  valid : m.boxes.map Mailbox.valid = n.boxes.map Mailbox.valid
  boxes : ∀ c, P c → m.box? c = n.box? c

variable {P : ConsumerId → Prop} {m n : Mailroom α}

theorem SameFor.refl (P : ConsumerId → Prop) (m : Mailroom α) : SameFor P m m :=
  ⟨rfl, fun _ _ => rfl⟩

/-- In mailrooms that are the same for some consumers the same ones are live. -/
theorem SameFor.live_eq (same : SameFor P m n) : m.live = n.live := by
  have seen (k : Mailroom α) (c : ConsumerId) :
      k.live c = ((k.boxes.map Mailbox.valid)[c.number]?).getD false := by
    rw [Mailroom.live_eq, List.getElem?_map, box?]
    cases k.boxes[c.number]? <;> rfl
  funext c
  rw [seen m, seen n, same.valid]

/-- Those they are the same for have the same notifications waiting. -/
theorem SameFor.pending_eq (same : SameFor P m n) {c : ConsumerId} (mine : P c) :
    m.pending c = n.pending c := by
  rw [Mailroom.pending_eq, Mailroom.pending_eq, same.boxes c mine]

/-- Whether a mailbox is valid after a change of one of them depends on what was valid before. -/
theorem valid_update (m : Mailroom α) (c : ConsumerId) {f : Mailbox α → Mailbox α} {g : Bool → Bool}
    (acts : ∀ box, (f box).valid = g box.valid) :
    (m.update c f).boxes.map Mailbox.valid = (m.boxes.map Mailbox.valid).modify c.number g := by
  refine List.ext_getElem? fun i => ?_
  rw [List.getElem?_modify, List.getElem?_map, List.getElem?_map, update, List.getElem?_modify]
  cases m.boxes[i]? with
  | none => rfl
  | some box =>
    by_cases here : c.number = i
    · simp [here, acts]
    · simp [here]

/-- They stay the same if a mailbox is changed in one way at both, as far as lives are concerned. -/
theorem SameFor.update (same : SameFor P m n) (d : ConsumerId) {f : Mailbox α → Mailbox α}
    {g : Bool → Bool} (acts : ∀ box, (f box).valid = g box.valid) :
    SameFor P (m.update d f) (n.update d f) where
  valid := by rw [valid_update m d acts, valid_update n d acts, same.valid]
  boxes c mine := by
    by_cases here : d = c
    · subst here
      rw [box?_update_self, box?_update_self, same.boxes d mine]
    · rw [box?_update_of_ne m here, box?_update_of_ne n here, same.boxes c mine]

/-- They stay the same when a mailbox is opened at both. -/
theorem SameFor.openBox (same : SameFor P m n) : SameFor P m.openBox n.openBox where
  valid := by
    unfold Mailroom.openBox
    rw [List.map_append, List.map_append, same.valid]
  boxes c mine := by
    have lengths : m.boxes.length = n.boxes.length := by simpa using congrArg List.length same.valid
    have before : m.boxes[c.number]? = n.boxes[c.number]? := same.boxes c mine
    unfold Mailroom.openBox box?
    rw [List.getElem?_append, List.getElem?_append, lengths, before]

/-- Whatever happens to the mailboxes happens to both alike. -/
theorem SameFor.afterEvent (same : SameFor P m n) (e : Event) :
    SameFor P (m.afterEvent e) (n.afterEvent e) := by
  cases e with
  | openBox => exact same.openBox
  | detach c => exact same.update c (g := fun _ => false) fun _ => rfl
  | invalidate c => exact same.update c (g := fun _ => false) fun _ => rfl
  | takeFirst c => exact same.update c (g := id) fun _ => rfl
  | takeAll c => exact same.update c (g := id) fun _ => rfl

/-- Those they are the same for take the same from both. -/
theorem SameFor.takenBy_eq (same : SameFor P m n) {c : ConsumerId} (mine : P c) (e : Event) :
    m.takenBy c e = n.takenBy c e := by
  cases e with
  | takeFirst d | takeAll d =>
    unfold takenBy
    dsimp only
    rw [same.pending_eq mine]
  | _ => rfl

/-- Deliveries leave the mailboxes as valid as they were. -/
theorem valid_deliverAll (m : Mailroom α) (sent : List (Delivery α)) :
    (m.deliverAll sent).boxes.map Mailbox.valid = m.boxes.map Mailbox.valid := by
  induction sent generalizing m with
  | nil => rfl
  | cons d sent ih =>
    have unchanged : (m.deliver d).boxes.map Mailbox.valid = m.boxes.map Mailbox.valid := by
      refine (m.valid_update d.consumer (g := id) fun box => ?_).trans (List.modify_id _ _)
      split <;> rfl
    exact (ih (m.deliver d)).trans unchanged

/-- A mailbox with notifications put in, one after the other. -/
def filled (box : Mailbox α) (told : List (Notification α)) : Mailbox α :=
  told.foldl (fun box n => if box.valid then { box with queue := box.queue ++ [n] } else box) box

/-- What deliveries make of a mailbox depends on what its consumer receives. -/
theorem box?_deliverAll (m : Mailroom α) (sent : List (Delivery α)) (c : ConsumerId) :
    (m.deliverAll sent).box? c = (m.box? c).map fun box => filled box (received c sent) := by
  induction sent generalizing m with
  | nil => exact Option.map_id'.symm
  | cons d sent ih =>
    show ((m.deliver d).deliverAll sent).box? c = _
    rw [ih, received_cons]
    by_cases here : d.consumer = c
    · subst here
      rw [if_pos rfl, deliver, box?_update_self, Option.map_map]
      rfl
    · rw [if_neg here, deliver, box?_update_of_ne m here]

/-- They stay the same when the mail for these consumers is. -/
theorem SameFor.deliverAll (same : SameFor P m n) {sent other : List (Delivery α)}
    (told : ∀ c, P c → received c sent = received c other) :
    SameFor P (m.deliverAll sent) (n.deliverAll other) where
  valid := by rw [valid_deliverAll, valid_deliverAll, same.valid]
  boxes c mine := by rw [box?_deliverAll, box?_deliverAll, same.boxes c mine, told c mine]

end Mailroom

namespace World

variable {σ ρ β : Type} (serve : Serving σ ρ α) (hidden : ρ → Bool)

/-! ## Runs without hidden requests -/

/-- A run without the requests that are hidden. -/
def unhidden (run : List (Act ρ)) : List (Act ρ) := run.filter fun act => !act.request?.any hidden

/-- What is seen of the requests of a run, where `see` is what is seen of one. -/
def observed (see : σ → Liveness → ρ → List β) (w : World σ α) : List (Act ρ) → List β
  | [] => []
  | .ask request :: run =>
    see w.state w.room.live request ++ observed see (w.next serve (.ask request)) run
  | .happen e :: run => observed see (w.next serve (.happen e)) run

/-- What is observed of two runs is observed one after the other. -/
theorem observed_append (see : σ → Liveness → ρ → List β) (w : World σ α)
    (run later : List (Act ρ)) :
    w.observed serve see (run ++ later) =
      w.observed serve see run ++ (w.after serve run).observed serve see later := by
  induction run generalizing w with
  | nil => rfl
  | cons act run ih =>
    cases act with
    | ask request =>
      rw [List.cons_append, observed, ih, observed, List.append_assoc]
      rfl
    | happen e => exact ih _

/-- Observations may be translated one by one. -/
theorem observed_map {γ : Type} (g : β → γ) (see : σ → Liveness → ρ → List β) (w : World σ α)
    (run : List (Act ρ)) :
    w.observed serve (fun s live request => (see s live request).map g) run =
      (w.observed serve see run).map g := by
  induction run generalizing w with
  | nil => rfl
  | cons act run ih =>
    cases act with
    | ask request =>
      rw [observed, ih, observed, List.map_append]
    | happen e => exact ih _

/-- For the consumers with the property hidden requests do not count, as long as requests are fair
and states are good. -/
structure Unwinds (P : ConsumerId → Prop) (Fair : ρ → Prop) (Good : σ → Prop)
    (Alike : σ → σ → Prop) : Prop where
  /-- Fair requests keep states good. -/
  good : ∀ s live request, Good s → Fair request → Good (serve s live request).1
  /-- A request that is not hidden comes to the same in states that are alike. -/
  alike : ∀ s t live request, Good s → Good t → Alike s t → Fair request → hidden request = false →
    Alike (serve s live request).1 (serve t live request).1 ∧
      ∀ c, P c → received c (serve s live request).2 = received c (serve t live request).2
  /-- A hidden request makes no difference. -/
  unnoticed : ∀ s t live request, Good s → Alike s t → Fair request → hidden request = true →
    Alike (serve s live request).1 t ∧ ∀ c, P c → received c (serve s live request).2 = []

/-- The same is seen of requests that are not hidden in states that are alike, and nothing of those
that are. -/
structure Sees (Fair : ρ → Prop) (Good : σ → Prop) (Alike : σ → σ → Prop)
    (see : σ → Liveness → ρ → List β) : Prop where
  alike : ∀ s t live request, Good s → Good t → Alike s t → Fair request → hidden request = false →
    see s live request = see t live request
  unnoticed : ∀ s live request, Good s → Fair request → hidden request = true →
    see s live request = []

/-- Two worlds that some consumers cannot tell apart. -/
structure Alike (P : ConsumerId → Prop) (Good : σ → Prop) (AlikeStates : σ → σ → Prop)
    (w v : World σ α) : Prop where
  good : Good w.state
  goodToo : Good v.state
  state : AlikeStates w.state v.state
  room : w.room.SameFor P v.room

variable {serve hidden} {P : ConsumerId → Prop} {Fair : ρ → Prop} {Good : σ → Prop}
  {AlikeStates : σ → σ → Prop}

/-- A hidden request is left out of the run that is shown. -/
theorem unhidden_cons_of_hidden {request : ρ} (hides : hidden request = true) (run : List (Act ρ)) :
    unhidden hidden (.ask request :: run) = unhidden hidden run :=
      List.filter_cons_of_neg (by simp [Act.request?, hides])

section Step

variable {w v : World σ α} (unwinds : Unwinds serve hidden P Fair Good AlikeStates)
  (alike : Alike P Good AlikeStates w v)
include unwinds alike

/-- After a hidden request in one of two worlds they still cannot be told apart. -/
theorem Alike.next_of_hidden {request : ρ} (fair : Fair request) (hides : hidden request = true) :
    Alike P Good AlikeStates (w.next serve (.ask request)) v := by
  obtain ⟨state, silent⟩ :=
    unwinds.unnoticed _ _ w.room.live request alike.good alike.state fair hides
  refine ⟨unwinds.good _ _ _ alike.good fair, alike.goodToo, state, ?_⟩
  have still : (w.room.deliverAll (serve w.state w.room.live request).2).SameFor P
      (v.room.deliverAll []) :=
    alike.room.deliverAll silent
  exact still

/-- What is not hidden comes to the same in two worlds that cannot be told apart. -/
theorem Alike.next_of_shown {act : Act ρ} (fair : ∀ request ∈ act.request?, Fair request)
    (shows : ∀ request ∈ act.request?, hidden request = false) :
    Alike P Good AlikeStates (w.next serve act) (v.next serve act) ∧
      (∀ c, P c → received c (w.sentBy serve act) = received c (v.sentBy serve act)) ∧
      ∀ c, P c → w.takenBy c act = v.takenBy c act := by
  cases act with
  | ask request =>
    have fair := fair request rfl
    have live := alike.room.live_eq
    -- the same consumers are live in both, so the states are asked the same
    obtain ⟨state, told⟩ :=
      unwinds.alike _ _ w.room.live request alike.good alike.goodToo alike.state fair
      (shows request rfl)
    rw [live] at state told
    refine ⟨⟨unwinds.good _ _ _ alike.good fair, unwinds.good _ _ _ alike.goodToo fair, ?_, ?_⟩, ?_,
      fun _ _ => rfl⟩
    · show AlikeStates (serve w.state w.room.live request).1 (serve v.state v.room.live request).1
      rw [live]
      exact state
    · refine alike.room.deliverAll ?_
      rw [live]
      exact told
    · intro c mine
      show received c (serve w.state w.room.live request).2 =
        received c (serve v.state v.room.live request).2
      rw [live]
      exact told c mine
  | happen e =>
    refine ⟨⟨alike.good, alike.goodToo, alike.state, alike.room.afterEvent e⟩, fun _ _ => rfl, ?_⟩
    intro c mine
    exact alike.room.takenBy_eq mine e

end Step

/-- What some consumers have of a run is what they have of the run without hidden requests. -/
structure Unnoticed (serve : Serving σ ρ α) (hidden : ρ → Bool) (P : ConsumerId → Prop)
    (Good : σ → Prop) (AlikeStates : σ → σ → Prop) (w v : World σ α) (run : List (Act ρ)) :
    Prop where
  received : ∀ c, P c → received c (w.sent serve run) =
    received c (v.sent serve (unhidden hidden run))
  taken : ∀ c, P c → w.taken serve c run = v.taken serve c (unhidden hidden run)
  after : Alike P Good AlikeStates (w.after serve run) (v.after serve (unhidden hidden run))

/-- Whether a run begins with a hidden request. -/
theorem hides_or_shows (hidden : ρ → Bool) (act : Act ρ) :
    (∃ request, act = .ask request ∧ hidden request = true) ∨
      ∀ request ∈ act.request?, hidden request = false := by
  cases act with
  | happen e => exact .inr fun _ none => nomatch none
  | ask request =>
    cases hides : hidden request with
    | true => exact .inl ⟨request, rfl, hides⟩
    | false =>
      refine .inr fun other same => ?_
      obtain rfl := Option.some.inj same
      exact hides

/-- An act that is not hidden stays in it. -/
theorem unhidden_cons_of_shown {act : Act ρ}
    (shows : ∀ request ∈ act.request?, hidden request = false) (run : List (Act ρ)) :
    unhidden hidden (act :: run) = act :: unhidden hidden run := by
  refine List.filter_cons_of_pos ?_
  cases act with
  | ask request => simp [Act.request?, shows request rfl]
  | happen e => rfl

/-- If all requests of a run are fair, the first is, and the others are. -/
theorem fair_of_cons {act : Act ρ} {run : List (Act ρ)}
    (fair : ∀ request ∈ asked (act :: run), Fair request) :
    (∀ request ∈ act.request?, Fair request) ∧ ∀ request ∈ asked run, Fair request := by
  constructor
  · intro request asks
    exact fair request (List.mem_filterMap.2 ⟨act, List.mem_cons_self, asks⟩)
  · intro request asks
    obtain ⟨other, there, asks⟩ := List.mem_filterMap.1 asks
    exact fair request (List.mem_filterMap.2 ⟨other, List.mem_cons_of_mem _ there, asks⟩)

/-- **No run can be told from the run without its hidden requests.** -/
theorem Unwinds.run (unwinds : Unwinds serve hidden P Fair Good AlikeStates) {w v : World σ α}
    (alike : Alike P Good AlikeStates w v) {run : List (Act ρ)}
    (fair : ∀ request ∈ asked run, Fair request) :
    Unnoticed serve hidden P Good AlikeStates w v run := by
  induction run generalizing w v with
  | nil => exact ⟨fun _ _ => rfl, fun _ _ => rfl, alike⟩
  | cons act run ih =>
    obtain ⟨now, later⟩ := fair_of_cons fair
    rcases hides_or_shows hidden act with ⟨request, rfl, hides⟩ | shows
    · -- the run without hidden requests goes on later
      have quiet :=
        unwinds.unnoticed _ _ w.room.live request alike.good alike.state (now request rfl) hides
      have rest := ih (alike.next_of_hidden unwinds (now request rfl) hides) later
      refine ⟨?_, ?_, ?_⟩
      · intro c mine
        have silent : AccessStatus.received c (w.sentBy serve (.ask request)) = [] := quiet.2 c mine
        show AccessStatus.received c
          (w.sentBy serve (.ask request) ++ (w.next serve (.ask request)).sent serve run) = _
        rw [received_append, silent, List.nil_append, unhidden_cons_of_hidden hides]
        exact rest.received c mine
      · intro c mine
        rw [unhidden_cons_of_hidden hides]
        exact rest.taken c mine
      · rw [unhidden_cons_of_hidden hides]
        exact rest.after
    · -- both runs take the act
      obtain ⟨next, told, takes⟩ := alike.next_of_shown unwinds now shows
      have rest := ih next later
      refine ⟨?_, ?_, ?_⟩
      · intro c mine
        rw [unhidden_cons_of_shown shows]
        show AccessStatus.received c (w.sentBy serve act ++ (w.next serve act).sent serve run) =
          AccessStatus.received c
            (v.sentBy serve act ++ (v.next serve act).sent serve (unhidden hidden run))
        rw [received_append, received_append, told c mine, rest.received c mine]
      · intro c mine
        rw [unhidden_cons_of_shown shows]
        show w.takenBy c act ++ (w.next serve act).taken serve c run =
          v.takenBy c act ++ (v.next serve act).taken serve c (unhidden hidden run)
        rw [takes c mine, rest.taken c mine]
      · rw [unhidden_cons_of_shown shows]
        exact rest.after

/-- Nor is anything else seen of the hidden requests. -/
theorem Unwinds.observed_eq (unwinds : Unwinds serve hidden P Fair Good AlikeStates)
    {see : σ → Liveness → ρ → List β} (sees : Sees hidden Fair Good AlikeStates see)
    {w v : World σ α} (alike : Alike P Good AlikeStates w v) {run : List (Act ρ)}
    (fair : ∀ request ∈ asked run, Fair request) :
    w.observed serve see run = v.observed serve see (unhidden hidden run) := by
  induction run generalizing w v with
  | nil => rfl
  | cons act run ih =>
    obtain ⟨now, later⟩ := fair_of_cons fair
    rcases hides_or_shows hidden act with ⟨request, rfl, hides⟩ | shows
    · have rest := ih (alike.next_of_hidden unwinds (now request rfl) hides) later
      have unseen := sees.unnoticed _ w.room.live request alike.good (now request rfl) hides
      rw [unhidden_cons_of_hidden hides, observed, unseen, List.nil_append, rest]
    · have rest := ih (alike.next_of_shown unwinds now shows).1 later
      rw [unhidden_cons_of_shown shows]
      cases act with
      | happen e => exact rest
      | ask request =>
        have seen :=
          sees.alike _ _ w.room.live request alike.good alike.goodToo alike.state (now request rfl)
          (shows request rfl)
        rw [observed, observed, seen, rest, alike.room.live_eq]

end World

end AccessStatus
