import AccessStatus.Stream.Mailroom

/-!
# What happens to a mailbox

Which consumers are live and what they have pending, operation by operation. What is delivered
reaches a live consumer in order and once each (`pending_deliverAll`); a consumer that is no longer
live never is again.
-/

namespace AccessStatus

variable {α : Type}

/-! ## What a consumer receives -/

@[simp] theorem received_nil (c : ConsumerId) : received c ([] : List (Delivery α)) = [] := rfl

/-- A delivery is received by the consumer it is addressed to. -/
theorem received_cons (c : ConsumerId) (d : Delivery α) (sent : List (Delivery α)) :
    received c (d :: sent) = if d.consumer = c then d.notification :: received c sent
      else received c sent := by
  unfold received
  by_cases same : d.consumer = c
  · rw [List.filter_cons_of_pos (by simpa using same), List.map_cons, if_pos same]
  · rw [List.filter_cons_of_neg (by simpa using same), if_neg same]

/-- What is received of two batches is received one after the other. -/
theorem received_append (c : ConsumerId) (sent more : List (Delivery α)) :
    received c (sent ++ more) = received c sent ++ received c more := by
  rw [received, List.filter_append, List.map_append, ← received, ← received]

/-- What a consumer receives is seen through `f` as what is sent is. -/
theorem received_map {β : Type} (c : ConsumerId) (sent : List (Delivery α)) (f : α → β) :
    received c (sent.map (·.map f)) = (received c sent).map (·.map f) := by
  unfold received
  rw [List.filter_map, List.map_map, List.map_map]
  rfl

/-- Values may be translated before or after they are received. -/
theorem values_received_map {β : Type} (c : ConsumerId) (sent : List (Delivery α)) (f : α → β) :
    (received c (sent.map (·.map f))).map Notification.value =
      ((received c sent).map Notification.value).map f := by
  rw [received_map, List.map_map, List.map_map]
  rfl

/-- A consumer receives what is delivered to it. -/
theorem mem_received_iff {c : ConsumerId} {sent : List (Delivery α)} {n : Notification α} :
    n ∈ received c sent ↔ ∃ d ∈ sent, d.consumer = c ∧ d.notification = n := by
  simp [received, and_assoc]

namespace Mailroom

/-! ## Looking a mailbox up -/

/-- The mailbox of a consumer, if the consumer was created. -/
def box? (m : Mailroom α) (c : ConsumerId) : Option (Mailbox α) := m.boxes[c.number]?

/-- The consumer was created. -/
def Opened (m : Mailroom α) (c : ConsumerId) : Prop := c.number < m.boxes.length

/-- A consumer is live if it has a mailbox and that mailbox is valid. -/
theorem live_eq (m : Mailroom α) (c : ConsumerId) :
    m.live c = (m.box? c).elim false Mailbox.valid := by
  unfold live box?
  cases m.boxes[c.number]? <;> rfl

/-- What is pending is the queue of the mailbox, if there is one. -/
theorem pending_eq (m : Mailroom α) (c : ConsumerId) :
    m.pending c = (m.box? c).elim [] Mailbox.queue := by
  unfold pending box?
  cases m.boxes[c.number]? <;> rfl

/-- An update is seen at the mailbox it is for. -/
theorem box?_update_self (m : Mailroom α) (c : ConsumerId) (f : Mailbox α → Mailbox α) :
    (m.update c f).box? c = (m.box? c).map f :=
  List.getElem?_modify_eq f c.number m.boxes

/-- It is not seen at another one. -/
theorem box?_update_of_ne (m : Mailroom α) {c d : ConsumerId} (other : d ≠ c)
    (f : Mailbox α → Mailbox α) :
    (m.update d f).box? c = m.box? c := by
  have distinct : d.number ≠ c.number := fun same => other (congrArg ConsumerId.mk same)
  exact List.getElem?_modify_ne f m.boxes distinct

/-- A new mailbox is empty and accepts; those opened before stay as they are. -/
theorem box?_openBox (m : Mailroom α) {c : ConsumerId} (opened : m.Opened c) :
    m.openBox.box? c = m.box? c :=
  List.getElem?_append_left opened

/-- A mailbox is not lost when another one is opened. -/
theorem Opened.openBox {m : Mailroom α} {c : ConsumerId} (opened : m.Opened c) :
    m.openBox.Opened c := by
  have longer : m.openBox.boxes.length = m.boxes.length + 1 := List.length_append
  unfold Opened at *
  omega

/-- Nor when one is changed. -/
theorem Opened.update {m : Mailroom α} {c : ConsumerId} (opened : m.Opened c) (d : ConsumerId)
    (f : Mailbox α → Mailbox α) : (m.update d f).Opened c := by
  unfold Opened Mailroom.update
  rw [List.length_modify]
  exact opened

/-- Nor when mail is delivered. -/
theorem Opened.deliverAll {m : Mailroom α} {c : ConsumerId} (opened : m.Opened c)
    (sent : List (Delivery α)) :
    (m.deliverAll sent).Opened c := by
  induction sent generalizing m with
  | nil => exact opened
  | cons d sent ih => exact ih (opened.update d.consumer _)

/-! ## Who is live -/

/-- Whoever is live has a mailbox. -/
theorem opened_of_live (m : Mailroom α) {c : ConsumerId} (alive : m.live c = true) :
    m.Opened c := by
  by_cases opened : m.Opened c
  · exact opened
  · rw [live_eq, box?, List.getElem?_eq_none (Nat.le_of_not_lt opened)] at alive
    cases alive

/-- Opening a mailbox does not bring anybody back to life. -/
theorem live_openBox (m : Mailroom α) {c : ConsumerId} (opened : m.Opened c) :
    m.openBox.live c = m.live c := by
  rw [live_eq, box?_openBox m opened, ← live_eq]

/-- A change of one mailbox leaves the others as valid as they were. -/
theorem live_update_of_ne (m : Mailroom α) {c d : ConsumerId} (other : d ≠ c)
    (f : Mailbox α → Mailbox α) :
    (m.update d f).live c = m.live c := by
  rw [live_eq, box?_update_of_ne m other, ← live_eq]

/-- Whoever only changes what is queued leaves everyone as live as before. -/
theorem live_update (m : Mailroom α) (d : ConsumerId) {f : Mailbox α → Mailbox α}
    (keeps : ∀ box, (f box).valid = box.valid) : (m.update d f).live = m.live := by
  funext c
  -- the mailbox that is changed is as valid as before, and all others are not touched
  by_cases same : d = c
  · subst same
    rw [live_eq, live_eq, box?_update_self]
    cases m.box? d with
    | none => rfl
    | some box => exact keeps box
  · exact live_update_of_ne m same f

/-- A delivery kills nobody. -/
@[simp] theorem live_deliver (m : Mailroom α) (d : Delivery α) : (m.deliver d).live = m.live := by
  apply live_update
  intro box
  split <;> rfl

/-- Nor do several. -/
@[simp] theorem live_deliverAll (m : Mailroom α) (sent : List (Delivery α)) :
    (m.deliverAll sent).live = m.live := by
  induction sent generalizing m with
  | nil => rfl
  | cons d sent ih => exact (ih (m.deliver d)).trans (live_deliver m d)

theorem live_dropFirst (m : Mailroom α) (d : ConsumerId) : (m.dropFirst d).live = m.live :=
  live_update m d fun _ => rfl

theorem live_drain (m : Mailroom α) (d : ConsumerId) : (m.drain d).live = m.live :=
  live_update m d fun _ => rfl

/-! ## What is pending -/

/-- A change of one mailbox leaves what is pending in the others. -/
theorem pending_update_of_ne (m : Mailroom α) {c d : ConsumerId} (other : d ≠ c)
    (f : Mailbox α → Mailbox α) :
    (m.update d f).pending c = m.pending c := by
  rw [pending_eq, box?_update_of_ne m other, ← pending_eq]

/-- A fresh mailbox is empty. -/
theorem pending_openBox (m : Mailroom α) (c : ConsumerId) : m.openBox.pending c = m.pending c := by
  by_cases opened : m.Opened c
  · rw [pending_eq, box?_openBox m opened, ← pending_eq]
  · -- a mailbox that is not open holds nothing, and neither does the new one, if it is this one
    have absent : m.box? c = none := List.getElem?_eq_none (Nat.le_of_not_lt opened)
    have fresh : ∀ box ∈ m.openBox.box? c, box.queue = [] := by
      intro box found
      have placed : (m.boxes ++ [(⟨true, true, []⟩ : Mailbox α)])[c.number]? = some box := found
      rw [List.getElem?_append_right (Nat.le_of_not_lt opened), List.getElem?_singleton] at placed
      split at placed
      · obtain rfl := Option.some_inj.1 placed
        rfl
      · cases placed
    rw [pending_eq, pending_eq, absent]
    cases h : m.openBox.box? c with
    | none => rfl
    | some box => exact fresh box h

/-- Taking the first notification leaves the rest. -/
theorem pending_dropFirst_self (m : Mailroom α) (c : ConsumerId) :
    (m.dropFirst c).pending c = (m.pending c).tail := by
  rw [pending_eq, dropFirst, box?_update_self, pending_eq]
  cases m.box? c <;> rfl

/-- Draining leaves nothing. -/
theorem pending_drain_self (m : Mailroom α) (c : ConsumerId) : (m.drain c).pending c = [] := by
  rw [pending_eq, drain, box?_update_self]
  cases m.box? c <;> rfl

/-- A delivery reaches the consumer it is for, if that is live. -/
theorem pending_deliver (m : Mailroom α) (d : Delivery α) (c : ConsumerId) :
    (m.deliver d).pending c = m.pending c ++ if m.live c then received c [d] else [] := by
  rw [received_cons, received_nil]
  by_cases same : d.consumer = c
  · subst same
    rw [if_pos rfl, pending_eq, deliver, box?_update_self, live_eq, pending_eq]
    cases m.box? d.consumer with
    | none => rfl
    | some box => cases h : box.valid <;> simp [h]
  · rw [if_neg same, ite_self, List.append_nil, deliver, pending_update_of_ne m same]

/-- A live consumer finds all it was sent behind what it had pending, in order; another finds
nothing new. -/
theorem pending_deliverAll (m : Mailroom α) (sent : List (Delivery α)) (c : ConsumerId) :
    (m.deliverAll sent).pending c = m.pending c ++ if m.live c then received c sent else [] := by
  induction sent generalizing m with
  | nil => rw [received_nil, ite_self, List.append_nil, deliverAll, List.foldl_nil]
  | cons d sent ih =>
    have rest := ih (m.deliver d)
    rw [live_deliver, pending_deliver, List.append_assoc] at rest
    show ((m.deliver d).deliverAll sent).pending c = _
    rw [rest, ← List.singleton_append (l := sent), received_append]
    split <;> rfl

/-! ## What happens around deliveries -/

/-- What happens to mailboxes besides deliveries: a consumer is created, a receiver goes away, a
consumer is declared dead, and a consumer takes the oldest of what it has pending, or all of it. -/
inductive Event where
  | openBox
  | detach (c : ConsumerId)
  | invalidate (c : ConsumerId)
  | takeFirst (c : ConsumerId)
  | takeAll (c : ConsumerId)

/-- The consumer does not die in the event. -/
def Event.Spares (c : ConsumerId) : Event → Prop
  | .detach d | .invalidate d => d ≠ c
  | .openBox | .takeFirst _ | .takeAll _ => True

/-- The mailboxes after one event. -/
def afterEvent (m : Mailroom α) : Event → Mailroom α
  | .openBox => m.openBox
  | .detach c => m.detach c
  | .invalidate c => m.invalidate c
  | .takeFirst c => m.dropFirst c
  | .takeAll c => m.drain c

/-- What a consumer takes in an event. -/
def takenBy (m : Mailroom α) (c : ConsumerId) : Event → List (Notification α)
  | .takeFirst d => if d = c then (m.pending c).head?.toList else []
  | .takeAll d => if d = c then m.pending c else []
  | .openBox | .detach _ | .invalidate _ => []

/-- No event takes a mailbox away. -/
theorem Opened.afterEvent {m : Mailroom α} {c : ConsumerId} (opened : m.Opened c) (e : Event) :
    (m.afterEvent e).Opened c := by
  cases e with
  | openBox => exact opened.openBox
  | detach d => exact opened.update d _
  | invalidate d => exact opened.update d _
  | takeFirst d => exact opened.update d _
  | takeAll d => exact opened.update d _

/-- A consumer that does not die is as live as before. -/
theorem live_afterEvent (m : Mailroom α) {c : ConsumerId} (opened : m.Opened c) {e : Event}
    (spared : e.Spares c) :
    (m.afterEvent e).live c = m.live c := by
  cases e with
  | openBox => exact m.live_openBox opened
  | detach d => exact m.live_update_of_ne spared _
  | invalidate d => exact m.live_update_of_ne spared _
  | takeFirst d => exact congrFun (m.live_dropFirst d) c
  | takeAll d => exact congrFun (m.live_drain d) c

/-- What a consumer takes and what it then has pending are what it had pending. -/
theorem takenBy_append_pending (m : Mailroom α) {c : ConsumerId} {e : Event} (spared : e.Spares c) :
    m.takenBy c e ++ (m.afterEvent e).pending c = m.pending c := by
  cases e with
  | openBox => exact m.pending_openBox c
  | detach d => exact m.pending_update_of_ne spared _
  | invalidate d => exact m.pending_update_of_ne spared _
  | takeFirst d =>
    show (if d = c then _ else []) ++ (m.dropFirst d).pending c = m.pending c
    by_cases same : d = c
    · subst same
      rw [if_pos rfl, m.pending_dropFirst_self]
      cases m.pending d <;> rfl
    · rw [if_neg same, List.nil_append, dropFirst, m.pending_update_of_ne same]
  | takeAll d =>
    show (if d = c then _ else []) ++ (m.drain d).pending c = m.pending c
    by_cases same : d = c
    · subst same
      rw [if_pos rfl, m.pending_drain_self, List.append_nil]
    · rw [if_neg same, List.nil_append, drain, m.pending_update_of_ne same]

/-! ## Dying -/

/-- The consumer was created and no longer accepts notifications. -/
def Dead (m : Mailroom α) (c : ConsumerId) : Prop := m.Opened c ∧ m.live c = false

/-- A mailbox made invalid is that of a dead consumer. -/
theorem live_update_self_of_invalid (m : Mailroom α) (c : ConsumerId) {f : Mailbox α → Mailbox α}
    (kills : ∀ box, (f box).valid = false) : (m.update c f).live c = false := by
  rw [live_eq, box?_update_self]
  cases m.box? c with
  | none => rfl
  | some box => exact kills box

/-- Nothing that happens brings a dead consumer back. -/
theorem Dead.afterEvent {m : Mailroom α} {c : ConsumerId} (dead : m.Dead c) (e : Event) :
    (m.afterEvent e).Dead c := by
  refine ⟨dead.1.afterEvent e, ?_⟩
  by_cases spared : e.Spares c
  · rw [m.live_afterEvent dead.1 spared, dead.2]
  · cases e with
    | detach d =>
      obtain rfl : d = c := Decidable.not_not.1 spared
      exact m.live_update_self_of_invalid d fun _ => rfl
    | invalidate d =>
      obtain rfl : d = c := Decidable.not_not.1 spared
      exact m.live_update_self_of_invalid d fun _ => rfl
    | _ => exact absurd trivial spared

/-- An event after which a consumer that exists is not dead has spared it. -/
theorem spares_of_not_dead {m : Mailroom α} {c : ConsumerId} (opened : m.Opened c) {e : Event}
    (alive : ¬ (m.afterEvent e).Dead c) : e.Spares c := by
  cases e with
  | detach d =>
    rintro rfl
    exact alive ⟨opened.afterEvent (.detach d), m.live_update_self_of_invalid d fun _ => rfl⟩
  | invalidate d =>
    rintro rfl
    exact alive ⟨opened.afterEvent (.invalidate d), m.live_update_self_of_invalid d fun _ => rfl⟩
  | _ => trivial

/-- A consumer that was not created has nothing to take, and nothing pending but what it is sent. -/
theorem takenBy_append_pending_of_missing (m : Mailroom α) {c : ConsumerId}
    (missing : m.box? c = none) (e : Event) :
    m.takenBy c e ++ (m.afterEvent e).pending c = m.pending c := by
  have nothing : m.pending c = [] := by rw [pending_eq, missing]; rfl
  have untouched (d : ConsumerId) (f : Mailbox α → Mailbox α) : (m.update d f).pending c = [] := by
    by_cases same : d = c
    · subst same
      rw [pending_eq, box?_update_self, missing]
      rfl
    · rw [pending_update_of_ne m same, nothing]
  cases e with
  | openBox => exact m.pending_openBox c
  | detach d => rw [nothing]; exact untouched d _
  | invalidate d => rw [nothing]; exact untouched d _
  | takeFirst d =>
    show (if d = c then (m.pending c).head?.toList else []) ++ (m.dropFirst d).pending c =
      m.pending c
    rw [nothing, dropFirst, untouched, List.head?_nil, Option.toList_none, ite_self,
      List.append_nil]
  | takeAll d =>
    show (if d = c then m.pending c else []) ++ (m.drain d).pending c = m.pending c
    rw [nothing, drain, untouched, ite_self, List.append_nil]

/-- What a consumer takes and what it then has pending are what it had pending, unless it is dead
after that. -/
theorem takenBy_append_pending_of_not_dead (m : Mailroom α) {c : ConsumerId} {e : Event}
    (alive : ¬ (m.afterEvent e).Dead c) :
    m.takenBy c e ++ (m.afterEvent e).pending c = m.pending c := by
  by_cases opened : m.Opened c
  · exact m.takenBy_append_pending (spares_of_not_dead opened alive)
  · exact m.takenBy_append_pending_of_missing (List.getElem?_eq_none (Nat.le_of_not_lt opened)) e

/-- Whatever happens to a consumer, it has nothing pending that was not pending before. -/
theorem pending_afterEvent_suffix (m : Mailroom α) (c : ConsumerId) (e : Event) :
    (m.afterEvent e).pending c <:+ m.pending c := by
  by_cases spared : e.Spares c
  · exact ⟨_, m.takenBy_append_pending spared⟩
  · cases e with
    | detach d =>
      obtain rfl : d = c := Decidable.not_not.1 spared
      show (m.detach d).pending d <:+ _
      rw [pending_eq, detach, box?_update_self]
      cases m.box? d <;> exact List.nil_suffix
    | invalidate d =>
      obtain rfl : d = c := Decidable.not_not.1 spared
      show (m.invalidate d).pending d <:+ _
      rw [pending_eq, invalidate, box?_update_self, pending_eq]
      cases m.box? d <;> exact List.suffix_rfl
    | _ => exact absurd trivial spared

end Mailroom

end AccessStatus
