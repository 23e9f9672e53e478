import AccessStatus.Stream.Consumer

/-!
# Mailboxes

The receiving side of every subscription. Opening a mailbox creates a consumer; its notifications
queue up until they are taken. A mailbox whose receiver is detached, and one that was invalidated,
never accepts a notification again; an invalidated one keeps what it holds.
-/

namespace AccessStatus

/-- The mailbox of one consumer. -/
structure Mailbox (α : Type) where
  /-- The receiver still exists. -/
  attached : Bool
  /-- Notifications are still accepted. -/
  valid : Bool
  /-- Notifications not yet taken, in order of arrival. -/
  queue : List (Notification α)

/-- All mailboxes; the one at position `i` belongs to the consumer with number `i`. -/
structure Mailroom (α : Type) where
  boxes : List (Mailbox α)

namespace Mailroom

variable {α : Type}

/-- No consumer yet. -/
def empty : Mailroom α := ⟨[]⟩

/-- The consumer that the next opening creates. -/
def next (m : Mailroom α) : ConsumerId := ⟨m.boxes.length⟩

/-- Creates a consumer, numbered `next`, with an empty mailbox. -/
def openBox (m : Mailroom α) : Mailroom α := ⟨m.boxes ++ [⟨true, true, []⟩]⟩

/-- Which consumers accept notifications now. -/
def live (m : Mailroom α) : Liveness := fun c =>
  match m.boxes[c.number]? with
  | some box => box.valid
  | none => false

/-- Whether the consumer's receiver still exists. -/
def attached (m : Mailroom α) (c : ConsumerId) : Bool :=
  match m.boxes[c.number]? with
  | some box => box.attached
  | none => false

/-- What the consumer has not yet taken. -/
def pending (m : Mailroom α) (c : ConsumerId) : List (Notification α) :=
  match m.boxes[c.number]? with
  | some box => box.queue
  | none => []

/-- Changes one consumer's mailbox. -/
def update (m : Mailroom α) (c : ConsumerId) (f : Mailbox α → Mailbox α) : Mailroom α :=
  ⟨m.boxes.modify c.number f⟩

/-- The receiver goes away, and what it held with it. -/
def detach (m : Mailroom α) (c : ConsumerId) : Mailroom α := m.update c fun _ => ⟨false, false, []⟩

/-- The consumer is declared dead; its receiver stays. -/
def invalidate (m : Mailroom α) (c : ConsumerId) : Mailroom α :=
  m.update c fun box => { box with valid := false }

/-- Puts a notification into its consumer's mailbox, if that is still valid. -/
def deliver (m : Mailroom α) (d : Delivery α) : Mailroom α :=
  m.update d.consumer fun box =>
    if box.valid then { box with queue := box.queue ++ [d.notification] } else box

/-- Delivers in order. -/
def deliverAll (m : Mailroom α) (sent : List (Delivery α)) : Mailroom α := sent.foldl deliver m

/-- Takes the oldest pending notification away. -/
def dropFirst (m : Mailroom α) (c : ConsumerId) : Mailroom α :=
  m.update c fun box => { box with queue := box.queue.tail }

/-- Takes every pending notification away. -/
def drain (m : Mailroom α) (c : ConsumerId) : Mailroom α :=
  m.update c fun box => { box with queue := [] }

end Mailroom

end AccessStatus
