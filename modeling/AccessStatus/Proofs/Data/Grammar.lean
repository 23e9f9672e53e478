import AccessStatus.Data.Basic

/-!
# The grammar of connection records

Which event may come after which, where an event leaves the connection, and how the transport of its
record compares with that of the record before. The transition table is read the other way round
here: an event tells what was reported when it happened (`transition_eq_some_iff`). What may come
next depends on the state alone (`successors_eq`).
-/

namespace AccessStatus

/-! ## Events -/

/-- The events that may come next while a connection is in a state. -/
def ConnectionState.events : ConnectionState → List ConnectionEvent
  | inactive => [.started, .connected]
  | connecting => [.failed, .connected]
  | connected => [.disconnected, .handoverStarted]
  | handover => [.disconnected, .handoverSuccess, .handoverFailed]

namespace ConnectionEvent

/-- Where an event leaves the connection. -/
def target : ConnectionEvent → ConnectionState
  | started => .connecting
  | connected | handoverSuccess | handoverFailed => .connected
  | failed | disconnected => .inactive
  | handoverStarted => .handover

/-- The events that may come after an event, or first of all. -/
def successors : Option ConnectionEvent → List ConnectionEvent
  | none | some failed | some disconnected => [started, connected]
  | some started => [failed, connected]
  | some connected | some handoverSuccess | some handoverFailed => [disconnected, handoverStarted]
  | some handoverStarted => [disconnected, handoverSuccess, handoverFailed]

/-- What the modem reports when an event happens. -/
def reported : ConnectionEvent → ReportedState
  | started => .connecting
  | connected | handoverSuccess | handoverFailed => .connected
  | failed | disconnected => .disconnected
  | handoverStarted => .handoverInProgress

/-- Whether an event can happen on another transport than before (`moved`), or on the same. -/
def admits : ConnectionEvent → Bool → Bool
  | handoverStarted, moved | handoverFailed, moved => !moved
  | handoverSuccess, moved => moved
  | _, _ => true

/-- Events that leave the same state have the same successors. -/
theorem successors_eq (last : Option ConnectionEvent) :
    successors last = (last.elim .inactive target).events := by
  rcases last with _ | last
  · rfl
  · cases last <;> rfl

/-- The table has a row exactly for the reports of the events that may come next. -/
theorem transition_eq_some_iff (state : ConnectionState) (r : ReportedState) (moved : Bool)
    (next : ConnectionState) (event : ConnectionEvent) :
    transition state r moved = some (next, event) ↔
      event ∈ state.events ∧ event.admits moved ∧ event.target = next ∧ event.reported = r := by
  cases state <;> cases event <;> cases r <;> cases moved <;>
    simp [transition, ConnectionState.events, admits, target, reported]

end ConnectionEvent

/-! ## Records -/

namespace ConnectionChange

/-- The report that a record comes from. -/
def report (change : ConnectionChange) : ConnectionReport :=
  ⟨change.transport, change.event.reported, change.failCause⟩

/-- A record that may come after another, or first of all. A handover starts and fails where the
connection was, and succeeds elsewhere. -/
structure MayFollow (last : Option ConnectionChange) (change : ConnectionChange) : Prop where
  event : change.event ∈ ConnectionEvent.successors (last.map ConnectionChange.event)
  state : change.state = change.event.target
  stays : change.event = .handoverStarted ∨ change.event = .handoverFailed →
    ∀ record ∈ last, change.transport = record.transport
  moves : change.event = .handoverSuccess → ∀ record ∈ last, change.transport ≠ record.transport

/-- The last record, if there is one, has the state that its event leads to. -/
def Settled (last : Option ConnectionChange) : Prop :=
  ∀ record ∈ last, record.state = record.event.target

theorem settled_none : Settled none := by
  intro record absent
  cases absent

/-- A change that may follow leads to the state of its event. -/
theorem MayFollow.settled {last : Option ConnectionChange} {change : ConnectionChange}
    (follows : MayFollow last change) : Settled (some change) := by
  intro record same
  obtain rfl := Option.some_inj.1 same
  exact follows.state

/-- Records of which each may come after the one before it, the first after `last`. -/
def Lawful (last : Option ConnectionChange) : List ConnectionChange → Prop
  | [] => True
  | change :: records => MayFollow last change ∧ Lawful (some change) records

/-- The two clauses about transports say that the event admits the move from where the last record
was. The first record of all may be anywhere, as no handover comes first. -/
theorem mayFollow_iff (last : Option ConnectionChange) (change : ConnectionChange) :
    MayFollow last change ↔
      change.event ∈ ConnectionEvent.successors (last.map ConnectionChange.event) ∧
        change.event.admits (change.transport != last.elim .invalid ConnectionChange.transport) ∧
        change.event.target = change.state := by
  constructor
  · intro follows
    refine ⟨follows.event, ?_, follows.state.symm⟩
    have event := follows.event
    have stays := follows.stays
    have moves := follows.moves
    rcases last with _ | last <;>
      cases h : change.event <;> simp_all [ConnectionEvent.admits, ConnectionEvent.successors]
  · rintro ⟨event, fits, state⟩
    refine ⟨event, state.symm, ?_, ?_⟩
    · intro h record same
      obtain rfl := Option.mem_def.1 same
      rcases h with h | h <;> simpa [h, ConnectionEvent.admits] using fits
    · intro h record same
      obtain rfl := Option.mem_def.1 same
      simpa [h, ConnectionEvent.admits] using fits

end ConnectionChange

end AccessStatus
