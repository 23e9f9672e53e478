import AccessStatus.Data.Monitor
import AccessStatus.Proofs.Data.Grammar

/-!
# The records a connection emits

In a run reports come in any order, and consumers come and go between them. The machine always
stands where its last record says (`AgreesWith.next`), and so it accepts exactly the reports of the
records that may follow (`changeOf_eq_some_iff`). Hence the sequences of records it emits are the
lawful ones, all of them.
-/

namespace AccessStatus

namespace ConnectionMachine

/-! ## Runs -/

/-- What happens to a machine, with the consumers that are live where that matters. -/
inductive Occasion where
  | report (live : Liveness) (r : ConnectionReport)
  | register (live : Liveness) (c : ConsumerId) (tag : Tag)
  | unregister (c : ConsumerId)

/-- The machine after one occasion. -/
def next (m : ConnectionMachine) : Occasion → ConnectionMachine
  | .report live r => (m.report live r).1
  | .register live c tag => (m.register live c tag).1
  | .unregister c => m.unregister c

/-- The record that an occasion emits, if it does. -/
def recordOf? (m : ConnectionMachine) : Occasion → Option ConnectionChange
  | .report _ r => m.changeOf r
  | .register .. | .unregister _ => none

/-- The machine after a run. -/
def after (m : ConnectionMachine) (run : List Occasion) : ConnectionMachine := run.foldl next m

/-- The records that a run emits, in order. -/
def emitted (m : ConnectionMachine) : List Occasion → List ConnectionChange
  | [] => []
  | o :: run => (m.recordOf? o).toList ++ emitted (m.next o) run

@[simp] theorem after_cons (m : ConnectionMachine) (o : Occasion) (run : List Occasion) :
    m.after (o :: run) = (m.next o).after run := rfl

/-- What two parts of a run emit is emitted one after the other. -/
theorem emitted_append (m : ConnectionMachine) (run more : List Occasion) :
    m.emitted (run ++ more) = m.emitted run ++ (m.after run).emitted more := by
  induction run generalizing m with
  | nil => rfl
  | cons o run ih => rw [List.cons_append, emitted, emitted, ih, after_cons, List.append_assoc]

/-! ## Where a machine stands -/

/-- The machine stands where its last record says; with no record yet, it is not connected. -/
structure AgreesWith (m : ConnectionMachine) (last : Option ConnectionChange) : Prop where
  state : m.state = last.elim .inactive ConnectionChange.state
  transport : m.transport = last.elim .invalid ConnectionChange.transport
  failCause : m.failCause = last.elim 0 ConnectionChange.failCause
  lastChange : m.lastChange = last

theorem agreesWith_fresh : fresh.AgreesWith none := ⟨rfl, rfl, rfl, rfl⟩

/-- A report that emits a record sends it to every live consumer, and one that emits none does
nothing at all. -/
theorem report_eq (m : ConnectionMachine) (live : Liveness) (r : ConnectionReport) :
    m.changeOf r = none ∧ m.report live r = (m, []) ∨
      ∃ change, m.changeOf r = some change ∧
        m.report live r =
          (⟨change.state, change.transport, change.failCause, (m.notifier.publish live change).1⟩,
            m.notifier.registry.broadcast live change none) := by
  unfold report
  cases h : m.changeOf r with
  | none => exact Or.inl ⟨rfl, rfl⟩
  | some change => exact Or.inr ⟨change, rfl, rfl⟩

/-- What happens next leaves the machine where the record it emits says, or where it was. -/
theorem AgreesWith.next {m : ConnectionMachine} {last : Option ConnectionChange}
    (agrees : m.AgreesWith last) (o : Occasion) :
    (m.next o).AgreesWith ((m.recordOf? o).or last) := by
  cases o with
  | report live r =>
    rcases m.report_eq live r with ⟨dropped, same⟩ | ⟨change, accepted, moved⟩
    · rw [recordOf?, dropped, Option.none_or, ConnectionMachine.next, same]
      exact agrees
    · rw [recordOf?, accepted, Option.some_or, ConnectionMachine.next, moved]
      exact ⟨rfl, rfl, rfl, rfl⟩
  | register live c tag =>
    exact ⟨agrees.state, agrees.transport, agrees.failCause, agrees.lastChange⟩
  | unregister c => exact ⟨agrees.state, agrees.transport, agrees.failCause, agrees.lastChange⟩

/-! ## Which reports are accepted -/

/-- A machine that stands where its last record says accepts the reports of the records that may
follow, each as that record, and no others. -/
theorem changeOf_eq_some_iff {m : ConnectionMachine} {last : Option ConnectionChange}
    (agrees : m.AgreesWith last) (settled : ConnectionChange.Settled last) (r : ConnectionReport)
    (change : ConnectionChange) :
    m.changeOf r = some change ↔ change.MayFollow last ∧ r = change.report := by
  -- the state says no more of the last record than where its event led
  have state : (last.map ConnectionChange.event).elim .inactive ConnectionEvent.target =
      m.state := by
    rw [agrees.state]
    cases last with
    | none => rfl
    | some record => exact (settled record rfl).symm
  rw [ConnectionChange.mayFollow_iff, ConnectionEvent.successors_eq, state, changeOf,
    agrees.transport, Option.map_eq_some_iff]
  constructor
  · rintro ⟨⟨target, event⟩, row, rfl⟩
    obtain ⟨successor, fits, leads, reported⟩ := (ConnectionEvent.transition_eq_some_iff ..).1 row
    refine ⟨⟨successor, fits, leads⟩, ?_⟩
    rw [ConnectionChange.report, reported]
  · rintro ⟨⟨successor, fits, leads⟩, rfl⟩
    exact ⟨(change.state, change.event),
      (ConnectionEvent.transition_eq_some_iff ..).2 ⟨successor, fits, leads, rfl⟩, rfl⟩

/-- A record that an occasion emits may follow. -/
theorem AgreesWith.mayFollow {m : ConnectionMachine} {last : Option ConnectionChange}
    (agrees : m.AgreesWith last) (settled : ConnectionChange.Settled last) {o : Occasion}
    {change : ConnectionChange} (emits : m.recordOf? o = some change) : change.MayFollow last := by
  cases o with
  | report live r => exact ((changeOf_eq_some_iff agrees settled r change).1 emits).1
  | register live c tag => exact absurd emits (by simp [recordOf?])
  | unregister c => exact absurd emits (by simp [recordOf?])

/-! ## Whole runs -/

/-- What a run emits is lawful, and the machine is left where the last record says. -/
theorem AgreesWith.after {m : ConnectionMachine} {last : Option ConnectionChange}
    (agrees : m.AgreesWith last) (settled : ConnectionChange.Settled last) (run : List Occasion) :
    ConnectionChange.Lawful last (m.emitted run) ∧
      (m.after run).AgreesWith ((m.emitted run).getLast?.or last) := by
  induction run generalizing m last with
  | nil => exact ⟨trivial, agrees⟩
  | cons o run ih =>
    have agreesNext := agrees.next o
    rw [emitted, after_cons]
    cases h : m.recordOf? o with
    | none =>
      rw [h, Option.none_or] at agreesNext
      exact ih agreesNext settled
    | some change =>
      rw [h, Option.some_or] at agreesNext
      have follows := agrees.mayFollow settled h
      obtain ⟨lawful, agreesLast⟩ := ih agreesNext follows.settled
      refine ⟨⟨follows, lawful⟩, ?_⟩
      rw [Option.toList_some, List.singleton_append, List.getLast?_cons, Option.some_or]
      -- the last of the later records is the last of all, and `change` is if there are none
      cases h : ((m.next o).emitted run).getLast? <;> rw [h] at agreesLast <;> exact agreesLast

/-- The reports of lawful records are accepted one after the other, each as its record. -/
theorem emitted_reports {m : ConnectionMachine} {last : Option ConnectionChange}
    (agrees : m.AgreesWith last) (settled : ConnectionChange.Settled last) (live : Liveness)
    {records : List ConnectionChange} (lawful : ConnectionChange.Lawful last records) :
    m.emitted (records.map fun change => .report live change.report) = records := by
  induction records generalizing m last with
  | nil => rfl
  | cons change records ih =>
    obtain ⟨follows, lawful⟩ := lawful
    have accepted := (changeOf_eq_some_iff agrees settled change.report change).2 ⟨follows, rfl⟩
    have agreesNext := agrees.next (.report live change.report)
    rw [recordOf?, accepted, Option.some_or] at agreesNext
    have rest := ih agreesNext follows.settled lawful
    rw [List.map_cons, emitted, recordOf?, accepted, rest, Option.toList_some,
      List.singleton_append]

/-- A fresh machine emits lawful records and always stands where the last of them says; a report is
dropped and changes nothing, or it emits one record, which every live consumer is sent; and every
lawful sequence of records is emitted on some reports. -/
theorem emitted_fresh_lawful_and_complete :
    (∀ run, ConnectionChange.Lawful none (fresh.emitted run) ∧
      (fresh.after run).AgreesWith (fresh.emitted run).getLast?) ∧
    (∀ run live r,
      fresh.emitted (run ++ [.report live r]) = fresh.emitted run ∧
          (fresh.after run).report live r = (fresh.after run, []) ∨
        ∃ change, fresh.emitted (run ++ [.report live r]) = fresh.emitted run ++ [change] ∧
          ((fresh.after run).report live r).2 =
            (fresh.after run).notifier.registry.broadcast live change none) ∧
    (∀ records, ConnectionChange.Lawful none records ↔
      ∃ reports : List ConnectionReport, ∀ live, fresh.emitted (reports.map (.report live)) =
        records) := by
  have sound := fun run => agreesWith_fresh.after ConnectionChange.settled_none run
  refine ⟨fun run => ?_, fun run live r => ?_, fun records => ⟨fun lawful => ?_, ?_⟩⟩
  · simpa using sound run
  · rw [emitted_append, emitted, emitted, recordOf?, List.append_nil]
    rcases (fresh.after run).report_eq live r with ⟨dropped, same⟩ | ⟨change, accepted, moved⟩
    · refine Or.inl ⟨?_, same⟩
      rw [dropped, Option.toList_none, List.append_nil]
    · refine Or.inr ⟨change, ?_, ?_⟩
      · rw [accepted, Option.toList_some]
      · rw [moved]
  · refine ⟨records.map ConnectionChange.report, fun live => ?_⟩
    rw [List.map_map]
    exact emitted_reports agreesWith_fresh ConnectionChange.settled_none live lawful
  · rintro ⟨reports, produced⟩
    rw [← produced fun _ => true]
    exact (sound _).1

end ConnectionMachine

end AccessStatus
