import AccessStatus.Proofs.Executor.Turns

/-!
# The record of a message loop

A record has in one order what callers do and what the worker does. Which jobs were accepted, which
were started, who asked to wait and who was told are read off it. At every point the jobs accepted
are those started, followed by those that wait, and the callers that asked are those told, followed
by those that wait (`Agrees`): every turn puts as much on one side as on the other (`Balance`).
-/

namespace AccessStatus

variable {α : Type}

namespace Event

/-- The job that is accepted with an event, and its number. -/
def accepted? : Event α → Option (Nat × Job α)
  | .offered job number => number.map (·, job)
  | .did (.submitted job number) => number.map (·, job)
  | _ => none

/-- The job that is started with an event, and its number. -/
def started? : Event α → Option (Nat × Job α)
  | .started number job => some (number, job)
  | _ => none

/-- The caller that begins to wait with an event. -/
def asked? : Event α → Option Nat
  | .asked caller => caller
  | _ => none

/-- The caller that is told with an event that it need not wait any longer. -/
def answered? : Event α → Option Nat
  | .answered caller => some caller
  | _ => none

/-- Whether the loop is shut down with an event, from whichever side. -/
def isShutdown : Event α → Bool
  | .shutDown => true
  | .did .shutDown => true
  | _ => false

/-- Whether an event belongs to a job: its beginning, or something it does. -/
def isWork : Event α → Bool
  | .started _ _ => true
  | .did _ => true
  | _ => false

end Event

/-- The jobs accepted in a record, from callers and from jobs, in the order of acceptance. -/
def acceptedIn (record : List (Event α)) : List (Nat × Job α) := record.filterMap Event.accepted?

/-- The jobs started in a record, in the order of their starts. -/
def startedIn (record : List (Event α)) : List (Nat × Job α) := record.filterMap Event.started?

/-- The callers that began to wait in a record, in this order. -/
def askedIn (record : List (Event α)) : List Nat := record.filterMap Event.asked?

/-- The callers that were told in a record, in this order. -/
def answeredIn (record : List (Event α)) : List Nat := record.filterMap Event.answered?

/-- Whether a record has a shutdown, from whichever side. -/
def shutIn (record : List (Event α)) : Bool := record.any Event.isShutdown

/-- What the jobs of a record did. -/
def workIn (record : List (Event α)) : List (Event α) := record.filter Event.isWork

/-! ## Records that grow by one event -/

/-- What one more thing adds to what is read off a list. -/
theorem filterMap_concat {β γ : Type} (f : β → Option γ) (xs : List β) (x : β) :
    (xs ++ [x]).filterMap f = xs.filterMap f ++ (f x).toList := by
  rw [List.filterMap_append]
  cases found : f x with
  | none => rw [List.filterMap_cons_none found]; rfl
  | some y => rw [List.filterMap_cons_some found]; rfl

section Concat

variable (record : List (Event α)) (event : Event α)

/-- The jobs accepted with one more event. -/
theorem acceptedIn_concat :
    acceptedIn (record ++ [event]) = acceptedIn record ++ event.accepted?.toList :=
  filterMap_concat Event.accepted? record event

/-- The jobs started with one more event. -/
theorem startedIn_concat :
    startedIn (record ++ [event]) = startedIn record ++ event.started?.toList :=
  filterMap_concat Event.started? record event

/-- The callers that wait with one more event. -/
theorem askedIn_concat : askedIn (record ++ [event]) = askedIn record ++ event.asked?.toList :=
  filterMap_concat Event.asked? record event

/-- The callers told with one more event. -/
theorem answeredIn_concat :
    answeredIn (record ++ [event]) = answeredIn record ++ event.answered?.toList :=
  filterMap_concat Event.answered? record event

/-- A record with one more event has a shutdown if it had one or this is one. -/
theorem shutIn_concat : shutIn (record ++ [event]) = (shutIn record || event.isShutdown) := by
  simp [shutIn]

/-- What jobs did with one more event. -/
theorem workIn_concat :
    workIn (record ++ [event]) = workIn record ++ if event.isWork then [event] else [] := by
  rw [workIn, List.filter_append, ← workIn]
  cases work : event.isWork <;> simp [work]

end Concat

namespace MessageLoop

/-- The callers that wait. -/
def waiting (l : MessageLoop α) : List Nat := l.commands.filterMap Command.caller?

/-! ## What a turn adds to both sides -/

/-- What an event says of a turn is what becomes of the numbers and of those that wait. -/
structure Balance (l : MessageLoop α) (event : Event α) (next : MessageLoop α) : Prop where
  name : next.name = l.name
  jobs : l.queue ++ event.accepted?.toList = event.started?.toList ++ next.queue
  callers : l.waiting ++ event.asked?.toList = event.answered?.toList ++ next.waiting
  numbers : List.range next.accepted =
    List.range l.accepted ++ event.accepted?.toList.map Prod.fst
  callerNumbers : List.range next.callers = List.range l.callers ++ event.asked?.toList
  shut : next.isShutdown = (l.isShutdown || event.isShutdown)

/-- Nothing is accepted, started, asked or answered with an event. -/
structure Quiet (event : Event α) : Prop where
  accepted : event.accepted? = none
  started : event.started? = none
  asked : event.asked? = none
  answered : event.answered? = none

/-- Such an event leaves everything waiting, whatever is left of the job under way. -/
theorem balance_of_quiet (l : MessageLoop α) {event : Event α} (quiet : Quiet event) (left : Job α)
    (shut : l.isShutdown = (l.isShutdown || event.isShutdown)) :
    Balance l event { l with left := left } := by
  constructor
  · rfl
  · rw [quiet.accepted, quiet.started]
    exact List.append_nil _
  · rw [quiet.asked, quiet.answered]
    exact List.append_nil _
  · rw [quiet.accepted]
    exact (List.append_nil _).symm
  · rw [quiet.asked]
    exact (List.append_nil _).symm
  · exact shut

/-- A job that is sent waits last and has the next number, unless the channel is closed. -/
theorem balance_send (l : MessageLoop α) (job : Job α) :
    Balance l (.offered job (l.send job).2) (l.send job).1 := by
  unfold send
  split
  · exact l.balance_of_quiet ⟨rfl, rfl, rfl, rfl⟩ l.left (Bool.or_false _).symm
  · have jobs := filterMap_concat Command.job? l.commands (.run l.accepted job)
    have callers := filterMap_concat Command.caller? l.commands (.run l.accepted job)
    exact ⟨rfl, jobs.symm, callers.symm, List.range_succ, (List.append_nil _).symm,
      (Bool.or_false _).symm⟩

/-- A caller that asks waits last and has the next number, unless the channel is closed. -/
theorem balance_await (l : MessageLoop α) : Balance l (.asked l.await.2) l.await.1 := by
  unfold await
  split
  · exact l.balance_of_quiet ⟨rfl, rfl, rfl, rfl⟩ l.left (Bool.or_false _).symm
  · have jobs := filterMap_concat Command.job? l.commands (.flush l.callers)
    have callers := filterMap_concat Command.caller? l.commands (.flush l.callers)
    exact ⟨rfl, jobs.symm, callers.symm, (List.append_nil _).symm, List.range_succ,
      (Bool.or_false _).symm⟩

/-- A shutdown leaves jobs and callers waiting. -/
theorem balance_shutdown (l : MessageLoop α) : Balance l .shutDown l.shutdown := by
  unfold shutdown
  split
  · rename_i shut
    exact l.balance_of_quiet ⟨rfl, rfl, rfl, rfl⟩ l.left (shut.trans (Bool.or_true _).symm)
  · have jobs := filterMap_concat Command.job? l.commands .shutdown
    have callers := filterMap_concat Command.caller? l.commands .shutdown
    exact ⟨rfl, jobs.symm, callers.symm, (List.append_nil _).symm, (List.append_nil _).symm,
      (Bool.or_true _).symm⟩

/-- A command that is received was the first of those that wait. -/
theorem waiting_of_received {l : MessageLoop α} {command : Command α} {rest : List (Command α)}
    (received : l.commands = command :: rest) :
    l.queue = command.job?.toList ++ rest.filterMap Command.job? ∧
      l.waiting = command.caller?.toList ++ rest.filterMap Command.caller? := by
  rw [queue, waiting, received]
  cases command <;> exact ⟨rfl, rfl⟩

/-- What a job does by itself is quiet, and no shutdown. -/
theorem quiet_of_alone {name : String} {isShutdown : Bool} {job rest : Job α} {deed : Deed α}
    (under : job.alone? name isShutdown = some (deed, rest)) :
    Quiet (Event.did deed) ∧ (Event.did deed).isShutdown = false := by
  cases job <;> cases under <;> exact ⟨⟨rfl, rfl, rfl, rfl⟩, rfl⟩

/-- Each turn puts as much on one side as on the other. -/
theorem balance_of_turn {l next : MessageLoop α} {event : Event α} (turn : Turn l event next) :
    Balance l event next := by
  cases turn with
  | offered job => exact l.balance_send job
  | asked => exact l.balance_await
  | shutDown => exact l.balance_shutdown
  | started _ _ received | answered _ _ received | stopped _ _ received =>
    obtain ⟨jobs, callers⟩ := waiting_of_received received
    exact ⟨rfl, (List.append_nil _).trans jobs, (List.append_nil _).trans callers,
      (List.append_nil _).symm, (List.append_nil _).symm, (Bool.or_false _).symm⟩
  | @submitted job =>
    obtain ⟨name, jobs, callers, numbers, callerNumbers, shut⟩ := l.balance_send job
    exact ⟨name, jobs, callers, numbers, callerNumbers, shut⟩
  | closed =>
    obtain ⟨name, jobs, callers, numbers, callerNumbers, shut⟩ := l.balance_shutdown
    exact ⟨name, jobs, callers, numbers, callerNumbers, shut⟩
  | @alone deed rest under =>
    obtain ⟨quiet, running⟩ := quiet_of_alone under
    refine l.balance_of_quiet quiet rest ?_
    rw [running, Bool.or_false]

/-! ## What a record says of the loop -/

/-- A loop with this name is as its record says: as many jobs and callers were accepted, those wait
that were not started or told, and it is shut down if it was. -/
structure Agrees (name : String) (l : MessageLoop α) (record : List (Event α)) : Prop where
  named : l.name = name
  numbered : (acceptedIn record).map Prod.fst = List.range l.accepted
  backlog : acceptedIn record = startedIn record ++ l.queue
  asked : askedIn record = List.range l.callers
  callers : askedIn record = answeredIn record ++ l.waiting
  shut : l.isShutdown = shutIn record

/-- In the beginning nothing has happened. -/
theorem agrees_spawn (name : String) : Agrees name (spawn name : MessageLoop α) [] :=
  ⟨rfl, rfl, rfl, rfl, rfl, rfl⟩

section Agrees

variable {name : String} {l next : MessageLoop α} {record : List (Event α)} {event : Event α}

/-- Each turn is recorded as it is. -/
theorem Agrees.turn (agrees : Agrees name l record) (turn : Turn l event next) :
    Agrees name next (record ++ [event]) := by
  have balance := balance_of_turn turn
  constructor
  · rw [balance.name, agrees.named]
  · rw [acceptedIn_concat, List.map_append, agrees.numbered, balance.numbers]
  · rw [acceptedIn_concat, startedIn_concat, agrees.backlog, List.append_assoc, balance.jobs,
      List.append_assoc]
  · rw [askedIn_concat, agrees.asked, balance.callerNumbers]
  · rw [askedIn_concat, answeredIn_concat, agrees.callers, List.append_assoc, balance.callers,
      List.append_assoc]
  · rw [shutIn_concat, ← agrees.shut, balance.shut]

/-- The next job gets the number of jobs accepted so far. -/
theorem Agrees.accepted_eq (agrees : Agrees name l record) :
    l.accepted = (acceptedIn record).length := by
  have lengths := congrArg List.length agrees.numbered
  rw [List.length_map, List.length_range] at lengths
  exact lengths.symm

/-- The next caller gets the number of callers that asked so far. -/
theorem Agrees.callers_eq (agrees : Agrees name l record) :
    l.callers = (askedIn record).length := by
  rw [agrees.asked, List.length_range]

/-- A job is refused if there was a shutdown, and gets the next number if there was none. -/
theorem Agrees.send (agrees : Agrees name l record) (job : Job α) :
    (l.send job).2 = if shutIn record then none else some (acceptedIn record).length := by
  rw [← agrees.shut, ← agrees.accepted_eq]
  unfold MessageLoop.send
  split <;> rfl

/-- So is a caller that asks. -/
theorem Agrees.await (agrees : Agrees name l record) :
    l.await.2 = if shutIn record then none else some (askedIn record).length := by
  rw [← agrees.shut, ← agrees.callers_eq]
  unfold MessageLoop.await
  split <;> rfl

end Agrees

end MessageLoop

end AccessStatus
