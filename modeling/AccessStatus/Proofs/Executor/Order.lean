import AccessStatus.Proofs.History
import AccessStatus.Proofs.Executor.Record

/-!
# Jobs run once each, in the order of acceptance

Callers and worker act in any order (`MessageLoop.Act`). At every point the jobs accepted so far are
those started so far, followed by those that wait, and what the jobs did falls into blocks, one for
each job started (`Blocks`), whatever a job queues, and wherever it shuts the loop down or fails.
Each event fits what was recorded before it (`Event.Fits`): who is refused, which job comes next,
and what has run when a caller need not wait any longer. What each turn keeps is collected in
`Ordered`.

A script of one caller comes to a list of such acts (`actsOf`), so it runs in order too, and its
answers are those that fit the record (`Op.answerAfter`). The main statement is `runs_in_order`.
-/

namespace AccessStatus

variable {α : Type}

/-- What a job does next, if its worker has this name, and what is left of it then. Only a failure
cuts a job short, and waiting always succeeds; what is open is which numbers its jobs get and
whether it sees a shutdown. -/
inductive Job.Next (name : String) : Job α → Deed α → Job α → Prop where
  | log (entry : α) (rest : Job α) : Next name (.log entry rest) (.logged entry) rest
  | execute (job rest : Job α) (number : Option Nat) :
    Next name (.execute job rest) (.submitted job number) rest
  | flush (rest : Job α) : Next name (.flush rest) .flushed rest
  | shutdown (rest : Job α) : Next name (.shutdown rest) .shutDown rest
  | checkShutdown (rest : Job α) (yes : Bool) :
    Next name (.checkShutdown rest) (.sawShutdown yes) rest
  | checkName (rest : Job α) : Next name (.checkName rest) (.sawName name) rest
  | crash (lost : Job α) : Next name (.crash lost) .crashed .finish

/-- What a job does from its beginning on, and what is left of it then. -/
inductive Job.Does (name : String) (job : Job α) : List (Deed α) → Job α → Prop where
  | nil : Does name job [] job
  | concat {deeds : List (Deed α)} {deed : Deed α} {left rest : Job α}
    (earlier : Does name job deeds left) (next : left.Next name deed rest) :
    Does name job (deeds ++ [deed]) rest

/-- The work on these jobs, one after the other: each is started when nothing is left of the one
before, and does all that it does before the next one starts. What is left of the last one is the
job under way. -/
inductive Blocks (name : String) : List (Nat × Job α) → List (Event α) → Job α → Prop where
  | nil : Blocks name [] [] .finish
  | concat {jobs work number job deeds left} (earlier : Blocks name jobs work .finish)
    (does : Job.Does name job deeds left) :
    Blocks name (jobs ++ [(number, job)]) (work ++ .started number job :: deeds.map .did) left

/-- In a record all jobs that were accepted have run to their end. -/
structure AllRan (name : String) (record : List (Event α)) : Prop where
  started : startedIn record = acceptedIn record
  done : Blocks name (startedIn record) (workIn record) .finish

/-- Whether an event fits what was recorded before it. A job is refused exactly after a shutdown and
else gets the next number, and so does a caller that asks. The job that has waited longest is
started. A shutdown is seen exactly if there was one. When a caller is told that it need not wait
any longer, the jobs that have run are those accepted before it asked. The worker leaves after a
shutdown, when all accepted jobs have run. -/
def Event.Fits (name : String) (before : List (Event α)) : Event α → Prop
  | .offered _ number =>
    number = if shutIn before then none else some (acceptedIn before).length
  | .did (.submitted _ number) =>
    number = if shutIn before then none else some (acceptedIn before).length
  | .asked caller => caller = if shutIn before then none else some (askedIn before).length
  | .started number job =>
    ∃ waiting, acceptedIn before = startedIn before ++ (number, job) :: waiting
  | .did (.sawShutdown yes) => yes = shutIn before
  | .answered caller =>
    ∃ earlier later, before = earlier ++ .asked (some caller) :: later ∧
      startedIn before = acceptedIn earlier ∧
      Blocks name (startedIn before) (workIn before) .finish
  | .stopped => shutIn before = true ∧ AllRan name before
  | _ => True

/-- Every event of a record fits what was recorded before it. -/
def Lawful (name : String) (record : List (Event α)) : Prop :=
  ∀ before event later, record = before ++ event :: later → Event.Fits name before event

/-- A record stays lawful with one more event that fits. -/
theorem Lawful.concat {name : String} {record : List (Event α)} {event : Event α}
    (lawful : Lawful name record) (fits : event.Fits name record) :
    Lawful name (record ++ [event]) := by
  intro before first later split
  rcases concat_eq_split split with ⟨rfl, rfl, -⟩ | ⟨rest, -, rfl⟩
  · exact fits
  · exact lawful before first rest rfl

/-- After a shutdown no job is accepted, and no caller. -/
theorem Event.Fits.refused {name : String} {before : List (Event α)} {event : Event α}
    (fits : event.Fits name before) (shut : shutIn before = true) :
    event.accepted? = none ∧ event.asked? = none := by
  have none (job : Job α) {number : Option Nat}
      (given : number = if shutIn before then none else some (acceptedIn before).length) :
      number.map (·, job) = none := by
    rw [given, if_pos shut]
    rfl
  cases event with
  | offered job number => exact ⟨none job fits, rfl⟩
  | asked caller => exact ⟨rfl, fits.trans (if_pos shut)⟩
  | did deed =>
    cases deed with
    | submitted job number => exact ⟨none job fits, rfl⟩
    | _ => exact ⟨rfl, rfl⟩
  | _ => exact ⟨rfl, rfl⟩

/-- So nothing is accepted in what comes after one. -/
theorem Lawful.refused {name : String} {before later : List (Event α)}
    (lawful : Lawful name (before ++ later)) (shut : shutIn before = true) :
    acceptedIn later = [] ∧ askedIn later = [] := by
  induction later using List.reverseRecOn with
  | nil => exact ⟨rfl, rfl⟩
  | append_singleton later event ih =>
    rw [← List.append_assoc] at lawful
    have still : shutIn (before ++ later) = true := by
      rw [shutIn, List.any_append, Bool.or_eq_true]
      exact .inl shut
    have earlier : Lawful name (before ++ later) := by
      rintro first ev rest split
      refine lawful first ev (rest ++ [event]) ?_
      rw [split, List.append_assoc]
      rfl
    obtain ⟨noJob, noCaller⟩ := (lawful (before ++ later) event [] rfl).refused still
    obtain ⟨jobs, callers⟩ := ih earlier
    rw [acceptedIn_concat, askedIn_concat, jobs, callers, noJob, noCaller]
    exact ⟨rfl, rfl⟩

/-- The job under way does one thing more. -/
theorem Blocks.did {name : String} {jobs : List (Nat × Job α)} {work : List (Event α)}
    {left rest : Job α} {deed : Deed α} (blocks : Blocks name jobs work left)
    (next : left.Next name deed rest) : Blocks name jobs (work ++ [.did deed]) rest := by
  cases blocks with
  | nil => cases next
  | @concat jobs work number job deeds left earlier does =>
    have later : Blocks name (jobs ++ [(number, job)])
        (work ++ .started number job :: (deeds ++ [deed]).map .did) rest :=
      earlier.concat (does.concat next)
    rw [List.append_assoc, List.cons_append]
    rw [List.map_append] at later
    exact later

namespace MessageLoop

/-! ## What a turn does to the job under way and to the channel -/

variable {name : String} {l next : MessageLoop α} {record : List (Event α)} {event : Event α}

/-- What a job does by itself is what such a job does next. -/
theorem next_of_alone {name : String} {isShutdown : Bool} {job rest : Job α} {deed : Deed α}
    (under : job.alone? name isShutdown = some (deed, rest)) : job.Next name deed rest := by
  cases job with
  | log => cases under; exact .log _ _
  | flush => cases under; exact .flush _
  | checkShutdown => cases under; exact .checkShutdown _ _
  | checkName => cases under; exact .checkName _
  | crash => cases under; exact .crash _
  | finish | execute | shutdown => cases under

/-- A turn is no work on a job, or starts one when nothing is left of the one before, or goes on
with the job under way. -/
theorem work_of_turn (turn : Turn l event next) :
    (event.isWork = false ∧ event.started? = none ∧ next.left = l.left) ∨
      (∃ number job, event = .started number job ∧ l.left = .finish ∧ next.left = job) ∨
        ∃ deed, event = .did deed ∧ l.left.Next l.name deed next.left := by
  cases turn with
  | offered job => exact .inl ⟨rfl, rfl, l.left_send job⟩
  | asked => exact .inl ⟨rfl, rfl, l.left_await⟩
  | shutDown => exact .inl ⟨rfl, rfl, l.left_shutdown⟩
  | started idle => exact .inr (.inl ⟨_, _, rfl, idle, rfl⟩)
  | answered | stopped => exact .inl ⟨rfl, rfl, rfl⟩
  | submitted under => exact .inr (.inr ⟨_, rfl, under ▸ .execute _ _ _⟩)
  | closed under => exact .inr (.inr ⟨_, rfl, under ▸ .shutdown _⟩)
  | alone under => exact .inr (.inr ⟨_, rfl, next_of_alone under⟩)

/-- A turn leaves the channel, or sends one command, or receives the first one. Only receiving a job
starts it, and only a caller that asks is sent. -/
theorem commands_of_turn (turn : Turn l event next) :
    (event.started? = none ∧ next.commands = l.commands) ∨
      (∃ command, event.started? = none ∧ next.commands = l.commands ++ [command] ∧
        ∀ caller, command = .flush caller → event = .asked (some caller)) ∨
        ∃ command, event.started? = command.job? ∧ l.commands = command :: next.commands := by
  cases turn with
  | offered job | submitted =>
    unfold MessageLoop.send
    split
    · exact .inl ⟨rfl, rfl⟩
    · exact .inr (.inl ⟨_, rfl, rfl, nofun⟩)
  | asked =>
    unfold MessageLoop.await
    split
    · exact .inl ⟨rfl, rfl⟩
    · refine .inr (.inl ⟨_, rfl, rfl, fun caller same => ?_⟩)
      cases same
      rfl
  | shutDown | closed =>
    unfold MessageLoop.shutdown
    split
    · exact .inl ⟨rfl, rfl⟩
    · exact .inr (.inl ⟨_, rfl, rfl, nofun⟩)
  | started _ _ received | answered _ _ received | stopped _ _ received =>
    exact .inr (.inr ⟨_, rfl, received⟩)
  | alone => exact .inl ⟨rfl, rfl⟩

/-- For each caller that waits, the jobs accepted before it asked are those started and those that
wait ahead of it. -/
def Waits (l : MessageLoop α) (record : List (Event α)) : Prop :=
  ∀ ahead caller behind, l.commands = ahead ++ .flush caller :: behind →
    ∃ earlier later, record = earlier ++ .asked (some caller) :: later ∧
      acceptedIn earlier = startedIn record ++ ahead.filterMap Command.job?

/-- What every turn of a loop with this name keeps. -/
structure Ordered (name : String) (l : MessageLoop α) (record : List (Event α)) : Prop where
  agrees : Agrees name l record
  sound : l.Sound
  blocks : Blocks name (startedIn record) (workIn record) l.left
  waits : Waits l record
  lawful : Lawful name record

/-- In the beginning nothing waits. -/
theorem ordered_spawn (name : String) : Ordered name (spawn name : MessageLoop α) [] where
  agrees := agrees_spawn name
  sound := sound_spawn name
  blocks := .nil
  waits ahead caller behind split := by cases ahead <;> cases split
  lawful before event later split := by cases before <;> cases split

/-- Each turn goes on with the last block, or begins one behind a block that is complete. -/
theorem Ordered.blocks_turn (ordered : Ordered name l record) (turn : Turn l event next) :
    Blocks name (startedIn (record ++ [event])) (workIn (record ++ [event])) next.left := by
  have blocks := ordered.blocks
  rw [startedIn_concat, workIn_concat]
  rcases work_of_turn turn with ⟨idle, unstarted, same⟩ | ⟨number, job, rfl, idle, rfl⟩ |
    ⟨deed, rfl, does⟩
  · rw [idle, unstarted, same, Option.toList_none, List.append_nil, if_neg nofun, List.append_nil]
    exact blocks
  · rw [idle] at blocks
    exact blocks.concat .nil
  · rw [ordered.agrees.named] at does
    have unstarted : startedIn record ++ (Event.did deed).started?.toList = startedIn record :=
      List.append_nil _
    rw [unstarted]
    exact blocks.did does

/-- A caller that asks has all jobs accepted so far before it, and each that is started is one ahead
of the others less. -/
theorem Ordered.waits_turn (ordered : Ordered name l record) (turn : Turn l event next) :
    Waits next (record ++ [event]) := by
  intro ahead caller behind split
  rw [startedIn_concat]
  rcases commands_of_turn turn with ⟨unstarted, same⟩ | ⟨command, unstarted, sent, asked⟩ |
    ⟨command, started, received⟩
  · obtain ⟨earlier, later, rfl, jobs⟩ := ordered.waits ahead caller behind (same ▸ split)
    refine ⟨earlier, later ++ [event], List.append_assoc .., ?_⟩
    rw [jobs, unstarted, Option.toList_none, List.append_nil]
  · rw [sent] at split
    rw [unstarted, Option.toList_none, List.append_nil]
    rcases concat_eq_split split with ⟨rfl, rfl, -⟩ | ⟨rest, -, before⟩
    · exact ⟨record, [], by rw [asked caller rfl], ordered.agrees.backlog⟩
    · obtain ⟨earlier, later, rfl, jobs⟩ := ordered.waits ahead caller rest before
      exact ⟨earlier, later ++ [event], List.append_assoc .., jobs⟩
  · obtain ⟨earlier, later, rfl, jobs⟩ :=
      ordered.waits (command :: ahead) caller behind (received.trans (congrArg _ split))
    refine ⟨earlier, later ++ [event], List.append_assoc .., ?_⟩
    rw [jobs, started, List.append_assoc]
    cases command <;> rfl

/-- What happens in a turn fits what was recorded before. -/
theorem Ordered.fits (ordered : Ordered name l record) (turn : Turn l event next) :
    event.Fits name record := by
  obtain ⟨agrees, sound, blocks, waits, -⟩ := ordered
  cases turn with
  | offered job => exact agrees.send job
  | @submitted job => exact agrees.send job
  | asked => exact agrees.await
  | started _ _ received =>
    obtain ⟨jobs, -⟩ := waiting_of_received received
    exact ⟨_, agrees.backlog.trans (congrArg _ jobs)⟩
  | @answered caller rest idle _ received =>
    -- nothing waits ahead of this caller, so what was accepted before it has been started
    obtain ⟨earlier, later, split, jobs⟩ := waits [] caller rest received
    refine ⟨earlier, later, split, ?_, idle ▸ blocks⟩
    rw [jobs]
    exact (List.append_nil _).symm
  | @stopped rest idle _ received =>
    obtain ⟨shut, rfl, -⟩ := sound.stop idle received
    refine ⟨agrees.shut.symm.trans shut, ?_, idle ▸ blocks⟩
    rw [agrees.backlog, queue, received]
    exact (List.append_nil _).symm
  | shutDown | closed => exact trivial
  | @alone deed rest under =>
    cases left : l.left with
    | checkShutdown =>
      rw [left] at under
      cases under
      exact agrees.shut
    | _ =>
      rw [left] at under
      cases under <;> exact trivial

/-- So all of it is kept. -/
theorem Ordered.turn (ordered : Ordered name l record) (turn : Turn l event next) :
    Ordered name next (record ++ [event]) where
  agrees := ordered.agrees.turn turn
  sound := ordered.sound.turn turn
  blocks := ordered.blocks_turn turn
  waits := ordered.waits_turn turn
  lawful := ordered.lawful.concat (ordered.fits turn)

/-- And so it is kept by every history. -/
theorem Ordered.after (ordered : Ordered name l record) (acts : List (Act α)) :
    Ordered name (l.after acts) (record ++ l.record acts) :=
  turns_preserve ordered (fun ordered turn => ordered.turn turn) acts

/-! ## What can be relied on -/

/-- Nothing is left to do: all accepted jobs have run, all callers were told, and the worker has
left the loop if it was shut down, and else waits for more. -/
structure Finished (name : String) (l : MessageLoop α) (record : List (Event α)) : Prop where
  allRan : AllRan name record
  answered : answeredIn record = askedIn record
  left : l.stopped = l.isShutdown

/-- What can be relied on in a loop with this name, whatever callers and worker did so far. -/
structure RunsInOrder (name : String) (l : MessageLoop α) (record : List (Event α)) : Prop where
  /-- Jobs are numbered in the order of acceptance, those from callers and those from jobs in one
  order. -/
  numbered : (acceptedIn record).map Prod.fst = List.range (acceptedIn record).length
  /-- The jobs accepted are those started, once each and in the same order, and those that wait. -/
  backlog : acceptedIn record = startedIn record ++ l.queue
  /-- The callers that asked are those told, in the same order, and those that wait. -/
  callers : askedIn record = answeredIn record ++ l.waiting
  /-- Each started job does all that it does before the next one is started. -/
  blocks : Blocks name (startedIn record) (workIn record) l.left
  /-- Each event fits what was before it. -/
  lawful : Lawful name record
  /-- Nothing is accepted after a shutdown. -/
  refused : ∀ before later, record = before ++ later → shutIn before = true →
    acceptedIn later = [] ∧ askedIn later = []
  /-- The loop is shut down exactly if there was a shutdown. -/
  shut : l.isShutdown = shutIn record
  /-- Then it stays so. -/
  forGood : ∀ more, l.isShutdown = true → (l.after more).isShutdown = true
  /-- When the worker can do nothing more, nothing is left to do. -/
  idle : l.Halted → Finished name l record
  /-- This is so when it has done all that it has to do. -/
  drained : (l.after l.untilIdle).Halted ∧
    Finished name (l.after l.untilIdle) (record ++ l.record l.untilIdle)

/-- When the worker can do nothing more, nothing is left to do. -/
theorem Ordered.finished (ordered : Ordered name l record) (halted : l.Halted) :
    Finished name l record := by
  obtain ⟨idle, received, left⟩ := ordered.sound.of_halted halted
  have agrees := ordered.agrees
  refine ⟨⟨?_, idle ▸ ordered.blocks⟩, ?_, left⟩
  · rw [agrees.backlog, queue, received]
    exact (List.append_nil _).symm
  · rw [agrees.callers, waiting, received]
    exact (List.append_nil _).symm

/-- A closed channel is never opened again. -/
theorem Ordered.forGood (ordered : Ordered name l record) (more : List (Act α))
    (shut : l.isShutdown = true) : (l.after more).isShutdown = true := by
  rw [ordered.agrees.shut] at shut
  rw [(ordered.after more).agrees.shut, shutIn, List.any_append, Bool.or_eq_true]
  exact .inl shut

/-- All of it follows from what every turn keeps. -/
theorem Ordered.runsInOrder (ordered : Ordered name l record) : RunsInOrder name l record where
  numbered := by rw [ordered.agrees.numbered, ordered.agrees.accepted_eq]
  backlog := ordered.agrees.backlog
  callers := ordered.agrees.callers
  blocks := ordered.blocks
  lawful := ordered.lawful
  refused before later split shut := by
    have lawful := ordered.lawful
    rw [split] at lawful
    exact lawful.refused shut
  shut := ordered.agrees.shut
  forGood := ordered.forGood
  idle := ordered.finished
  drained := ⟨l.halted_untilIdle, (ordered.after l.untilIdle).finished l.halted_untilIdle⟩

end MessageLoop

namespace Executor

/-! ## Scripts -/

/-- The executor after a script. -/
def after (e : Executor α) (script : List (Op α)) : Executor α :=
  script.foldl (fun e op => (e.step op).executor) e

/-- The results of the operations of a script. -/
def outcomes (e : Executor α) : List (Op α) → List (Outcome α)
  | [] => []
  | op :: script => e.step op :: (e.step op).executor.outcomes script

/-- The acts that a script comes to. -/
def actsOf (e : Executor α) : List (Op α) → List (MessageLoop.Act α)
  | [] => []
  | op :: script => e.acts op ++ (e.step op).executor.actsOf script

/-- What happens in a script from the beginning on. -/
def recordOf (name : String) (script : List (Op α)) : List (Event α) :=
  (MessageLoop.spawn name).record ((spawn name).actsOf script)

/-- What is to be answered to an operation after a script: a job is accepted with the next number
unless the executor is shut down. A caller that waits or holds the worker up does so behind all that
waits, so it is refused also if a waiting job shuts the executor down. -/
def Op.answerAfter (name : String) (script : List (Op α)) : Op α → Answer
  | .execute _ =>
    if shutIn (recordOf name script) then .refused (.closed name)
    else .accepted (acceptedIn (recordOf name script)).length
  | .flush =>
    if shutIn (recordOf name (script ++ [.release])) then .refused (.closed name) else .flushed
  | .hold =>
    if shutIn (recordOf name (script ++ [.release])) then .refused (.closed name) else .held
  | .shutdown => .done
  | .release => .done

variable {name : String} {e : Executor α} {record : List (Event α)}

/-- An executor runs the loop that it is made of. -/
theorem toMessageLoop_after (e : Executor α) (script : List (Op α)) :
    (e.after script).toMessageLoop = e.toMessageLoop.after (e.actsOf script) := by
  induction script generalizing e with
  | nil => rfl
  | cons op script ih =>
    rw [actsOf, MessageLoop.after_append]
    exact ih (e.step op).executor

/-- It shows what its worker does. -/
theorem seen_outcomes (e : Executor α) (script : List (Op α)) :
    (e.toMessageLoop.record (e.actsOf script)).filterMap Entry.of? =
      (e.outcomes script).flatMap Outcome.seen := by
  induction script generalizing e with
  | nil => rfl
  | cons op script ih =>
    rw [actsOf, MessageLoop.record_append, List.filterMap_append, outcomes, List.flatMap_cons]
    exact congrArg _ (ih (e.step op).executor)

/-- The acts of a script with one more operation. -/
theorem actsOf_concat (e : Executor α) (script : List (Op α)) (op : Op α) :
    e.actsOf (script ++ [op]) = e.actsOf script ++ (e.after script).acts op := by
  induction script generalizing e with
  | nil => exact List.append_nil _
  | cons first script ih =>
    rw [List.cons_append, actsOf, actsOf, ih, List.append_assoc]
    rfl

/-- What happens in a script with one more operation. -/
theorem recordOf_concat (name : String) (script : List (Op α)) (op : Op α) :
    recordOf name (script ++ [op]) =
      recordOf name script ++ ((spawn name).after script).events op := by
  rw [recordOf, actsOf_concat, MessageLoop.record_append, events, toMessageLoop_after]
  rfl

/-- Between the operations of a script no caller waits, and unless the worker is held up it can do
nothing more. -/
structure Settled (name : String) (e : Executor α) (record : List (Event α)) : Prop where
  ordered : MessageLoop.Ordered name e.toMessageLoop record
  unasked : e.toMessageLoop.waiting = []
  idle : e.held = false → e.toMessageLoop.Halted

/-- Only a job that is queued while the worker is held up leaves something to do. -/
theorem halted_acts (e : Executor α) (op : Op α) :
    (∃ job, op = .execute job ∧ e.held = true) ∨ (e.toMessageLoop.after (e.acts op)).Halted := by
  have halted (acts : List (MessageLoop.Act α)) :
      (e.toMessageLoop.after (e.untilIdleAfter acts)).Halted := by
    rw [untilIdleAfter, MessageLoop.after_append]
    exact MessageLoop.halted_untilIdle _
  cases op with
  | execute job =>
    rw [acts]
    split
    · exact .inl ⟨job, rfl, ‹_›⟩
    · exact .inr (halted _)
  | flush | shutdown => exact .inr (halted _)
  | hold | release => exact .inr (MessageLoop.halted_untilIdle _)

/-- Each operation leaves an executor settled. -/
theorem Settled.step (settled : Settled name e record) (op : Op α) :
    Settled name (e.step op).executor (record ++ e.events op) := by
  have ordered := settled.ordered.after (e.acts op)
  rcases e.halted_acts op with ⟨job, rfl, held⟩ | halted
  · have sent : e.acts (.execute job) = [.offer job] := if_pos held
    refine ⟨ordered, ?_, fun free => Bool.noConfusion (held.symm.trans free)⟩
    have balance := (e.toMessageLoop.balance_send job).callers
    rw [settled.unasked] at balance
    show (e.toMessageLoop.after (e.acts (.execute job))).waiting = []
    rw [sent]
    exact balance.symm
  · refine ⟨ordered, ?_, fun _ => halted⟩
    show (e.toMessageLoop.after (e.acts op)).waiting = []
    rw [MessageLoop.waiting, (ordered.sound.of_halted halted).2.1]
    rfl

/-- So it is settled after every script. -/
theorem settled_after (name : String) (script : List (Op α)) :
    Settled name ((spawn name).after script) (recordOf name script) := by
  induction script using List.reverseRecOn with
  | nil => exact ⟨MessageLoop.ordered_spawn name, rfl, fun _ => rfl⟩
  | append_singleton script op ih =>
    rw [after, List.foldl_append, ← after, recordOf_concat]
    exact ih.step op

/-! ## Answers -/

/-- While no caller waits, the worker answers none. -/
theorem unanswered_of_steps {n : Nat} {l last : MessageLoop α} {later : List (Event α)}
    (steps : MessageLoop.Steps n l later last) (unasked : l.waiting = []) (e : Executor α) :
    later.findSome? e.answer? = none := by
  induction steps with
  | refl l => rfl
  | head step _ ih =>
    obtain ⟨turn, byWorker⟩ := MessageLoop.turn_of_next step
    have callers := (MessageLoop.balance_of_turn turn).callers
    rw [unasked] at callers
    cases turn with
    | offered | asked | shutDown => cases byWorker
    | answered => cases callers
    | _ => exact ih callers.symm

/-- What the worker does by itself until it is idle. -/
theorem unanswered_untilIdle {l : MessageLoop α} (unasked : l.waiting = []) (e : Executor α) :
    (l.record l.untilIdle).findSome? e.answer? = none := by
  obtain ⟨n, later, last, steps, halted⟩ := l.exists_halted
  rw [(steps.untilIdle halted).2]
  exact unanswered_of_steps steps unasked e

/-- A caller that asks an idle worker is told, unless it is refused. -/
theorem record_await {l : MessageLoop α} (sound : l.Sound) (halted : l.Halted)
    (running : l.isShutdown = false) :
    l.await.2 = some l.callers ∧ l.await.1.record l.await.1.untilIdle = [.answered l.callers] := by
  obtain ⟨idle, received, left⟩ := sound.of_halted halted
  obtain ⟨name, isShutdown, accepted, callers, commands, under, stopped⟩ := l
  obtain rfl : isShutdown = false := running
  obtain rfl : under = .finish := idle
  obtain rfl : commands = [] := received
  obtain rfl : stopped = false := left
  exact ⟨rfl, rfl⟩

/-- What happens when the worker is let go first, and again after one more act. -/
theorem record_untilIdleAfter (e : Executor α) (a : MessageLoop.Act α) :
    e.toMessageLoop.record (e.untilIdleAfter (e.untilIdle ++ [a])) =
      e.toMessageLoop.record e.untilIdle ++
        (((e.toMessageLoop.after e.untilIdle).act a).2 ++
          ((e.toMessageLoop.after e.untilIdle).act a).1.record
            ((e.toMessageLoop.after e.untilIdle).act a).1.untilIdle) := by
  have last : e.toMessageLoop.after (e.untilIdle ++ [a]) =
      ((e.toMessageLoop.after e.untilIdle).act a).1 := MessageLoop.after_append ..
  rw [untilIdleAfter, MessageLoop.record_append, last, MessageLoop.record_append,
    List.append_assoc, MessageLoop.record, MessageLoop.record, List.append_nil]

/-- What is refused is refused in the name of the executor. -/
theorem Settled.refusal (settled : Settled name e record) :
    e.refusal = .refused (.closed name) := by
  rw [Executor.refusal, settled.ordered.agrees.named]

/-- A job that is offered is answered at once. -/
theorem Settled.answer_execute (settled : Settled name e record) (job : Job α) :
    e.answer (.execute job) =
      if shutIn record then .refused (.closed name) else .accepted (acceptedIn record).length := by
  obtain ⟨later, first⟩ : ∃ later, e.events (.execute job) =
      .offered job (e.toMessageLoop.send job).2 :: later := by
    rw [events, acts]
    split <;> exact ⟨_, rfl⟩
  show ((e.events (.execute job)).findSome? e.answer?).getD e.refusal = _
  rw [first, settled.ordered.agrees.send job, ← settled.refusal]
  split <;> rfl

/-- A caller that waits is told when the worker is idle, unless it is refused. -/
theorem Settled.answer_flush (settled : Settled name e record) :
    e.answer .flush =
      if (e.toMessageLoop.after e.untilIdle).isShutdown then .refused (.closed name)
      else .flushed := by
  have sound := (settled.ordered.after e.untilIdle).sound
  have halted := e.toMessageLoop.halted_untilIdle
  show ((e.events .flush).findSome? e.answer?).getD e.refusal = _
  rw [events, acts, record_untilIdleAfter, List.findSome?_append,
    unanswered_untilIdle settled.unasked, Option.none_or, MessageLoop.act]
  generalize e.toMessageLoop.after e.untilIdle = idle at *
  cases shut : idle.isShutdown with
  | true =>
    have refused : idle.await.2 = none := by rw [MessageLoop.await, if_pos shut]
    rw [refused, ← settled.refusal]
    rfl
  | false =>
    obtain ⟨number, told⟩ := record_await sound halted shut
    rw [number, told]
    rfl

/-- The answers to the operations are those that fit the record. -/
theorem answer_after (name : String) (script : List (Op α)) (op : Op α) :
    (((spawn name).after script).step op).answer = op.answerAfter name script := by
  have settled := settled_after name script
  have released := settled.step .release
  rw [← recordOf_concat] at released
  have shut : (((spawn name).after script).toMessageLoop.after _).isShutdown = _ :=
    released.ordered.agrees.shut
  cases op with
  | execute job => exact settled.answer_execute job
  | flush =>
    rw [Op.answerAfter, ← shut]
    exact settled.answer_flush
  | shutdown =>
    show ((events _ .shutdown).findSome? (answer? _)).getD _ = _
    rw [events, acts, record_untilIdleAfter, List.findSome?_append,
      unanswered_untilIdle settled.unasked]
    rfl
  | hold =>
    rw [Op.answerAfter, ← shut, ← settled.refusal]
    rfl
  | release => rfl

/-- What can be relied on of an executor with this name after a script. -/
structure FollowsLoop (name : String) (script : List (Op α)) : Prop where
  /-- Its message loop is where the acts of the script lead. -/
  loop : ((spawn name).after script).toMessageLoop =
    (MessageLoop.spawn name).after ((spawn name).actsOf script)
  /-- So its jobs run in order. -/
  inOrder : MessageLoop.RunsInOrder name ((spawn name).after script).toMessageLoop
    (recordOf name script)
  /-- The record has all that the worker showed, in order. -/
  shown : (recordOf name script).filterMap Entry.of? =
    ((spawn name).outcomes script).flatMap Outcome.seen
  /-- Each further operation is answered as it fits the record. -/
  answered : ∀ op, (((spawn name).after script).step op).answer = op.answerAfter name script
  /-- Unless the worker is held up, nothing is left to do. -/
  idle : ((spawn name).after script).held = false →
    MessageLoop.Finished name ((spawn name).after script).toMessageLoop (recordOf name script)

/-- Whatever callers offer, wait for and shut down, and whenever the worker gets its turn, and
whatever the jobs queue, wherever they shut the loop down or fail: the jobs accepted run once each,
in the order of acceptance and one after the other, exactly what comes after a shutdown is refused,
and a caller that waits is told when the jobs accepted before have run. So it is in every script of
one caller, in which the worker may be held up. In the first part a shutdown or a wait of a caller
meets whatever waits in the channel. -/
theorem runs_in_order (name : String) :
    (∀ acts : List (MessageLoop.Act α),
        MessageLoop.RunsInOrder name ((MessageLoop.spawn name).after acts)
          ((MessageLoop.spawn name).record acts)) ∧
      ∀ script : List (Op α), FollowsLoop name script := by
  refine ⟨fun acts => ((MessageLoop.ordered_spawn name).after acts).runsInOrder, fun script => ?_⟩
  have settled := settled_after name script
  constructor
  · exact toMessageLoop_after (spawn name) script
  · exact settled.ordered.runsInOrder
  · exact seen_outcomes (spawn name) script
  · exact answer_after name script
  · exact fun free => settled.ordered.finished (settled.idle free)

/-- A caller shuts the loop down while a job waits. The job still runs, but what it queues is
refused. -/
example :
    (MessageLoop.spawn "worker" : MessageLoop Nat).record
        [.offer (.execute (.log 1 .finish) (.checkShutdown .finish)), .close, .work, .work, .work,
          .work] =
      [.offered (.execute (.log 1 .finish) (.checkShutdown .finish)) (some 0), .shutDown,
        .started 0 (.execute (.log 1 .finish) (.checkShutdown .finish)),
        .did (.submitted (.log 1 .finish) none), .did (.sawShutdown true), .stopped] := rfl

/-- A caller asks while a job waits that shuts the loop down. It is told when the job has run. -/
example :
    (MessageLoop.spawn "worker" : MessageLoop Nat).record
        [.offer (.shutdown (.crash .finish)), .await, .work, .work, .await, .work, .work, .work] =
      [.offered (.shutdown (.crash .finish)) (some 0), .asked (some 0),
        .started 0 (.shutdown (.crash .finish)), .did .shutDown, .asked none, .did .crashed,
        .answered 0, .stopped] := rfl

end Executor

end AccessStatus
