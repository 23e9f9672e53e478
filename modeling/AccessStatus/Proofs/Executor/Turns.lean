import AccessStatus.Executor.Basic
import Mathlib.Data.List.Induction

/-!
# What one act of a message loop can do

Each act of a caller or of the worker brings at most one event, and `Turn` says which one, when, and
what becomes of the loop. It is the only place where the steps are taken apart (`turn_of_next`,
`act_cases`). Whatever a turn preserves holds of every history (`turns_preserve`). Here it is
that nothing is stranded: the command to stop is the last that is ever sent (`Sound`). And the
worker comes to a halt by itself, as each step uses up a part of a finite job tree
(`labour_lt_of_turn`, `halted_untilIdle`), however many commands it sends meanwhile.
-/

namespace AccessStatus

variable {α : Type}

/-- The job that a command brings, and its number. -/
def Command.job? : Command α → Option (Nat × Job α)
  | .run number job => some (number, job)
  | _ => none

/-- The caller that a command is to answer. -/
def Command.caller? : Command α → Option Nat
  | .flush caller => some caller
  | _ => none

/-- What a job does next if it neither sends nor closes anything, and what is left of it then. -/
def Job.alone? (name : String) (isShutdown : Bool) : Job α → Option (Deed α × Job α)
  | .log entry rest => some (.logged entry, rest)
  | .flush rest => some (.flushed, rest)
  | .checkShutdown rest => some (.sawShutdown isShutdown, rest)
  | .checkName rest => some (.sawName name, rest)
  | .crash _ => some (.crashed, .finish)
  | _ => none

/-- Whether it is the worker that does it. -/
def Event.byWorker : Event α → Bool
  | .offered _ _ | .asked _ | .shutDown => false
  | _ => true

namespace MessageLoop

/-- The jobs that wait, with their numbers. -/
def queue (l : MessageLoop α) : List (Nat × Job α) := l.commands.filterMap Command.job?

/-- The worker can do nothing more by itself. -/
def Halted (l : MessageLoop α) : Prop := l.next? = none

/-! ## Turns -/

/-- What can happen to a loop, and what becomes of it. -/
inductive Turn (l : MessageLoop α) : Event α → MessageLoop α → Prop where
  | offered (job : Job α) : Turn l (.offered job (l.send job).2) (l.send job).1
  | asked : Turn l (.asked l.await.2) l.await.1
  | shutDown : Turn l .shutDown l.shutdown
  | started {number : Nat} {job : Job α} {rest : List (Command α)} (idle : l.left = .finish)
    (running : l.stopped = false) (received : l.commands = .run number job :: rest) :
    Turn l (.started number job) { l with commands := rest, left := job }
  | answered {caller : Nat} {rest : List (Command α)} (idle : l.left = .finish)
    (running : l.stopped = false) (received : l.commands = .flush caller :: rest) :
    Turn l (.answered caller) { l with commands := rest }
  | stopped {rest : List (Command α)} (idle : l.left = .finish) (running : l.stopped = false)
    (received : l.commands = .shutdown :: rest) :
    Turn l .stopped { l with commands := rest, stopped := true }
  | submitted {job rest : Job α} (under : l.left = .execute job rest) :
    Turn l (.did (.submitted job (l.send job).2)) { (l.send job).1 with left := rest }
  | closed {rest : Job α} (under : l.left = .shutdown rest) :
    Turn l (.did .shutDown) { l.shutdown with left := rest }
  | alone {deed : Deed α} {rest : Job α}
    (under : l.left.alone? l.name l.isShutdown = some (deed, rest)) :
    Turn l (.did deed) { l with left := rest }

/-- What the worker can do next. -/
theorem turn_of_next {l next : MessageLoop α} {event : Event α}
    (step : l.next? = some (next, event)) :
    Turn l event next ∧ event.byWorker = true := by
  obtain ⟨name, isShutdown, accepted, callers, commands, left, stopped⟩ := l
  -- between two jobs the next command decides, and else the job under way
  cases left with
  | finish =>
    cases stopped with
    | true => cases step
    | false =>
      cases commands with
      | nil => cases step
      | cons command rest =>
        cases command with
        | run number job =>
          cases step
          exact ⟨.started rfl rfl rfl, rfl⟩
        | flush caller =>
          cases step
          exact ⟨.answered rfl rfl rfl, rfl⟩
        | shutdown =>
          cases step
          exact ⟨.stopped rfl rfl rfl, rfl⟩
  | execute job rest =>
    cases step
    exact ⟨.submitted rfl, rfl⟩
  | shutdown rest =>
    cases step
    exact ⟨.closed rfl, rfl⟩
  | log entry rest | flush rest | checkShutdown rest | checkName rest | crash lost =>
    cases step
    exact ⟨.alone rfl, rfl⟩

/-- An act of the worker does nothing, if there is nothing to do, and any act else is a turn. -/
theorem act_cases (l : MessageLoop α) (a : Act α) :
    l.act a = (l, []) ∨ ∃ event next, l.act a = (next, [event]) ∧ Turn l event next := by
  cases a with
  | offer job => exact .inr ⟨_, _, rfl, .offered job⟩
  | await => exact .inr ⟨_, _, rfl, .asked⟩
  | close => exact .inr ⟨_, _, rfl, .shutDown⟩
  | work =>
    unfold act
    cases step : l.next? with
    | none => exact .inl rfl
    | some result => exact .inr ⟨result.2, result.1, rfl, (turn_of_next step).1⟩

/-- The worker can do nothing more when it is between jobs and has received everything, or has left
the loop. -/
theorem halted_iff (l : MessageLoop α) :
    l.Halted ↔ l.left = .finish ∧ (l.stopped = true ∨ l.commands = []) := by
  obtain ⟨name, isShutdown, accepted, callers, commands, left, stopped⟩ := l
  unfold Halted next?
  cases left with
  | finish =>
    cases stopped with
    | true => simp
    | false =>
      cases commands with
      | nil => simp
      | cons command rest => cases command <;> simp
  | _ => simp

/-! ## Histories -/

/-- The loop after two lists of acts. -/
theorem after_append (l : MessageLoop α) (acts more : List (Act α)) :
    l.after (acts ++ more) = (l.after acts).after more := List.foldl_append

/-- What happens in two lists of acts. -/
theorem record_append (l : MessageLoop α) (acts more : List (Act α)) :
    l.record (acts ++ more) = l.record acts ++ (l.after acts).record more := by
  induction acts generalizing l with
  | nil => rfl
  | cons a acts ih =>
    rw [List.cons_append, record, record, ih, List.append_assoc]
    rfl

/-- What is so in the beginning, and what no turn changes, is so after every history. -/
theorem turns_preserve {P : MessageLoop α → List (Event α) → Prop} {l : MessageLoop α}
    {before : List (Event α)} (holds : P l before)
    (keeps : ∀ {l record event next}, P l record → Turn l event next → P next (record ++ [event]))
    (acts : List (Act α)) : P (l.after acts) (before ++ l.record acts) := by
  induction acts generalizing l before with
  | nil =>
    rw [record, List.append_nil]
    exact holds
  | cons a acts ih =>
    rw [record, ← List.append_assoc]
    -- the worker may have had nothing to do
    have first : P (l.act a).1 (before ++ (l.act a).2) := by
      rcases l.act_cases a with same | ⟨event, next, act, turn⟩
      · rw [same, List.append_nil]
        exact holds
      · rw [act]
        exact keeps holds turn
    exact ih first

/-! ## What the worker uses up -/

/-- One more command adds what it costs. -/
theorem load_concat (commands : List (Command α)) (command : Command α) :
    Command.load (commands ++ [command]) = Command.load commands + command.labour := by
  induction commands with
  | nil => exact Nat.add_comm _ _
  | cons first rest ih => rw [List.cons_append, Command.load, Command.load, ih, Nat.add_assoc]

/-- A job that is sent brings its own tree with it. -/
theorem load_send_le (l : MessageLoop α) (job : Job α) :
    Command.load (l.send job).1.commands ≤ Command.load l.commands + (job.labour + 1) := by
  unfold send
  split
  · exact Nat.le_add_right _ _
  · exact Nat.le_of_eq (load_concat _ _)

/-- A shutdown brings one more command, or none. -/
theorem load_shutdown_le (l : MessageLoop α) :
    Command.load l.shutdown.commands ≤ Command.load l.commands + 1 := by
  unfold shutdown
  split
  · exact Nat.le_add_right _ _
  · exact Nat.le_of_eq (load_concat _ _)

/-- What is left of a job is less than the job. -/
theorem labour_lt_of_alone {name : String} {isShutdown : Bool} {job rest : Job α} {deed : Deed α}
    (under : job.alone? name isShutdown = some (deed, rest)) : rest.labour < job.labour := by
  cases job <;> cases under <;> simp only [Job.labour] <;> omega

/-- Every step of the worker uses something up, also one that makes the channel longer. -/
theorem labour_lt_of_turn {l next : MessageLoop α} {event : Event α} (turn : Turn l event next)
    (byWorker : event.byWorker = true) : next.labour < l.labour := by
  cases turn with
  | offered | asked | shutDown => cases byWorker
  | started idle _ received =>
    simp only [labour, received, idle, Command.load, Command.labour, Job.labour]
    omega
  | answered _ _ received | stopped _ _ received =>
    simp only [labour, received, Command.load, Command.labour]
    omega
  | @submitted job rest under =>
    -- the tree that is sent moves from the job under way to the channel
    have sent := l.load_send_le job
    simp only [labour, under, Job.labour]
    omega
  | closed under =>
    have sent := l.load_shutdown_le
    simp only [labour, under, Job.labour]
    omega
  | alone under =>
    have less := labour_lt_of_alone under
    simp only [labour]
    omega

/-- So many steps lead the worker from one state to another, and this happens in them. -/
inductive Steps : Nat → MessageLoop α → List (Event α) → MessageLoop α → Prop where
  | refl (l : MessageLoop α) : Steps 0 l [] l
  | head {n : Nat} {l next last : MessageLoop α} {event : Event α} {later : List (Event α)}
    (step : l.next? = some (next, event)) (rest : Steps n next later last) :
    Steps (n + 1) l (event :: later) last

/-- So the worker can take no more steps by itself than there are in the trees that it has. -/
theorem Steps.labour_le {n : Nat} {l last : MessageLoop α} {record : List (Event α)}
    (steps : Steps n l record last) : last.labour + n ≤ l.labour := by
  induction steps with
  | refl l => exact Nat.le_refl _
  | head step _ ih =>
    obtain ⟨turn, byWorker⟩ := turn_of_next step
    have less := labour_lt_of_turn turn byWorker
    omega

/-- It does come to the point where it can do nothing more. -/
theorem exists_halted (l : MessageLoop α) :
    ∃ n record last, Steps n l record last ∧ last.Halted := by
  -- each step leaves less labour
  induction bound : l.labour using Nat.strongRecOn generalizing l with
  | _ labour ih =>
  cases step : l.next? with
  | none => exact ⟨0, [], l, .refl l, step⟩
  | some result =>
    obtain ⟨next, event⟩ := result
    obtain ⟨turn, byWorker⟩ := turn_of_next step
    have less := labour_lt_of_turn turn byWorker
    rw [bound] at less
    obtain ⟨n, later, last, steps, halted⟩ := ih next.labour less next rfl
    exact ⟨n + 1, event :: later, last, .head step steps, halted⟩

/-- What so many turns of the worker come to, the first one apart. -/
theorem replicate_work {l next : MessageLoop α} {events : List (Event α)}
    (first : l.act .work = (next, events)) (n : Nat) :
    l.after (List.replicate (n + 1) .work) = next.after (List.replicate n .work) ∧
      l.record (List.replicate (n + 1) .work) =
        events ++ next.record (List.replicate n .work) := by
  rw [List.replicate_succ, after, List.foldl_cons, record, first]
  exact ⟨rfl, rfl⟩

/-- Steps of the worker are acts in which nobody else does anything. -/
theorem Steps.acts {n : Nat} {l last : MessageLoop α} {record : List (Event α)}
    (steps : Steps n l record last) :
    l.after (List.replicate n .work) = last ∧ l.record (List.replicate n .work) = record := by
  induction steps with
  | refl l => exact ⟨rfl, rfl⟩
  | @head n l next last event later step _ ih =>
    have first : l.act .work = (next, [event]) := by rw [MessageLoop.act, step]
    obtain ⟨after, happened⟩ := replicate_work first n
    rw [after, happened, ih.1, ih.2]
    exact ⟨rfl, rfl⟩

/-- A worker that can do nothing does nothing, however often it is its turn. -/
theorem Halted.replicate {l : MessageLoop α} (halted : l.Halted) (n : Nat) :
    l.after (List.replicate n .work) = l ∧ l.record (List.replicate n .work) = [] := by
  have idle : l.act .work = (l, []) := by rw [MessageLoop.act, halted]
  induction n with
  | zero => exact ⟨rfl, rfl⟩
  | succ n ih =>
    obtain ⟨after, happened⟩ := replicate_work idle n
    rw [after, happened, ih.1, ih.2]
    exact ⟨rfl, rfl⟩

/-- What leads to a halt is what the worker does until it is idle. -/
theorem Steps.untilIdle {n : Nat} {l last : MessageLoop α} {record : List (Event α)}
    (steps : Steps n l record last) (halted : last.Halted) :
    l.after l.untilIdle = last ∧ l.record l.untilIdle = record := by
  have enough : l.labour = n + (l.labour - n) := by
    have bounded := steps.labour_le
    omega
  obtain ⟨after, happened⟩ := steps.acts
  obtain ⟨still, nothing⟩ := halted.replicate (l.labour - n)
  rw [MessageLoop.untilIdle, enough, ← List.replicate_append_replicate, after_append, record_append,
    after, happened, still, nothing, List.append_nil]
  exact ⟨rfl, rfl⟩

/-- When it has done all that it has to do, it can do nothing more. -/
theorem halted_untilIdle (l : MessageLoop α) : (l.after l.untilIdle).Halted := by
  obtain ⟨n, record, last, steps, halted⟩ := l.exists_halted
  rw [(steps.untilIdle halted).1]
  exact halted

/-! ## Nothing is stranded -/

/-- The command to stop is in the channel from the shutdown until it is received, and nothing is
sent behind it. -/
inductive Sound : MessageLoop α → Prop where
  | receiving {name accepted callers commands left} (unmarked : Command.shutdown ∉ commands) :
    Sound ⟨name, false, accepted, callers, commands, left, false⟩
  | closing {name accepted callers before left} (unmarked : Command.shutdown ∉ before) :
    Sound ⟨name, true, accepted, callers, before ++ [.shutdown], left, false⟩
  | stopped {name accepted callers} : Sound ⟨name, true, accepted, callers, [], .finish, true⟩

/-- Nothing was shut down in the beginning. -/
theorem sound_spawn (name : String) : (spawn name : MessageLoop α).Sound :=
  .receiving List.not_mem_nil

/-- Nothing but more jobs and more callers comes before the command to stop. -/
theorem unmarked_concat {commands : List (Command α)} (unmarked : .shutdown ∉ commands)
    {command : Command α} (other : command ≠ .shutdown) : .shutdown ∉ commands ++ [command] := by
  rw [List.mem_append, List.mem_singleton]
  exact fun marked => marked.elim unmarked fun same => other same.symm

/-- What the job under way comes to be is of no concern, while the worker is at one. -/
theorem Sound.left {l : MessageLoop α} (sound : l.Sound) (busy : l.left ≠ .finish) (left : Job α) :
    Sound { l with left := left } := by
  cases sound with
  | receiving unmarked => exact .receiving unmarked
  | closing unmarked => exact .closing unmarked
  | stopped => exact absurd rfl busy

/-- Sending a job keeps the command to stop where it is. -/
theorem Sound.send {l : MessageLoop α} (sound : l.Sound) (job : Job α) : (l.send job).1.Sound := by
  cases sound with
  | receiving unmarked => exact .receiving (unmarked_concat unmarked nofun)
  | closing unmarked => exact .closing unmarked
  | stopped => exact .stopped

/-- So does a caller that waits. -/
theorem Sound.await {l : MessageLoop α} (sound : l.Sound) : l.await.1.Sound := by
  cases sound with
  | receiving unmarked => exact .receiving (unmarked_concat unmarked nofun)
  | closing unmarked => exact .closing unmarked
  | stopped => exact .stopped

/-- The first shutdown puts the command to stop last. -/
theorem Sound.shutdown {l : MessageLoop α} (sound : l.Sound) : l.shutdown.Sound := by
  cases sound with
  | receiving unmarked => exact .closing unmarked
  | closing unmarked => exact .closing unmarked
  | stopped => exact .stopped

/-- What is left of the job under way does not depend on what is sent. -/
theorem left_send (l : MessageLoop α) (job : Job α) : (l.send job).1.left = l.left := by
  unfold send
  split <;> rfl

/-- Nor on who asks. -/
theorem left_await (l : MessageLoop α) : l.await.1.left = l.left := by
  unfold await
  split <;> rfl

/-- Nor on a shutdown. -/
theorem left_shutdown (l : MessageLoop α) : l.shutdown.left = l.left := by
  unfold shutdown
  split <;> rfl

/-- A command that is received, but the one to stop, leaves the others as they are. -/
theorem Sound.receive {l : MessageLoop α} (sound : l.Sound) (running : l.stopped = false)
    {command : Command α} {rest : List (Command α)} (received : l.commands = command :: rest)
    (other : command ≠ .shutdown) (left : Job α) :
    Sound { l with commands := rest, left := left } := by
  cases sound with
  | receiving unmarked =>
    obtain rfl : _ = command :: rest := received
    exact .receiving fun marked => unmarked (List.mem_cons_of_mem _ marked)
  | @closing name accepted callers before _ unmarked =>
    cases before with
    | nil =>
      obtain ⟨same, -⟩ := List.cons.inj received
      exact absurd same.symm other
    | cons first before =>
      obtain ⟨-, rfl⟩ := List.cons.inj received
      exact .closing fun marked => unmarked (List.mem_cons_of_mem _ marked)
  | stopped => cases running

/-- When the worker receives the command to stop, nothing is behind it. -/
theorem Sound.stop {l : MessageLoop α} (sound : l.Sound) (idle : l.left = .finish)
    {rest : List (Command α)} (received : l.commands = .shutdown :: rest) :
    l.isShutdown = true ∧ rest = [] ∧ Sound { l with commands := rest, stopped := true } := by
  cases sound with
  | receiving unmarked =>
    obtain rfl : _ = .shutdown :: rest := received
    exact absurd List.mem_cons_self unmarked
  | @closing name accepted callers before left unmarked =>
    cases before with
    | nil =>
      obtain ⟨-, rfl⟩ := List.cons.inj received
      obtain rfl : left = .finish := idle
      exact ⟨rfl, rfl, .stopped⟩
    | cons first before =>
      obtain ⟨rfl, -⟩ := List.cons.inj received
      exact absurd List.mem_cons_self unmarked
  | stopped => cases received

/-- No turn sends anything behind the command to stop. -/
theorem Sound.turn {l next : MessageLoop α} {event : Event α} (sound : l.Sound)
    (turn : Turn l event next) : next.Sound := by
  cases turn with
  | offered job => exact sound.send job
  | asked => exact sound.await
  | shutDown => exact sound.shutdown
  | started _ running received => exact sound.receive running received nofun _
  | answered _ running received => exact sound.receive running received nofun l.left
  | stopped idle _ received => exact (sound.stop idle received).2.2
  | @submitted job rest under =>
    refine (sound.send job).left ?_ rest
    rw [left_send, under]
    nofun
  | @closed rest under =>
    refine sound.shutdown.left ?_ rest
    rw [left_shutdown, under]
    nofun
  | @alone deed rest under =>
    refine sound.left (fun idle => ?_) rest
    rw [idle] at under
    cases under

/-- When a worker can do nothing more, it is at no job, it has received all commands, and it has
left the loop exactly if it was shut down. -/
theorem Sound.of_halted {l : MessageLoop α} (sound : l.Sound) (halted : l.Halted) :
    l.left = .finish ∧ l.commands = [] ∧ l.stopped = l.isShutdown := by
  obtain ⟨idle, finished⟩ := l.halted_iff.1 halted
  cases sound with
  | receiving _ => exact ⟨idle, finished.resolve_left nofun, rfl⟩
  | closing _ =>
    exact absurd (finished.resolve_left nofun) (List.append_ne_nil_of_right_ne_nil _ nofun)
  | stopped => exact ⟨rfl, rfl, rfl⟩

end MessageLoop

end AccessStatus
