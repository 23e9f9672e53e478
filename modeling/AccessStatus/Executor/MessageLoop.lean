import AccessStatus.Executor.Job

/-!
# The message loop of a serial executor

Callers send commands through a channel: to run a job, to answer when all jobs before have run, and
to stop. One worker receives the commands in the order in which they were sent. It does a job to its
end, or to the point where it fails, before it receives the next command, and the job sends further
jobs through the same channel. A shutdown, by a caller or by the job under way, closes the channel
at once behind a last command to stop; what was sent before still waits for the worker.

Callers and worker act at any time, so a history of the loop is any list of acts (`Act`). What
happens in each is recorded as an event.
-/

namespace AccessStatus

/-- What is sent to the worker. -/
inductive Command (α : Type) where
  /-- Run this job, which got this number. -/
  | run (number : Nat) (job : Job α)
  /-- Answer the caller with this number: all that was sent before has been received. -/
  | flush (caller : Nat)
  /-- Stop. -/
  | shutdown

/-- The steps that the worker can need for a command. -/
def Command.labour {α : Type} : Command α → Nat
  | .run _ job => job.labour + 1
  | _ => 1

/-- The steps that the worker can need for some commands. -/
def Command.load {α : Type} : List (Command α) → Nat
  | [] => 0
  | command :: rest => command.labour + load rest

/-- What a job does, as it is recorded. -/
inductive Deed (α : Type) where
  | logged (entry : α)
  /-- The job offered another one, which got this number or was refused. -/
  | submitted (job : Job α) (number : Option Nat)
  | flushed
  | shutDown
  | sawShutdown (yes : Bool)
  | sawName (name : String)
  | crashed

/-- What happens to a loop: by callers, and by its worker. -/
inductive Event (α : Type) where
  /-- A caller offered a job, which got this number or was refused. -/
  | offered (job : Job α) (number : Option Nat)
  /-- A caller asked to be told when all jobs sent so far have run, and waits under this number or
  was refused. -/
  | asked (caller : Option Nat)
  /-- A caller shut the loop down. -/
  | shutDown
  /-- The worker began a job. -/
  | started (number : Nat) (job : Job α)
  /-- The job the worker is at did something. -/
  | did (deed : Deed α)
  /-- The worker told the caller with this number that it need not wait any longer. -/
  | answered (caller : Nat)
  /-- The worker left the loop. -/
  | stopped

/-- A channel and its worker: whether the channel is closed to senders, how many jobs it has
accepted and how many callers that wait, what the worker has not received yet, what is left of the
job it is at, and whether it has left the loop. -/
structure MessageLoop (α : Type) where
  name : String
  isShutdown : Bool
  accepted : Nat
  callers : Nat
  commands : List (Command α)
  left : Job α
  stopped : Bool

namespace MessageLoop

variable {α : Type}

/-- A fresh channel with an idle worker. -/
def spawn (name : String) : MessageLoop α := ⟨name, false, 0, 0, [], .finish, false⟩

/-- Sends a job, unless the channel is closed. -/
def send (l : MessageLoop α) (job : Job α) : MessageLoop α × Option Nat :=
  if l.isShutdown then (l, none)
  else
    ({ l with accepted := l.accepted + 1, commands := l.commands ++ [.run l.accepted job] },
      some l.accepted)

/-- Asks to be told when all that was sent so far has been received, unless the channel is
closed. -/
def await (l : MessageLoop α) : MessageLoop α × Option Nat :=
  if l.isShutdown then (l, none)
  else
    ({ l with callers := l.callers + 1, commands := l.commands ++ [.flush l.callers] },
      some l.callers)

/-- Closes the channel behind a last command to stop, the first time only. -/
def shutdown (l : MessageLoop α) : MessageLoop α :=
  if l.isShutdown then l
  else { l with isShutdown := true, commands := l.commands ++ [.shutdown] }

/-- The next step of the worker and what happens in it, unless it has left the loop or waits for a
command. -/
def next? (l : MessageLoop α) : Option (MessageLoop α × Event α) :=
  match l.left with
  | .finish =>
    if l.stopped then none
    else
      match l.commands with
      | [] => none
      | .run number job :: rest =>
        some ({ l with commands := rest, left := job }, .started number job)
      | .flush caller :: rest => some ({ l with commands := rest }, .answered caller)
      | .shutdown :: rest => some ({ l with commands := rest, stopped := true }, .stopped)
  | .log entry rest => some ({ l with left := rest }, .did (.logged entry))
  | .execute job rest =>
    some ({ (l.send job).1 with left := rest }, .did (.submitted job (l.send job).2))
  | .flush rest => some ({ l with left := rest }, .did .flushed)
  | .shutdown rest => some ({ l.shutdown with left := rest }, .did .shutDown)
  | .checkShutdown rest => some ({ l with left := rest }, .did (.sawShutdown l.isShutdown))
  | .checkName rest => some ({ l with left := rest }, .did (.sawName l.name))
  | .crash _ => some ({ l with left := .finish }, .did .crashed)

/-- What can happen next: a caller does something, or the worker takes its next step. -/
inductive Act (α : Type) where
  /-- A caller queues a job. -/
  | offer (job : Job α)
  /-- A caller begins to wait until every job accepted so far has run. -/
  | await
  /-- A caller lets nothing more be accepted. -/
  | close
  /-- The worker takes a step, if it can. -/
  | work

/-- The loop after one act, and what happens in it. -/
def act (l : MessageLoop α) : Act α → MessageLoop α × List (Event α)
  | .offer job => ((l.send job).1, [.offered job (l.send job).2])
  | .await => (l.await.1, [.asked l.await.2])
  | .close => (l.shutdown, [.shutDown])
  | .work =>
    match l.next? with
    | none => (l, [])
    | some (next, event) => (next, [event])

/-- The loop after all of these acts. -/
def after (l : MessageLoop α) (acts : List (Act α)) : MessageLoop α :=
  acts.foldl (fun l a => (l.act a).1) l

/-- What happens in all of these acts. -/
def record (l : MessageLoop α) : List (Act α) → List (Event α)
  | [] => []
  | a :: acts => (l.act a).2 ++ (l.act a).1.record acts

/-- The steps that the worker can need for what is left of its job and for all that waits. -/
def labour (l : MessageLoop α) : Nat := l.left.labour + Command.load l.commands

/-- Acts in which the worker, and nobody else, does all that is to be done. -/
def untilIdle (l : MessageLoop α) : List (Act α) := List.replicate l.labour .work

end MessageLoop

end AccessStatus
