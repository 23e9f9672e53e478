/-!
# Jobs

A job is a finite program for the worker of a serial executor: what it does first, then the rest of
it. It can queue further jobs, so a job is a tree; `nodes` counts the jobs in the tree, and `labour`
the steps that a worker can need for it.
-/

namespace AccessStatus

/-- What a job does, step by step. -/
inductive Job (α : Type) where
  /-- Nothing is left to do. -/
  | finish
  /-- Notes an entry. -/
  | log (entry : α) (rest : Job α)
  /-- Queues another job behind all that are waiting. -/
  | execute (job rest : Job α)
  /-- Waits for the jobs before this one, which have all run. -/
  | flush (rest : Job α)
  /-- Lets the executor accept nothing more. -/
  | shutdown (rest : Job α)
  /-- Notes whether the executor is shut down. -/
  | checkShutdown (rest : Job α)
  /-- Notes the name of the worker. -/
  | checkName (rest : Job α)
  /-- Fails; what is left of the job is never done. -/
  | crash (lost : Job α)

namespace Job

variable {α : Type}

/-- Number of jobs inside a job, at any depth. -/
def nested : Job α → Nat
  | finish => 0
  | log _ rest => rest.nested
  | execute job rest => job.nested + 1 + rest.nested
  | flush rest => rest.nested
  | shutdown rest => rest.nested
  | checkShutdown rest => rest.nested
  | checkName rest => rest.nested
  | crash lost => lost.nested

/-- Number of jobs in the tree of a job, itself included. -/
def nodes (job : Job α) : Nat := job.nested + 1

/-- Number of steps in the tree of a job: its own, and those of the jobs inside it with the start of
each. A shutdown counts twice, as it makes the worker stop later on. -/
def labour : Job α → Nat
  | finish => 0
  | log _ rest => rest.labour + 1
  | execute job rest => (job.labour + 1) + rest.labour + 1
  | flush rest => rest.labour + 1
  | shutdown rest => rest.labour + 2
  | checkShutdown rest => rest.labour + 1
  | checkName rest => rest.labour + 1
  | crash lost => lost.labour + 1

end Job

end AccessStatus
