import AccessStatus.Executor.MessageLoop
import AccessStatus.Text.Record

/-!
# Serial executors

An executor is a message loop as a script of one caller sees it. The script goes on when the worker
is idle, unless it has held the worker up, so that jobs pile up behind until it is let go. A caller
cannot wait for a worker that it holds up itself, so whatever waits for the worker lets it go first.
Callers that wait or shut the loop down while jobs pile up are others than the one who holds the
worker up; they are in the acts of the loop, which come in any order (`MessageLoop.Act`).

Every operation of a script is a list of such acts (`acts`), and what it answers and shows is read
off what happens in them.
-/

namespace AccessStatus

/-- Why an executor refuses a job. -/
inductive DispatchError where
  | closed (executor : String)
  deriving DecidableEq

/-- The wording of a refusal. -/
def DispatchError.message : DispatchError → String
  | .closed executor => "Executor '" ++ executor ++ "' has been shut down"

/-- A message loop, and whether its worker is held up. -/
structure Executor (α : Type) extends MessageLoop α where
  held : Bool

namespace Executor

variable {α : Type}

/-- What the worker does, as it becomes visible. -/
inductive Entry (α : Type) where
  /-- The job with this number begins. -/
  | started (number : Nat)
  /-- A job noted an entry. -/
  | logged (entry : α)
  /-- A job queued another one, which got this number or was refused. -/
  | submitted (number : Option Nat)
  /-- A job waited for the jobs before it. -/
  | flushed
  /-- A job noted whether the executor was shut down. -/
  | sawShutdown (yes : Bool)
  /-- A job noted the name of its worker. -/
  | sawName (name : String)
  /-- A job failed. -/
  | crashed
  deriving DecidableEq

/-- What an event shows of the worker. -/
def Entry.of? : Event α → Option (Entry α)
  | .started number _ => some (.started number)
  | .did (.logged entry) => some (.logged entry)
  | .did (.submitted _ number) => some (.submitted number)
  | .did .flushed => some .flushed
  | .did (.sawShutdown yes) => some (.sawShutdown yes)
  | .did (.sawName name) => some (.sawName name)
  | .did .crashed => some .crashed
  | _ => none

/-- What can be asked of an executor in a script. -/
inductive Op (α : Type) where
  /-- Queue a job. -/
  | execute (job : Job α)
  /-- Wait until every job accepted so far has run. -/
  | flush
  /-- Accept nothing more. -/
  | shutdown
  /-- Hold the worker up. -/
  | hold
  /-- Let the worker go on until nothing waits. -/
  | release

/-- What an executor answers. -/
inductive Answer where
  | done
  | accepted (number : Nat)
  | flushed
  | held
  | refused (error : DispatchError)
  deriving DecidableEq

/-- The result of one operation: the executor after it, the answer, and what the worker did. -/
structure Outcome (α : Type) where
  executor : Executor α
  answer : Answer
  seen : List (Entry α)

/-- A fresh executor. -/
def spawn (name : String) : Executor α := ⟨.spawn name, false⟩

/-- The refusal of a closed executor. -/
def refusal (e : Executor α) : Answer := .refused (.closed e.name)

/-- These acts, and then all that the worker has to do. -/
def untilIdleAfter (e : Executor α) (acts : List (MessageLoop.Act α)) : List (MessageLoop.Act α) :=
  acts ++ (e.toMessageLoop.after acts).untilIdle

/-- The acts that an operation comes to. A flush and a shutdown return when the worker has done what
was sent before, so a script that has held the worker up lets it go first. It is held up by one job
at a time. -/
def acts (e : Executor α) : Op α → List (MessageLoop.Act α)
  | .execute job => if e.held then [.offer job] else e.untilIdleAfter [.offer job]
  | .flush => e.untilIdleAfter (e.untilIdle ++ [.await])
  | .shutdown => e.untilIdleAfter (e.untilIdle ++ [.close])
  | .hold => e.untilIdle
  | .release => e.untilIdle

/-- What happens in an operation. -/
def events (e : Executor α) (op : Op α) : List (Event α) := e.toMessageLoop.record (e.acts op)

/-- The answer that a caller gets with an event. -/
def answer? (e : Executor α) : Event α → Option Answer
  | .offered _ (some number) => some (.accepted number)
  | .offered _ none => some e.refusal
  | .asked none => some e.refusal
  | .answered _ => some .flushed
  | .shutDown => some .done
  | _ => none

/-- The answer to an operation: the first that is given in it. A caller whose wait is never answered
would be refused. -/
def answer (e : Executor α) : Op α → Answer
  | .hold => if (e.toMessageLoop.after e.untilIdle).isShutdown then e.refusal else .held
  | .release => .done
  | op => ((e.events op).findSome? e.answer?).getD e.refusal

/-- Whether the worker is held up after an operation. -/
def heldAfter (e : Executor α) : Op α → Bool
  | .execute _ => e.held
  | .hold => !(e.toMessageLoop.after e.untilIdle).isShutdown
  | _ => false

/-- Performs one operation. -/
def step (e : Executor α) (op : Op α) : Outcome α where
  executor := ⟨e.toMessageLoop.after (e.acts op), e.heldAfter op⟩
  answer := e.answer op
  seen := (e.events op).filterMap Entry.of?

/-- Lets the worker go and runs everything that waits. -/
def release (e : Executor α) : Executor α × List (Entry α) :=
  ((e.step .release).executor, (e.step .release).seen)

/-- The inspection text of an executor with a name and a shutdown flag. -/
def inspect (name : String) (isShutdown : Bool) : String :=
  Text.record "SerialExecutor" [("name", Text.quoted name), ("shutdown", Text.bool isShutdown)]

end Executor

end AccessStatus
