import AccessStatus.Data.Basic
import AccessStatus.Error

/-!
# Answers

What a monitor answers to one request.
-/

namespace AccessStatus

/-- The answer to one request. -/
inductive Answer where
  /-- There is nothing to say. -/
  | done
  /-- Yes or no. -/
  | flag (yes : Bool)
  /-- The request was carried out. -/
  | accepted
  /-- The request was refused. -/
  | refused (error : StatusError)
  /-- The event that a report led to, if any. -/
  | event (e : Option ConnectionEvent)
  deriving DecidableEq

/-- The answer to a request that may be refused. -/
def Answer.ofExcept : Except StatusError Unit → Answer
  | .ok _ => .accepted
  | .error e => .refused e

end AccessStatus
