import AccessStatus.Proofs.Stream.Gate
import AccessStatus.Stream.Notifier

/-!
# What a notifier remembers

Each operation's effect on the value published last.
-/

namespace AccessStatus

namespace Notifier

variable {α : Type}

/-- A registration leaves the value. -/
@[simp] theorem current_register (n : Notifier α) (c : ConsumerId) (tag : Tag) :
    (n.register c tag).current = n.current := rfl

/-- A registration with replay leaves the value, too. -/
@[simp] theorem current_registerWithReplay (n : Notifier α) (live : Liveness) (c : ConsumerId)
    (tag : Tag) : (n.registerWithReplay live c tag).1.current = n.current :=
  rfl

@[simp] theorem current_unregister (n : Notifier α) (c : ConsumerId) :
    (n.unregister c).current = n.current := rfl

@[simp] theorem current_sweep (n : Notifier α) (live : Liveness) :
    (n.sweep live).current = n.current := rfl

/-- The value published is the current one. -/
@[simp] theorem current_publish (n : Notifier α) (live : Liveness) (v : α) :
    (n.publish live v).1.current = some v := rfl

/-- After a gated publication the value is the one published last, whether it passed or not. -/
@[simp] theorem current_publishIfChanged [BEq α] [LawfulBEq α] (n : Notifier α) (live : Liveness)
    (v : α) :
    (n.publishIfChanged live v).1.current = some v := by
  unfold publishIfChanged
  split
  · rfl
  · rename_i refused
    exact n.gate.current_eq_of_not_wouldChange (by simpa using refused)

end Notifier

end AccessStatus
