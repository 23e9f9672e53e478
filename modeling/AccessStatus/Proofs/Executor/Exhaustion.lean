import AccessStatus.Proofs.Executor.Order

/-!
# The worker empties its channel

Whoever sends jobs, and whenever, the worker comes to a point where no job waits and all that were
accepted have been started. Each of them was in one of the trees that were accepted from callers, so
their number is bounded from the start, however the channel grows meanwhile: every turn, of a caller
or of the worker, keeps the books (`Accounted`), and so do all their interleavings. The main
statement is `worker_comes_to_end`; it is about the message loop in any such interleaving, and about
the scripts of an executor.
-/

namespace AccessStatus

variable {α : Type}

/-! ## Trees -/

/-- Number of jobs in a tree that was accepted from a caller. -/
def Event.nodes : Event α → Nat
  | .offered job (some _) => job.nodes
  | _ => 0

/-- Number of jobs in all trees that were accepted from callers. -/
def nodesIn : List (Event α) → Nat
  | [] => 0
  | event :: later => event.nodes + nodesIn later

/-- What is counted with one more event. -/
theorem nodesIn_concat (record : List (Event α)) (event : Event α) :
    nodesIn (record ++ [event]) = nodesIn record + event.nodes := by
  induction record with
  | nil => exact Nat.add_comm ..
  | cons first record ih => rw [List.cons_append, nodesIn, nodesIn, ih, Nat.add_assoc]

/-- Number of jobs in some trees. -/
def nodesOf : List (Nat × Job α) → Nat
  | [] => 0
  | (_, job) :: jobs => job.nodes + nodesOf jobs

/-- Trees are counted one by one. -/
theorem nodesOf_append (jobs more : List (Nat × Job α)) :
    nodesOf (jobs ++ more) = nodesOf jobs + nodesOf more := by
  induction jobs with
  | nil => exact (Nat.zero_add _).symm
  | cons job jobs ih => rw [List.cons_append, nodesOf, nodesOf, ih, Nat.add_assoc]

/-- A job that is accepted, or not. -/
theorem nodesOf_accepted_le (job : Job α) (number : Option Nat) :
    nodesOf (number.map (·, job)).toList ≤ job.nodes := by
  cases number with
  | none => exact Nat.zero_le _
  | some number => exact Nat.le_refl _

/-- A caller that offers a job brings its tree, if it is accepted. -/
theorem nodes_offered (job : Job α) (number : Option Nat) :
    nodesOf (number.map (·, job)).toList = (Event.offered job number).nodes := by
  cases number <;> rfl

namespace MessageLoop

/-- Number of jobs in the trees that wait. -/
def pending (l : MessageLoop α) : Nat := nodesOf l.queue

/-- The jobs started, those in what is left of the job under way and those in the trees that wait
were all in trees that were accepted from callers. -/
def Accounted (l : MessageLoop α) (record : List (Event α)) : Prop :=
  (startedIn record).length + (l.left.nested + l.pending) ≤ nodesIn record

section Turns

variable {l next : MessageLoop α} {record : List (Event α)} {event : Event α}

/-- What waits changes by what is accepted and what is started. -/
theorem pending_of_turn (turn : Turn l event next) :
    l.pending + nodesOf event.accepted?.toList =
      nodesOf event.started?.toList + next.pending := by
  rw [pending, pending, ← nodesOf_append, (balance_of_turn turn).jobs, nodesOf_append]

/-- What is left of a job has no more jobs inside. -/
theorem nested_le_of_alone {name : String} {isShutdown : Bool} {job rest : Job α} {deed : Deed α}
    (under : job.alone? name isShutdown = some (deed, rest)) : rest.nested ≤ job.nested := by
  cases job <;> cases under
  case crash lost => exact Nat.zero_le _
  all_goals exact Nat.le_refl _

/-- A job that is started was counted with its own tree, and a job that another one offers was
inside that one. -/
theorem nested_of_turn (turn : Turn l event next) :
    event.started?.toList.length + nodesOf event.accepted?.toList + next.left.nested ≤
      nodesOf event.started?.toList + l.left.nested + event.nodes := by
  cases turn with
  | offered job =>
    show 0 + nodesOf ((l.send job).2.map (·, job)).toList + (l.send job).1.left.nested ≤
      0 + l.left.nested + (Event.offered job (l.send job).2).nodes
    rw [left_send, nodes_offered]
    omega
  | asked =>
    rw [left_await]
    exact Nat.le_refl _
  | shutDown =>
    rw [left_shutdown]
    exact Nat.le_refl _
  | @started number job rest =>
    -- the tree that waited is now the job under way, which itself counts as started
    show 1 + 0 + job.nested ≤ job.nested + 1 + 0 + l.left.nested + 0
    omega
  | answered | stopped => exact Nat.le_refl _
  | @submitted job rest under =>
    show 0 + nodesOf ((l.send job).2.map (·, job)).toList + rest.nested ≤ 0 + l.left.nested + 0
    have tree := nodesOf_accepted_le job (l.send job).2
    rw [under, Job.nested]
    unfold Job.nodes at tree
    omega
  | closed under =>
    rw [under]
    exact Nat.le_refl _
  | @alone deed rest under =>
    have less := nested_le_of_alone under
    have unsent := (quiet_of_alone under).1.accepted
    show 0 + nodesOf (Event.did deed).accepted?.toList + rest.nested ≤ 0 + l.left.nested + 0
    rw [unsent]
    show 0 + 0 + rest.nested ≤ 0 + l.left.nested + 0
    omega

/-- Each turn keeps the books. -/
theorem Accounted.turn (accounted : Accounted l record) (turn : Turn l event next) :
    Accounted next (record ++ [event]) := by
  have waiting := pending_of_turn turn
  have nested := nested_of_turn turn
  unfold Accounted at accounted ⊢
  rw [startedIn_concat, List.length_append, nodesIn_concat]
  omega

end Turns

/-! ## The end -/

/-- No job waits any more. -/
structure RunsDry (l : MessageLoop α) (record : List (Event α)) : Prop where
  empty : l.queue = []
  /-- The jobs started are those accepted, from callers and from jobs, in the same order. -/
  started : startedIn record = acceptedIn record
  /-- They are no more than there are in the trees that were accepted from callers. -/
  inTrees : (startedIn record).length ≤ nodesIn record

/-- What holds when the worker has taken these last steps by itself and can do nothing more. -/
structure AtEnd (l : MessageLoop α) (record later : List (Event α)) (last : MessageLoop α) :
    Prop where
  /-- It has received all commands. -/
  received : last.commands = []
  /-- It has left the loop if it was shut down, and else waits for more. -/
  left : last.stopped = last.isShutdown
  /-- It has done what there was to do, and nothing else. -/
  done : later = l.record l.untilIdle ∧ last = l.after l.untilIdle
  /-- From the beginning on, exactly the jobs accepted were started. -/
  dry : RunsDry last (record ++ later)

/-- What can be relied on when this has happened so far. -/
structure ComesToEnd (l : MessageLoop α) (record : List (Event α)) : Prop where
  /-- By itself the worker takes no more steps than there are in the trees it has. -/
  bounded : ∀ n later last, Steps n l later last → n ≤ l.labour
  /-- So it comes to a point where it can do nothing more. -/
  halts : ∃ n later last, Steps n l later last ∧ last.Halted
  atEnd : ∀ n later last, Steps n l later last → last.Halted → AtEnd l record later last

/-- The books are kept in every history. -/
theorem accounted_after (name : String) (acts : List (Act α)) :
    Accounted ((spawn name).after acts) ((spawn name).record acts) := by
  have fresh : Accounted (spawn name : MessageLoop α) [] := Nat.le_refl 0
  exact turns_preserve fresh (fun accounted turn => accounted.turn turn) acts

/-- A history that ends with an idle worker has run dry. -/
theorem runsDry_of_halted (name : String) (acts : List (Act α))
    (halted : ((spawn name).after acts).Halted) :
    RunsDry ((spawn name).after acts) ((spawn name).record acts) := by
  have ordered := (ordered_spawn name).after acts
  have books := accounted_after name acts
  have received := (ordered.sound.of_halted halted).2.1
  refine ⟨?_, (ordered.finished halted).allRan.started, ?_⟩
  · rw [queue, received]
    rfl
  · exact Nat.le_trans (Nat.le_add_right _ _) books

/-- So does every history, when callers leave the worker alone. -/
theorem comesToEnd_after (name : String) (acts : List (Act α)) :
    ComesToEnd ((spawn name).after acts) ((spawn name).record acts) := by
  refine ⟨fun n later last steps => ?_, exists_halted _, fun n later last steps halted => ?_⟩
  · exact Nat.le_trans (Nat.le_add_left _ _) steps.labour_le
  · obtain ⟨same, recorded⟩ := steps.untilIdle halted
    have whole := runsDry_of_halted name (acts ++ ((spawn name).after acts).untilIdle)
    rw [after_append, record_append, same, recorded] at whole
    have sound := ((ordered_spawn name).after (acts ++ ((spawn name).after acts).untilIdle)).sound
    rw [after_append, same] at sound
    obtain ⟨-, received, left⟩ := sound.of_halted halted
    exact ⟨received, left, ⟨recorded.symm, same.symm⟩, whole halted⟩

end MessageLoop

namespace Executor

/-- An executor that is let go runs dry. -/
theorem runsDry_released (name : String) (script : List (Op α)) :
    MessageLoop.RunsDry ((spawn name).after (script ++ [.release])).toMessageLoop
      (recordOf name (script ++ [.release])) := by
  have released := settled_after name (script ++ [.release])
  have free : ((spawn name).after (script ++ [.release])).held = false := by
    rw [after, List.foldl_append]
    rfl
  have halted := released.idle free
  rw [toMessageLoop_after] at halted ⊢
  exact MessageLoop.runsDry_of_halted name _ halted

/-- Whatever callers and worker have done so far, in whatever order, and however jobs queue further
jobs, wait, shut down or fail: the worker comes to a point where nothing waits, and until then it
starts all jobs accepted and no more than the trees have that were accepted from callers. So does an
executor that is let go after any script. -/
theorem worker_comes_to_end (name : String) :
    (∀ acts : List (MessageLoop.Act α),
        ((MessageLoop.spawn name).after acts).ComesToEnd ((MessageLoop.spawn name).record acts)) ∧
      ∀ script : List (Op α),
        MessageLoop.RunsDry ((spawn name).after (script ++ [.release])).toMessageLoop
          (recordOf name (script ++ [.release])) :=
  ⟨MessageLoop.comesToEnd_after name, runsDry_released name⟩

/-- A job queues another one, shuts the executor down and fails. A caller that waits and one that
comes later find the channel closed. The other job is started behind the failure, and then the loop
is left. -/
example :
    let acts : List (MessageLoop.Act Nat) :=
      [.offer (.execute (.log 1 .finish) (.shutdown (.crash (.execute .finish .finish)))), .work,
        .work, .work, .await, .offer .finish, .work, .work, .work, .work]
    ((MessageLoop.spawn "worker").after acts).stopped = true ∧
      (startedIn ((MessageLoop.spawn "worker").record acts)).map Prod.fst = [0, 1] ∧
      nodesIn ((MessageLoop.spawn "worker").record acts) = 3 := by
  refine ⟨rfl, rfl, rfl⟩

end Executor

end AccessStatus
