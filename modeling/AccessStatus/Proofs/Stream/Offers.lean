import AccessStatus.Proofs.History
import AccessStatus.Proofs.Stream.Notifier

/-!
# What a gate lets pass

There are two ways through a gate: a value is offered, or somebody asks whether it would change
anything and forces it if so. Both come to the same, and a run leaves in the gate what was stored
last since the last reset (`current_after`), the value at the beginning included. All this holds of
every test of equality, also of one by which a value differs from itself, or by which values are
equal that can be told apart; what is stored is then the value itself and not one that is equal to
it. The main statement is `offers_decided`.
-/

namespace AccessStatus

namespace Gate

variable {α : Type}

/-! ## The history of a gate -/

/-- A gate at its beginning, empty or with a value that counts as stored. -/
def beginning : Option α → Gate α
  | none => empty
  | some v => holding v

theorem current_beginning (initial : Option α) : (beginning initial).current = initial := by
  cases initial <;> rfl

/-- The value that is stored with a request and its answer: one that is forced, or offered and
accepted. -/
def stored? : Op α × Answer α → Option α
  | (.force v, _) => some v
  | (.offer v, .accepted true) => some v
  | _ => none

/-- Whether the stored value is forgotten with a request. -/
def forgets : Op α × Answer α → Bool
  | (.reset, _) => true
  | _ => false

/-- The value stored last: since the last reset if there was one, else the one at the beginning
counts as well. -/
def lastStored (initial : Option α) (record : List (Op α × Answer α)) : Option α :=
  (latest stored? (since forgets record)).or (if record.any forgets then none else initial)

/-- One more request stores a value, forgets all, or leaves what was stored last. -/
theorem lastStored_concat (initial : Option α) (record : List (Op α × Answer α))
    (x : Op α × Answer α) :
    lastStored initial (record ++ [x]) =
      if forgets x then none else (stored? x).or (lastStored initial record) := by
  unfold lastStored
  rw [since_concat, List.any_append]
  cases forgot : forgets x with
  | true => simp [forgot]
  | false =>
    have kept : [x].any forgets = false := by simp [forgot]
    rw [if_neg Bool.false_ne_true, if_neg Bool.false_ne_true, latest_concat, kept, Bool.or_false,
      Option.or_assoc]

/-- Nothing is stored after a history that has no value at the beginning, or a reset, and stores
nothing after that. -/
theorem lastStored_eq_none_iff (initial : Option α) (record : List (Op α × Answer α)) :
    lastStored initial record = none ↔
      (∀ x ∈ since forgets record, stored? x = none) ∧
        (initial = none ∨ ∃ x ∈ record, forgets x = true) := by
  have nothing : latest stored? (since forgets record) = none ↔
      ∀ x ∈ since forgets record, stored? x = none := by
    rw [latest, List.getLast?_eq_none_iff, List.filterMap_eq_nil_iff]
  rw [lastStored, Option.or_eq_none_iff, nothing, ← List.any_eq_true]
  cases record.any forgets <;> simp

section Run

variable [BEq α]

/-- A gate after a run of requests. -/
def after (g : Gate α) (run : List (Op α)) : Gate α := run.foldl (fun g op => (g.step op).1) g

/-- The requests of a run with their answers. -/
def record (g : Gate α) : List (Op α) → List (Op α × Answer α)
  | [] => []
  | op :: run => (op, (g.step op).2) :: (g.step op).1.record run

/-- The last operation of a run works on what the others left. -/
theorem after_concat (g : Gate α) (run : List (Op α)) (op : Op α) :
    g.after (run ++ [op]) = ((g.after run).step op).1 := by
  unfold after
  rw [List.foldl_append]
  rfl

/-- Its answer stands last on the record. -/
theorem record_concat (g : Gate α) (run : List (Op α)) (op : Op α) :
    g.record (run ++ [op]) = g.record run ++ [(op, ((g.after run).step op).2)] := by
  induction run generalizing g with
  | nil => rfl
  | cons first run ih =>
    rw [List.cons_append, record, ih]
    rfl

/-! ## What a request stores -/

/-- A refused offer leaves the very value that is there. -/
theorem offer_of_refused {g : Gate α} {v : α} (refused : (g.offer v).2 = false) :
    g.offer v = (g, false) := by
  rw [accepted_offer] at refused
  rw [offer_eq, refused]
  rfl

/-- An offer that is accepted does what forcing the value does. -/
theorem offer_of_accepted {g : Gate α} {v : α} (accepted : (g.offer v).2 = true) :
    g.offer v = (g.force v, true) := by
  rw [accepted_offer] at accepted
  rw [offer_eq, accepted]
  rfl

/-- A request leaves in the gate what it stores, or else what was there unless it forgets that. -/
theorem current_step (g : Gate α) (op : Op α) :
    (g.step op).1.current =
      if forgets (op, (g.step op).2) then none else (stored? (op, (g.step op).2)).or g.current := by
  cases op with
  | offer v =>
    rw [step]
    cases answer : (g.offer v).2 with
    | true =>
      rw [offer_of_accepted answer]
      rfl
    | false =>
      rw [offer_of_refused answer]
      rfl
  | force v => rfl
  | wouldChange v => rfl
  | reset => rfl

/-- A run leaves in the gate what was stored last since the last reset. -/
theorem current_after (initial : Option α) (run : List (Op α)) :
    ((beginning initial).after run).current =
      lastStored initial ((beginning initial).record run) := by
  induction run using List.reverseRecOn with
  | nil => exact current_beginning initial
  | append_singleton run op ih =>
    rw [after_concat, record_concat, current_step, lastStored_concat, ih]

/-! ## What is accepted -/

/-- A value would change an empty gate, and one that holds a value from which it differs. -/
theorem wouldChange_iff (g : Gate α) (v : α) :
    g.wouldChange v = true ↔ g.current = none ∨ ∃ last, g.current = some last ∧
      (last == v) = false := by
  unfold wouldChange
  cases g.current with
  | none => simp
  | some last => simp [bne]

/-- What decides on an offer of `v` after a run of a gate, and what the offer leaves. -/
structure Decided (initial : Option α) (run : List (Op α)) (v : α) : Prop where
  /-- An offer is the question whether the value would change anything, and the value forced if
  so. -/
  twoWays : ∀ g : Gate α, g.offer v = if g.wouldChange v then (g.force v, true) else (g, false)
  /-- A notifier, which goes the second way, decides as an offer does and keeps the same value. -/
  published : ∀ (n : Notifier α) live, (n.step live (.publishIfChanged v)).answer =
    .found (n.gate.offer v).2 ∧
    (n.step live (.publishIfChanged v)).notifier.gate = (n.gate.offer v).1
  /-- The gate is empty if nothing was stored since the beginning or the last reset. -/
  empty : ((beginning initial).after run).current = none ↔
    (∀ x ∈ since forgets ((beginning initial).record run), stored? x = none) ∧
      (initial = none ∨ ∃ x ∈ (beginning initial).record run, forgets x = true)
  /-- An offer is accepted by an empty gate, and if the value differs from the one stored last. -/
  accepted : (((beginning initial).after run).offer v).2 = true ↔
    ((beginning initial).after run).current = none ∨
      ∃ last, lastStored initial ((beginning initial).record run) = some last ∧ (last == v) = false
  /-- A refused offer leaves the very value that was stored last. -/
  refused : (((beginning initial).after run).offer v).2 = false →
    (((beginning initial).after run).offer v).1.current =
      lastStored initial ((beginning initial).record run)
  /-- An accepted one leaves the value that was offered. -/
  stores : (((beginning initial).after run).offer v).2 = true →
    (((beginning initial).after run).offer v).1.current = some v
  /-- If only equal values pass for equal, the stored value is always refused. -/
  again : (∀ a b : α, (a == b) = true ↔ a = b) → ((beginning initial).after run).current = some v →
    ((beginning initial).after run).offer v = ((beginning initial).after run, false)

/-- After every run of a gate, whatever its values and their test of equality, an offer is decided
by the value stored last. -/
theorem offers_decided (initial : Option α) (run : List (Op α)) (v : α) :
    Decided initial run v := by
  have holds := current_after initial run
  constructor
  · intro g
    exact offer_eq g v
  · intro n live
    rw [accepted_offer, offer_eq]
    refine ⟨rfl, ?_⟩
    show (n.publishIfChanged live v).1.gate = _
    unfold Notifier.publishIfChanged
    cases n.gate.wouldChange v <;> rfl
  · rw [holds]
    exact lastStored_eq_none_iff initial _
  · rw [accepted_offer, wouldChange_iff, holds]
  · intro refused
    rw [offer_of_refused refused, holds]
  · intro accepted
    rw [offer_of_accepted accepted]
    rfl
  · intro lawful same
    apply offer_of_refused
    rw [accepted_offer, ← Bool.not_eq_true, wouldChange_iff, same]
    rintro (empty | ⟨last, stored, differs⟩)
    · cases empty
    · cases stored
      rw [(lawful v v).2 rfl] at differs
      cases differs

end Run

/-- Amounts of which two are equal that can be told apart, and one differs from itself. -/
inductive Amount where
  | zero | negativeZero | undefined

instance : BEq Amount where
  beq
    | .undefined, _ | _, .undefined => false
    | _, _ => true

/-- The zero that came first stays, and what is not defined is stored again and again. -/
example :
    ((beginning none).record
      [.offer Amount.zero, .offer .negativeZero, .reset, .force .undefined, .offer .undefined]) =
    [(.offer .zero, .accepted true), (.offer .negativeZero, .accepted false),
      (.reset, .removed (some .zero)),
      (.force .undefined, .done), (.offer .undefined, .accepted true)] := rfl

end Gate

end AccessStatus
