import AccessStatus.Proofs.Stream.Subscribers
import AccessStatus.Proofs.Stream.World
import Mathlib.Data.List.Chain

/-!
# A notifier and the mailboxes it fills

Consumers are created, register, take what they were sent, and die, in any order between the
operations on one notifier. From a registration on, and until something is done to it again, a
consumer has exactly one registration (`Subscribed.next`); so it receives what is published, each
value once and in order, behind the value replayed to it.
-/

namespace AccessStatus

variable {α : Type} [BEq α]

namespace Notifier

/-- The notifier after an operation, and what the operation sends. -/
def serve : Serving (Notifier α) (Op α) α := fun n live op =>
  ((n.step live op).notifier, (n.step live op).sent)

/-- Nothing is ever sent to a consumer that is not live. -/
theorem discreet_serve : (serve : Serving (Notifier α) (Op α) α).Discreet :=
  fun n _ op _ dead => n.received_step_of_dead dead op

end Notifier

/-- A notifier and all mailboxes. -/
abbrev Exchange (α : Type) := World (Notifier α) α

namespace Exchange

open Notifier (serve discreet_serve)

/-! ## Runs -/

/-- What can happen: the notifier is asked for something, or something happens to the mailboxes. -/
abbrev Act (α : Type) := World.Act (Notifier.Op α)

/-- A registration, with replay or without. -/
def registration (withReplay : Bool) (c : ConsumerId) (tag : Tag) : Act α :=
  .ask (if withReplay then .registerWithReplay c tag else .register c tag)

/-- The act neither registers, removes nor kills the consumer, and does not clear the notifier. -/
def Act.Spares (c : ConsumerId) : Act α → Prop
  | .ask op => op.Spares c
  | .happen e => e.Spares c

/-- The act publishes only what the gate lets pass. -/
def Act.Gated : Act α → Prop
  | .ask op => op.Gated
  | .happen _ => True

/-- What an act publishes. -/
def publishedBy (w : Exchange α) : Act α → List α
  | .ask op => (w.state.published? w.room.live op).toList
  | .happen _ => []

/-- What a run publishes. -/
def published (w : Exchange α) : List (Act α) → List α
  | [] => []
  | act :: run => w.publishedBy act ++ published (w.next serve act) run

/-! ## One act and one registration -/

/-- A live consumer has this one registration and no other. -/
structure Subscribed (w : Exchange α) (c : ConsumerId) (tag : Tag) : Prop where
  opened : w.room.Opened c
  live : w.room.live c = true
  alone : w.state.registry.registrationsOf c = [⟨c, tag, none⟩]

/-- With replay or without, the notifier keeps the registration. -/
theorem state_registration (w : Exchange α) (withReplay : Bool) (c : ConsumerId) (tag : Tag) :
    (w.next serve (registration withReplay c tag)).state = w.state.register c tag := by
  cases withReplay <;> rfl

/-- A registration makes nobody live or dead. -/
theorem live_registration (w : Exchange α) (withReplay : Bool) (c : ConsumerId) (tag : Tag) :
    (w.next serve (registration withReplay c tag)).room.live = w.room.live := w.live_ask _

/-- A registration replaces whatever registrations the consumer had. -/
theorem subscribed_registration (w : Exchange α) {c : ConsumerId} (opened : w.room.Opened c)
    (alive : w.room.live c = true) (withReplay : Bool) (tag : Tag) :
    Subscribed (w.next serve (registration withReplay c tag)) c tag := by
  refine ⟨World.opened_next opened _, ?_, ?_⟩
  · rw [live_registration]
    exact alive
  · rw [state_registration]
    exact w.state.registry.registrationsOf_addUnique_self ⟨c, tag, none⟩

/-- A registration with replay tells a live consumer the value published last. -/
theorem received_registration (w : Exchange α) (withReplay : Bool) (c : ConsumerId) (tag : Tag) :
    received c (w.sentBy serve (registration withReplay c tag)) =
      if w.room.live c then
        (if withReplay then w.state.current.toList else []).map (Notification.plain tag)
      else [] := by
  cases withReplay with
  | true => exact w.state.received_registerWithReplay w.room.live c tag
  | false => exact (ite_self _).symm

section Subscribed

variable {w : Exchange α} {c : ConsumerId} {tag : Tag} (subscribed : Subscribed w c tag)
  {act : Act α} (spared : act.Spares c)
include subscribed spared

/-- The registration stays as it is as long as nothing is done to its consumer. -/
theorem Subscribed.next : Subscribed (w.next serve act) c tag := by
  obtain ⟨opened, live, alone⟩ := subscribed
  cases act with
  | ask op =>
    refine ⟨World.opened_next opened _, (congrFun (w.live_ask op) c).trans live, ?_⟩
    exact (w.state.step_cases live spared).1.trans alone
  | happen e =>
    exact ⟨World.opened_next opened _, (w.room.live_afterEvent opened spared).trans live, alone⟩

/-- A subscribed consumer is sent what an act publishes, under its tag, and nothing else. -/
theorem Subscribed.received_sentBy :
    received c (w.sentBy serve act) = (publishedBy w act).map (Notification.plain tag) := by
  cases act with
  | ask op =>
    show received c (w.state.step w.room.live op).sent =
      (w.state.published? w.room.live op).toList.map _
    obtain ⟨-, ⟨v, publishes, told⟩ | ⟨silent, untold⟩⟩ :=
      w.state.step_cases subscribed.live spared
    · rw [publishes, told, subscribed.alone]
      rfl
    · rw [silent, untold]
      rfl
  | happen e => rfl

end Subscribed

/-- An act publishes at most one value. -/
theorem publishedBy_cases (w : Exchange α) (act : Act α) :
    publishedBy w act = [] ∨ ∃ v, publishedBy w act = [v] := by
  cases act with
  | ask op =>
    show (w.state.published? w.room.live op).toList = [] ∨
      ∃ v, (w.state.published? w.room.live op).toList = [v]
    cases w.state.published? w.room.live op with
    | none => exact Or.inl rfl
    | some v => exact Or.inr ⟨v, rfl⟩
  | happen e => exact Or.inl rfl

/-- What a gated act publishes is not what was published last. -/
theorem ne_of_publishedBy [LawfulBEq α] (w : Exchange α) {act : Act α} (gated : act.Gated) {u v : α}
    (last : w.state.current = some u) (publishes : v ∈ publishedBy w act) : u ≠ v := by
  cases act with
  | ask op => exact Notifier.ne_of_published? gated last (Option.mem_toList.1 publishes)
  | happen e => cases publishes

/-- What an act publishes last is remembered; an act that publishes nothing and does not clear
changes nothing. -/
theorem current_next (w : Exchange α) {c : ConsumerId} {act : Act α} (spared : act.Spares c) :
    (w.next serve act).state.current = (publishedBy w act).getLast?.or w.state.current := by
  cases act with
  | ask op =>
    refine (w.state.current_step w.room.live spared).trans ?_
    show _ = (w.state.published? w.room.live op).toList.getLast?.or _
    cases w.state.published? w.room.live op <;> rfl
  | happen e => rfl

/-! ## Whole runs -/

/-- In a run that spares a subscribed consumer, it is sent exactly what is published, under its
tag. -/
theorem Subscribed.received_sent {w : Exchange α} {c : ConsumerId} {tag : Tag}
    (subscribed : Subscribed w c tag) {run : List (Act α)} (spared : ∀ act ∈ run, act.Spares c) :
    received c (w.sent serve run) = (published w run).map (Notification.plain tag) := by
  induction run generalizing w with
  | nil => rfl
  | cons act run ih =>
    have here := spared act List.mem_cons_self
    have now := subscribed.received_sentBy here
    have rest := ih (subscribed.next here) fun a h => spared a (List.mem_cons_of_mem _ h)
    show received c (w.sentBy serve act ++ (w.next serve act).sent serve run) =
      (publishedBy w act ++ published (w.next serve act) run).map (Notification.plain tag)
    rw [received_append, now, rest, List.map_append]

/-- Without clearing, the value remembered is the last one published, or else the one before the
run. -/
theorem current_after (w : Exchange α) {c : ConsumerId} {run : List (Act α)}
    (spared : ∀ act ∈ run, act.Spares c) :
    (w.after serve run).state.current = (published w run).getLast?.or w.state.current := by
  induction run generalizing w with
  | nil => rfl
  | cons act run ih =>
    have now := current_next w (spared act List.mem_cons_self)
    have rest := ih (w.next serve act) fun a h => spared a (List.mem_cons_of_mem _ h)
    show ((w.next serve act).after serve run).state.current =
      (publishedBy w act ++ published (w.next serve act) run).getLast?.or w.state.current
    rw [rest, now, List.getLast?_append, Option.or_assoc]

/-- With lawful equality, gated publications never publish a value twice in a row, nor first the one
remembered. -/
theorem isChain_published [LawfulBEq α] (w : Exchange α) {c : ConsumerId} {run : List (Act α)}
    (spared : ∀ act ∈ run, act.Spares c) (gated : ∀ act ∈ run, act.Gated) :
    (w.state.current.toList ++ published w run).IsChain (· ≠ ·) := by
  induction run generalizing w with
  | nil =>
    show (w.state.current.toList ++ []).IsChain (· ≠ ·)
    cases w.state.current <;> simp
  | cons act run ih =>
    have now := current_next w (spared act List.mem_cons_self)
    have rest := ih (w.next serve act) (fun a h => spared a (List.mem_cons_of_mem _ h))
      fun a h => gated a (List.mem_cons_of_mem _ h)
    show (w.state.current.toList ++
      (publishedBy w act ++ published (w.next serve act) run)).IsChain (· ≠ ·)
    -- the value remembered stands in front, where the next one published is compared with it
    rcases publishedBy_cases w act with none | ⟨v, one⟩
    · rw [none, List.nil_append]
      rw [now, none] at rest
      exact rest
    · rw [one]
      rw [now, one] at rest
      cases last : w.state.current with
      | none => exact rest
      | some u =>
        have distinct := ne_of_publishedBy w (gated act List.mem_cons_self) last
          (one ▸ List.mem_singleton_self v)
        exact List.isChain_cons_cons.2 ⟨distinct, rest⟩

/-! ## From a registration on -/

/-- What a consumer is owed since it registered: the value remembered at that time, if it asked for
it, and then whatever was published. -/
def owed (w : Exchange α) (withReplay : Bool) (c : ConsumerId) (tag : Tag) (later : List (Act α)) :
    List α :=
  (if withReplay then w.state.current.toList else []) ++
    published (w.next serve (registration withReplay c tag)) later

/-- A live consumer receives what it is owed, under its tag; a dead one receives nothing. -/
theorem received_owed (w : Exchange α) (withReplay : Bool) {c : ConsumerId} (tag : Tag)
    {later : List (Act α)} (opened : w.room.Opened c) (spared : ∀ act ∈ later, act.Spares c) :
    received c (w.sent serve (registration withReplay c tag :: later)) =
      if w.room.live c then (owed w withReplay c tag later).map (Notification.plain tag)
      else [] := by
  cases alive : w.room.live c with
  | true =>
    have replayed := received_registration w withReplay c tag
    have subscribed := subscribed_registration w opened alive withReplay tag
    show received c (w.sentBy serve (registration withReplay c tag) ++
      (w.next serve (registration withReplay c tag)).sent serve later) = _
    rw [received_append, replayed, subscribed.received_sent spared, if_pos alive, if_pos rfl, owed,
      List.map_append]
  | false => exact World.received_sent_of_dead discreet_serve ⟨opened, alive⟩ _

/-- The last value owed is the one remembered at the end. -/
theorem current_of_owed (w : Exchange α) {withReplay : Bool} {c : ConsumerId} {tag : Tag}
    {later : List (Act α)} (spared : ∀ act ∈ later, act.Spares c) {v : α}
    (last : (owed w withReplay c tag later).getLast? = some v) :
    (w.after serve (registration withReplay c tag :: later)).state.current = some v := by
  have final := current_after (w.next serve (registration withReplay c tag)) spared
  rw [state_registration, Notifier.current_register] at final
  refine final.trans ?_
  rw [owed, List.getLast?_append] at last
  -- what was published since comes last; if nothing was, the value owed is the one replayed
  cases since : (published (w.next serve (registration withReplay c tag)) later).getLast? with
  | some u =>
    rw [since, Option.some_or] at last
    rw [Option.some_or, last]
  | none =>
    rw [since, Option.none_or] at last
    rw [Option.none_or]
    cases withReplay with
    | true =>
      cases current : w.state.current with
      | none =>
        rw [current] at last
        cases last
      | some u =>
        rw [current] at last
        exact last
    | false => cases last

/-- With lawful equality, no value is owed twice in a row if all was published through the gate. -/
theorem isChain_owed [LawfulBEq α] (w : Exchange α) {withReplay : Bool} {c : ConsumerId} {tag : Tag}
    {later : List (Act α)} (spared : ∀ act ∈ later, act.Spares c)
    (gated : ∀ act ∈ later, act.Gated) :
    (owed w withReplay c tag later).IsChain (· ≠ ·) := by
  have chain := isChain_published (w.next serve (registration withReplay c tag)) spared gated
  rw [state_registration, Notifier.current_register] at chain
  cases withReplay with
  | true => exact chain
  | false => exact chain.right_of_append

/-- Whatever happened before, a live consumer that registers receives what it is owed, under the tag
of that registration, for as long as nothing is done to it and the notifier is not cleared; a dead
one receives nothing. All it received is taken or pending, in order. The last value it received is
the current one, and if the gate let pass all that was published since, no value came twice in a
row. -/
theorem received_since_registration (w : Exchange α) (withReplay : Bool) (c : ConsumerId)
    (tag : Tag) (later : List (Act α)) (opened : w.room.Opened c)
    (spared : ∀ act ∈ later, act.Spares c) :
    let run := registration withReplay c tag :: later
    let got := received c (w.sent serve run)
    got = (if w.room.live c then (owed w withReplay c tag later).map (Notification.plain tag)
        else []) ∧
      w.taken serve c run ++ (w.after serve run).room.pending c = w.room.pending c ++ got ∧
      (∀ last ∈ got.getLast?, (w.after serve run).state.current = some last.value) ∧
      (∀ [LawfulBEq α], (∀ act ∈ later, act.Gated) →
        (got.map Notification.value).IsChain (· ≠ ·)) := by
  intro run got
  -- the other three follow from what is received
  have received_got : got =
      if w.room.live c then (owed w withReplay c tag later).map (Notification.plain tag) else [] :=
    received_owed w withReplay tag opened spared
  refine ⟨received_got, ?_, ?_, ?_⟩
  · have lossless : World.Lossless serve c w run := by
      refine World.lossless_of_spared w fun e happens => ?_
      rcases List.mem_cons.1 happens with registers | since
      · cases registers
      · exact spared _ since
    exact lossless.taken_append_pending discreet_serve
  · intro last final
    rw [received_got] at final
    split at final
    · rw [List.getLast?_map] at final
      obtain ⟨v, lastOwed, rfl⟩ := Option.map_eq_some_iff.1 final
      exact current_of_owed w spared lastOwed
    · cases final
  · intro _ gated
    rw [received_got]
    split
    · rw [List.map_map]
      show ((owed w withReplay c tag later).map id).IsChain (· ≠ ·)
      rw [List.map_id]
      exact isChain_owed w spared gated
    · exact List.isChain_nil

/-- Two consumers, the value 3 published before. -/
def lateScene : Exchange Nat := ⟨.holding "level" "levels" 3, Mailroom.empty.openBox.openBox⟩

/-- Publications, of which one is refused, while the other consumer registers and dies. -/
def lateRun : List (Act Nat) :=
  [.ask (.publishIfChanged 5), .ask (.register ⟨1⟩ ⟨4⟩), .ask (.publishIfChanged 5),
    .happen (.takeFirst ⟨0⟩), .happen (.invalidate ⟨1⟩), .ask (.publishIfChanged 3)]

/-- The consumer is told the value published before it registered, and then what passed the gate. -/
theorem received_lateRun :
    lateScene.room.Opened ⟨0⟩ ∧ (∀ act ∈ lateRun, act.Spares ⟨0⟩) ∧
      received ⟨0⟩ (lateScene.sent serve (registration true ⟨0⟩ ⟨7⟩ :: lateRun)) =
        [3, 5, 3].map (Notification.plain ⟨7⟩) ∧
      (lateScene.after serve (registration true ⟨0⟩ ⟨7⟩ :: lateRun)).state.current = some 3 ∧
      ([3, 5, 3] : List Nat).IsChain (· ≠ ·) := by
  have opened : lateScene.room.Opened ⟨0⟩ := by unfold Mailroom.Opened; decide
  have spared : ∀ act ∈ lateRun, act.Spares ⟨0⟩ := by
    simp [lateRun, Act.Spares, Notifier.Op.Spares, Mailroom.Event.Spares]
  have gated : ∀ act ∈ lateRun, act.Gated := by simp [lateRun, Act.Gated, Notifier.Op.Gated]
  obtain ⟨got, -, final, distinct⟩ :=
    received_since_registration lateScene true ⟨0⟩ ⟨7⟩ lateRun opened spared
  have apart := distinct gated
  rw [got] at apart final
  exact ⟨opened, spared, got, final (Notification.plain ⟨7⟩ 3) rfl, apart⟩

end Exchange

end AccessStatus
