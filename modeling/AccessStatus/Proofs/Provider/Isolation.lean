import AccessStatus.Proofs.Provider.Slots
import AccessStatus.Proofs.Stream.Unwinding

/-!
# Slots do not disturb each other

A directory serves a world of consumers, each of which registers for one slot only. For every slot a
run comes to the same as the run without the requests about other slots: the requests about the slot
have the same answers, the slot's consumers receive and take the same, and the same thresholds are
pushed and the same requests made to the source of registration status for it
(`Directory.slots_isolated`).
-/

namespace AccessStatus

namespace Directory

/-- How a directory serves a world of consumers. -/
def serve : Serving Directory Op Notice := fun d live op =>
  let result := d.step live op
  (result.directory, result.effects.sent)

/-- The request is about another slot. -/
def Op.aboutOther (slot : SlotIndex) (op : Op) : Bool := op.slot?.any fun j => j ≠ slot

/-- The request closes nothing that slots share, and registers a consumer for that consumer's slot
only. -/
structure Op.Fair (owner : ConsumerId → SlotIndex) (op : Op) : Prop where
  keepsOpen : op.keepsOpen = true
  own : op.Own owner

/-- The answer to a request about a slot. -/
def answersFor (slot : SlotIndex) (d : Directory) (live : Liveness) (op : Op) : List Answer :=
  if op.slot? = some slot then [(d.step live op).answer] else []

/-- The thresholds that a request pushes for a slot. -/
def pushesFor (slot : SlotIndex) (d : Directory) (live : Liveness) (op : Op) : List ThresholdPush :=
  (d.step live op).effects.pushedFor slot

/-- What a request asks of the source of registration status for a slot. -/
def callsFor (slot : SlotIndex) (d : Directory) (live : Liveness) (op : Op) : List SourceCall :=
  (d.step live op).effects.callsFor slot

/-- What is about another slot names it. -/
theorem aboutOther_eq_true {slot : SlotIndex} {op : Op} (other : op.aboutOther slot = true) :
    ∃ j, op.slot? = some j ∧ j ≠ slot := by
  obtain ⟨j, about, differs⟩ := (Option.any_eq_true _ _).1 other
  exact ⟨j, about, of_decide_eq_true differs⟩

/-- What is shown to a slot names no other slot. -/
theorem aboutOther_eq_false {slot : SlotIndex} {op : Op} (shows : op.aboutOther slot = false)
    (j : SlotIndex) (about : op.slot? = some j) : j = slot := by
  unfold Op.aboutOther at shows
  rw [about] at shows
  exact Decidable.not_not.1 (of_decide_eq_false shows)

/-! ## No slot notices requests about others -/

section Slot

variable (owner : ConsumerId → SlotIndex) (slot : SlotIndex)

/-- A slot and its consumers do not notice requests about other slots. -/
theorem unwinds :
    World.Unwinds serve (Op.aboutOther slot) (owner · = slot) (Op.Fair owner) (Housed owner)
      (SameAt slot) where
  good _ live _ housed fair := housed.step live fair.keepsOpen fair.own
  alike d e live op housedD housedE same fair shows := by
    obtain ⟨kept, effects⟩ :=
      same.step housedD housedE live fair.keepsOpen fair.own (aboutOther_eq_false shows)
    exact ⟨kept, effects.sent⟩
  unnoticed d e live op housed same fair hides := by
    obtain ⟨j, about, other⟩ := aboutOther_eq_true hides
    obtain ⟨kept, effects⟩ := sameAt_step_of_other housed live fair.keepsOpen fair.own about other
    exact ⟨kept.trans same, effects.sent⟩

/-- A slot sees its own answers, whatever is done at another one. -/
theorem sees_answers :
    World.Sees (Op.aboutOther slot) (Op.Fair owner) (Housed owner) (SameAt slot)
      (answersFor slot) where
  alike d e live op housedD housedE same fair shows := by
    unfold answersFor
    split
    · rename_i mine
      rw [(same.step_of_slot housedD.isOpen housedE.isOpen live mine).1]
    · rfl
  unnoticed d live op housed fair hides := by
    obtain ⟨j, about, other⟩ := aboutOther_eq_true hides
    refine if_neg ?_
    rw [about]
    exact fun same => other (Option.some.inj same)

/-- It sees its own threshold pushes, whatever is done at another one. -/
theorem sees_pushes :
    World.Sees (Op.aboutOther slot) (Op.Fair owner) (Housed owner) (SameAt slot)
      (pushesFor slot) where
  alike d e live op housedD housedE same fair shows :=
    (same.step housedD housedE live fair.keepsOpen fair.own (aboutOther_eq_false shows)).2.pushed
  unnoticed d live op housed fair hides := by
    obtain ⟨j, about, other⟩ := aboutOther_eq_true hides
    exact (sameAt_step_of_other housed live fair.keepsOpen fair.own about other).2.pushed

/-- It sees its own source calls, whatever is done at another one. -/
theorem sees_calls :
    World.Sees (Op.aboutOther slot) (Op.Fair owner) (Housed owner) (SameAt slot)
      (callsFor slot) where
  alike d e live op housedD housedE same fair shows :=
    (same.step housedD housedE live fair.keepsOpen fair.own (aboutOther_eq_false shows)).2.calls
  unnoticed d live op housed fair hides := by
    obtain ⟨j, about, other⟩ := aboutOther_eq_true hides
    exact (sameAt_step_of_other housed live fair.keepsOpen fair.own about other).2.calls

end Slot

/-! ## Runs -/

/-- A run without the requests about other slots. -/
def withoutOthers (slot : SlotIndex) (run : List (World.Act Op)) : List (World.Act Op) :=
  World.unhidden (Op.aboutOther slot) run

/-- For a slot and its consumers a run comes to the same as the run without the requests about other
slots. -/
structure Isolated (owner : ConsumerId → SlotIndex) (slot : SlotIndex) (w : World Directory Notice)
    (run : List (World.Act Op)) : Prop where
  /-- The requests about the slot have the same answers. -/
  answers : w.observed serve (answersFor slot) run =
    w.observed serve (answersFor slot) (withoutOthers slot run)
  /-- The slot's consumers are sent the same, take the same and have the same pending. -/
  received : ∀ c, owner c = slot →
    received c (w.sent serve run) = received c (w.sent serve (withoutOthers slot run))
  taken : ∀ c, owner c = slot → w.taken serve c run = w.taken serve c (withoutOthers slot run)
  pending : ∀ c, owner c = slot →
    (w.after serve run).room.pending c = (w.after serve (withoutOthers slot run)).room.pending c
  /-- The same thresholds are pushed and the same is asked of the source of registration status. -/
  pushes : w.observed serve (pushesFor slot) run =
    w.observed serve (pushesFor slot) (withoutOthers slot run)
  calls : w.observed serve (callsFor slot) run =
    w.observed serve (callsFor slot) (withoutOthers slot run)
  /-- In the end the same is known of the slot. -/
  state : SameAt slot (w.after serve run).state (w.after serve (withoutOthers slot run)).state

/-- A world is like itself to every slot. -/
theorem alike_refl {owner : ConsumerId → SlotIndex} (slot : SlotIndex)
    {w : World Directory Notice} (housed : w.state.Housed owner) :
    World.Alike (owner · = slot) (Housed owner) (SameAt slot) w w :=
  ⟨housed, housed, .refl slot _, .refl _ _⟩

/-- **Slot isolation.** Of an open directory, wherever a run of it begins, no slot notices the
requests about others. -/
theorem slots_isolated {options : Options} {config : Config} {d : Directory}
    (built : build options config = .ok d) (room : Mailroom Notice)
    {owner : ConsumerId → SlotIndex} {before run : List (World.Act Op)}
    (fair : ∀ op ∈ World.asked (before ++ run), op.Fair owner) (slot : SlotIndex) :
    Isolated owner slot ((World.mk d room).after serve before) run := by
  have fairBefore : ∀ op ∈ World.asked before, op.Fair owner := by
    intro op asks
    refine fair op ?_
    rw [World.asked, List.filterMap_append]
    exact List.mem_append_left _ asks
  have fairRun : ∀ op ∈ World.asked run, op.Fair owner := by
    intro op asks
    refine fair op ?_
    rw [World.asked, List.filterMap_append]
    exact List.mem_append_right _ asks
  -- where the run begins, all is still with its slot
  have start : (World.mk d room).state.Housed owner := housed_build built
  have housed := ((unwinds owner slot).run (alike_refl slot start) fairBefore).after.good
  have alike := alike_refl slot housed
  have same := (unwinds owner slot).run alike fairRun
  exact
    { answers := (unwinds owner slot).observed_eq (sees_answers owner slot) alike fairRun
      received := same.received
      taken := same.taken
      pending := fun c mine => same.after.room.pending_eq mine
      pushes := (unwinds owner slot).observed_eq (sees_pushes owner slot) alike fairRun
      calls := (unwinds owner slot).observed_eq (sees_calls owner slot) alike fairRun
      state := same.after.state }

/-- Two slots without an entry in the configuration. -/
def twoSlots : Directory := ⟨default, .empty, .fresh, .empty, false⟩

/-- Consumer 0 is used for slot 0 and consumer 1 for slot 1. Both slots are registered while Wi-Fi
becomes the default network; slot 0 blocks version 6 by then, and stops doing so without telling
anybody. After that slot 1 is closed and opened again, and only then the change is announced. -/
def reopenedNeighbour : List (World.Act Op) :=
  [.ask (.provider ⟨0⟩), .ask (.provider ⟨1⟩), .ask (.availability (.register ⟨0⟩ ⟨0⟩ ⟨4⟩)),
    .ask (.availability (.register ⟨1⟩ ⟨1⟩ ⟨5⟩)),
    .ask (.ask ⟨⟨0⟩, 0⟩ (.registration (.register ⟨0⟩ ⟨6⟩))),
    .ask (.ask ⟨⟨1⟩, 0⟩ (.registration (.register ⟨1⟩ ⟨7⟩))),
    .ask (.ask ⟨⟨1⟩, 0⟩ (.post (.registered true))),
    .ask (.ask ⟨⟨0⟩, 0⟩ (.post (.registered true))), .ask (.config (.setBlock ⟨0⟩ true)),
    .ask (.network (.available ⟨9⟩ .wifi none)), .ask (.config (.setBlock ⟨0⟩ false)),
    .ask (.closeSlot ⟨1⟩), .ask (.provider ⟨1⟩), .happen (.takeFirst ⟨0⟩),
    .ask (.ask ⟨⟨1⟩, 1⟩ (.post (.crossSim true))), .ask .configChanged, .ask (.closeSlot ⟨0⟩)]

theorem fair_reopenedNeighbour :
    ∀ op ∈ World.asked reopenedNeighbour, op.Fair fun c => if c = ⟨0⟩ then ⟨0⟩ else ⟨1⟩ := by
  have checked : ∀ op ∈ World.asked reopenedNeighbour, op.keepsOpen = true ∧
      ∀ x ∈ op.registers, (if x.2 = ⟨0⟩ then (⟨0⟩ : SlotIndex) else ⟨1⟩) = x.1 := by decide
  intro op asks
  exact ⟨(checked op asks).1, (checked op asks).2⟩

theorem isolated_reopenedNeighbour :
    build default .empty = .ok twoSlots ∧
      (∀ op ∈ World.asked reopenedNeighbour, op.Fair fun c => if c = ⟨0⟩ then ⟨0⟩ else ⟨1⟩) ∧
      Isolated (fun c => if c = ⟨0⟩ then ⟨0⟩ else ⟨1⟩) ⟨0⟩
        ⟨twoSlots, Mailroom.empty.openBox.openBox⟩ reopenedNeighbour ∧
      (received ⟨0⟩ ((World.mk twoSlots Mailroom.empty.openBox.openBox).sent serve
        reopenedNeighbour)).map
        Notification.value =
          [.availability ⟨0⟩ .unavailable, .availability ⟨0⟩ (.available false)] := by
  have built : build default .empty = .ok twoSlots := rfl
  have fair : ∀ op ∈ World.asked ([] ++ reopenedNeighbour), op.Fair fun c =>
      if c = ⟨0⟩ then ⟨0⟩ else ⟨1⟩ :=
    fair_reopenedNeighbour
  exact ⟨built, fair_reopenedNeighbour,
    slots_isolated built Mailroom.empty.openBox.openBox fair ⟨0⟩, by decide⟩

end Directory

end AccessStatus
