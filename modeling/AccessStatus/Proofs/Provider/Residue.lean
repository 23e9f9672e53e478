import AccessStatus.Proofs.Availability.Forgetting
import AccessStatus.Proofs.Provider.Lifecycle
import AccessStatus.Proofs.Stream.Translation

/-!
# What is left of a slot that was closed

Nothing is left. A directory after a slot with an open provider was closed is, but for the handles
that were given out, the directory as it would be if nothing had ever been asked about the slot:
what is asked about a slot makes no difference to what is left without it (`unwinds_without`), and
from there on both directories do the same (`Ahead.step`). The providers that are opened later are
counted from the handles given out before, so the requests are compared with the generations taken
down by as many.
-/

namespace AccessStatus

namespace Directory

/-! ## Directories without a slot -/

/-- Two directories that agree in every part are the same. -/
theorem eq_of_parts {d e : Directory} (options : d.options = e.options)
    (config : d.config = e.config) (availability : d.availability = e.availability)
    (bays : d.bays = e.bays) (isClosed : d.isClosed = e.isClosed) : d = e := by
  obtain ⟨options', config', availability', bays', isClosed'⟩ := d
  obtain rfl := options
  obtain rfl := config
  obtain rfl := availability
  obtain rfl := bays
  obtain rfl := isClosed
  rfl

/-- The directory with nothing known of a slot. -/
def without (slot : SlotIndex) (d : Directory) : Directory :=
  { d with bays := d.bays.erase slot, availability := d.availability.closeSlot slot }

/-- A new directory knows nothing of any slot. -/
theorem without_build {options : Options} {config : Config} {d : Directory}
    (built : build options config = .ok d) (slot : SlotIndex) : d.without slot = d := by
  unfold build at built
  split at built
  · cases built
  · obtain rfl := Except.ok.inj built
    exact eq_of_parts rfl rfl (AvailabilityMonitor.forget_fresh slot) (Table.erase_empty slot) rfl

section Without

variable (d : Directory) {slot j : SlotIndex}

/-- Leaving a slot out leaves the other slots. -/
theorem bay_without_of_ne (other : j ≠ slot) : (d.without slot).bay j = d.bay j := by
  unfold bay without
  rw [Table.get?_erase_of_ne _ other]

/-- The slot left out has had no provider. -/
theorem bay_without_self (slot : SlotIndex) : (d.without slot).bay slot = .empty := by
  unfold bay without
  rw [Table.get?_erase_self]
  rfl

/-- Leaving a slot out does not close the directory. -/
theorem isClosed_without (slot : SlotIndex) : (d.without slot).isClosed = d.isClosed := rfl

/-- Handles of the other slots find what they found. -/
theorem find?_without_of_ne {h : Handle} (other : h.slot ≠ slot) :
    (d.without slot).find? h = d.find? h := by
  unfold find?
  rw [d.bay_without_of_ne other]

/-- What is posted to the shared monitor about no slot, or another one, comes to the same without
the slot. -/
theorem post_without (live : Liveness) {o : AvailabilityMonitor.Op} (other : o.slot? ≠ some slot) :
    (d.post live o).directory.without slot = ((d.without slot).post live o).directory := by
  unfold post
  rw [d.isClosed_without]
  split
  · rfl
  · exact eq_of_parts rfl rfl (d.availability.forget_next_of_other d.config.source live other) rfl
      rfl

end Without

section Step

variable {d : Directory} (sound : d.Sound) (live : Liveness) {slot : SlotIndex} {op : Op}
include sound

/-- What was asked about a slot makes no difference without it. -/
theorem Sound.without_step_of_slot (mine : op.slot? = some slot) :
    (d.step live op).directory.without slot = d.without slot := by
  cases op with
  | provider j =>
    obtain rfl : j = slot := Option.some.inj mine
    unfold Directory.step provider
    dsimp only
    split
    · rfl
    · split
      · rfl
      · split
        · rfl
        · exact eq_of_parts rfl rfl rfl (Table.erase_set_self _ j _) rfl
  | ask h o =>
    obtain rfl : h.slot = slot := Option.some.inj mine
    unfold Directory.step ask
    dsimp only
    split
    · rfl
    · rename_i p found
      have own := ((sound.bays h.slot).providers p (List.mem_of_getElem? found)).slot
      refine eq_of_parts rfl rfl ?_ (Table.erase_set_self _ h.slot _) rfl
      show (p.step d.config.source live d.availability o).availability.closeSlot h.slot =
        d.availability.closeSlot h.slot
      rw [p.step_eq]
      -- a provider asks the shared monitor about its own slot only
      cases asked : p.asks o with
      | none => rfl
      | some q =>
        have about : q.slot? = some h.slot := by rw [(Provider.slot_of_asks asked).1, own]
        exact d.availability.forget_next_of_slot d.config.source live about
  | closeSlot j =>
    obtain rfl : j = slot := Option.some.inj mine
    unfold Directory.step closeSlot
    dsimp only
    split
    · rfl
    · rename_i p current
      refine eq_of_parts rfl rfl ?_ (Table.erase_set_self _ j _) rfl
      show (if p.isClosed then d.availability else d.availability.closeSlot j).closeSlot j =
        d.availability.closeSlot j
      split
      · rfl
      · exact d.availability.forget_twice j
  | availability o =>
    exact eq_of_parts rfl rfl (d.availability.forget_next_of_slot d.config.source live mine) rfl rfl
  | network event => cases mine
  | configChanged => cases mine
  | flush => cases mine
  | close => cases mine
  | config o => cases mine

/-- What is asked otherwise comes to the same without the slot. -/
theorem Sound.without_step_of_other (other : op.slot? ≠ some slot) :
    (d.step live op).directory.without slot = ((d.without slot).step live op).directory := by
  cases op with
  | provider j =>
    have differs : j ≠ slot := fun same => other (congrArg some same)
    have bay := d.bay_without_of_ne differs
    have options : (d.without slot).options = d.options := rfl
    unfold Directory.step provider
    dsimp only
    rw [bay, options, d.isClosed_without]
    split
    · rfl
    · split
      · rfl
      · split
        · rfl
        · exact eq_of_parts rfl rfl rfl (Table.erase_set_of_ne _ differs _) rfl
  | ask h o =>
    have differs : h.slot ≠ slot := fun same => other (congrArg some same)
    have same := d.find?_without_of_ne differs
    have bay := d.bay_without_of_ne differs
    unfold Directory.step ask
    dsimp only
    rw [same, bay]
    cases found : d.find? h with
    | none => rfl
    | some p =>
      have own := ((sound.bays h.slot).providers p (List.mem_of_getElem? found)).slot
      dsimp only
      rw [p.step_eq _ _ d.availability, p.step_eq _ _ (d.without slot).availability]
      refine eq_of_parts rfl rfl ?_ (Table.erase_set_of_ne _ differs _) rfl
      -- what is asked of the shared monitor is about another slot as well
      cases asked : p.asks o with
      | none => rfl
      | some q =>
        have about : q.slot? ≠ some slot := by
          rw [(Provider.slot_of_asks asked).1, own]
          exact other
        exact d.availability.forget_next_of_other d.config.source live about
  | closeSlot j =>
    have differs : j ≠ slot := fun same => other (congrArg some same)
    have bay := d.bay_without_of_ne differs
    unfold Directory.step closeSlot
    dsimp only
    rw [bay]
    cases (d.bay j).current with
    | none => rfl
    | some p =>
      refine eq_of_parts rfl rfl ?_ (Table.erase_set_of_ne _ differs _) rfl
      show (if p.isClosed then d.availability else d.availability.closeSlot j).closeSlot slot =
        if p.isClosed then d.availability.closeSlot slot
          else (d.availability.closeSlot slot).closeSlot j
      split
      · rfl
      · have apart : AvailabilityMonitor.Op.slot? (.closeSlot j) ≠ some slot := other
        exact d.availability.forget_next_of_other d.config.source live apart
  | close =>
    unfold Directory.step close
    dsimp only
    rw [d.isClosed_without]
    split
    · rfl
    · refine eq_of_parts rfl rfl ?_ (Table.erase_mapEntries _ d.bays slot) rfl
      have apart : AvailabilityMonitor.Op.slot? .close ≠ some slot := fun same => nomatch same
      exact d.availability.forget_next_of_other d.config.source live apart
  | availability o =>
    exact eq_of_parts rfl rfl (d.availability.forget_next_of_other d.config.source live other) rfl
      rfl
  | network event => exact d.post_without live other
  | configChanged => exact d.post_without live other
  | flush => rfl
  | config o => rfl

end Step

/-- The request is about the slot. -/
def Op.about (slot : SlotIndex) (op : Op) : Bool := op.slot? = some slot

/-- Without a slot nobody could tell that anything was asked about it. -/
theorem unwinds_without (slot : SlotIndex) :
    World.Unwinds serve (Op.about slot) (fun _ => False)
      (fun _ => True) Sound (fun d e => d.without slot = e) where
  good _ live op sound _ := sound.step live op
  alike d e live op sound _ same _ shows := by
    refine ⟨?_, fun _ none => none.elim⟩
    subst same
    exact sound.without_step_of_other live (of_decide_eq_false shows)
  unnoticed d e live op sound same _ hides := by
    refine ⟨?_, fun _ none => none.elim⟩
    subst same
    exact sound.without_step_of_slot live (of_decide_eq_true hides)

end Directory

/-! ## Generations taken down -/

/-- The handle as it would be if so many fewer providers had been opened for the slot. -/
def Handle.lowered (slot : SlotIndex) (n : Nat) (h : Handle) : Handle :=
  if h.slot = slot then ⟨slot, h.generation - n⟩ else h

/-- The handle as it is if so many more providers were opened for the slot. -/
def Handle.raised (slot : SlotIndex) (n : Nat) (h : Handle) : Handle :=
  if h.slot = slot then ⟨slot, h.generation + n⟩ else h

namespace Directory

/-- The request with its handle lowered. -/
def Op.lowered (slot : SlotIndex) (n : Nat) : Op → Op
  | .ask h o => .ask (h.lowered slot n) o
  | op => op

/-- The answer with its handle raised. -/
def Answer.raised (slot : SlotIndex) (n : Nat) : Answer → Answer
  | .provider h => .provider (h.raised slot n)
  | .plain a => .plain a

theorem Answer.raised_self (slot : SlotIndex) (n g : Nat) :
    (Answer.provider ⟨slot, g⟩).raised slot n = .provider ⟨slot, g + n⟩ :=
      congrArg Answer.provider (if_pos rfl)

theorem Answer.raised_of_ne {slot j : SlotIndex} (other : j ≠ slot) (n g : Nat) :
    (Answer.provider ⟨j, g⟩).raised slot n = .provider ⟨j, g⟩ :=
      congrArg Answer.provider (if_neg other)

/-- The request uses none of the handles to the first providers that were opened for the slot. -/
def Op.Spares (slot : SlotIndex) (n : Nat) : Op → Prop
  | .ask h _ => h.slot = slot → n ≤ h.generation
  | .provider _ | .network _ | .configChanged | .flush | .closeSlot _ | .close | .availability _ |
    .config _ => True

instance (slot : SlotIndex) (n : Nat) (op : Op) : Decidable (op.Spares slot n) :=
  match op with
  | .ask h _ => inferInstanceAs (Decidable (h.slot = slot → n ≤ h.generation))
  | .provider _ | .network _ | .configChanged | .flush | .closeSlot _ | .close | .availability _ |
    .config _ => .isTrue trivial

end Directory

namespace Bay

variable {b : Bay} (old : List Provider)

/-- The same providers, opened behind others that are handed out no more. -/
def behind (b : Bay) (old : List Provider) : Bay := ⟨old ++ b.opened, b.isOpen⟩

/-- A generation counts from behind the old ones. -/
theorem opened_behind (n : Nat) : (b.behind old).opened[old.length + n]? = b.opened[n]? := by
  unfold behind
  rw [List.getElem?_append_right (Nat.le_add_right _ _), Nat.add_sub_cancel_left]

/-- A provider behind the old ones is put back behind them. -/
theorem put_behind (n : Nat) (p : Provider) :
    (b.behind old).put (old.length + n) p = (b.put n p).behind old := by
  unfold behind put
  rw [List.set_append_right _ _ (Nat.le_add_right _ _), Nat.add_sub_cancel_left]

section Handed

variable (handed : b.isOpen = true → b.opened ≠ [])
include handed

/-- The old providers are not the current one. -/
theorem current_behind : (b.behind old).current = b.current := by
  unfold current behind
  cases isOpen : b.isOpen with
  | false => rfl
  | true =>
    have last : b.opened.getLast? = some (b.opened.getLast (handed isOpen)) :=
      List.getLast?_eq_some_getLast _
    rw [if_pos rfl, if_pos rfl, List.getLast?_append, last, Option.some_or]

/-- Closing a slot closes what stands behind the old ones, and leaves these. -/
theorem close_behind : (b.behind old).close = (b.close.1.behind old, b.close.2) := by
  unfold Bay.close
  rw [b.current_behind old handed]
  cases current : b.current with
  | none => rfl
  | some p =>
    have some := List.length_pos_iff.2 (handed (of_current current).1)
    have latest : (b.behind old).opened.length - 1 = old.length + (b.opened.length - 1) := by
      unfold behind
      rw [List.length_append]
      omega
    dsimp only
    rw [latest, put_behind]
    rfl

end Handed

end Bay

namespace Directory

/-! ## Directories that differ in what was handed out before -/

/-- Two directories differ at most in that for a slot other providers were opened before in the
one. -/
structure Ahead (slot : SlotIndex) (old : List Provider) (d e : Directory) : Prop where
  options : d.options = e.options
  config : d.config = e.config
  availability : d.availability = e.availability
  isClosed : d.isClosed = e.isClosed
  bay : d.bay slot = (e.bay slot).behind old
  others : ∀ j, j ≠ slot → d.bay j = e.bay j

/-- Two outcomes are the same but for what was opened before. -/
structure Outcome.Alike (slot : SlotIndex) (old : List Provider) (x y : Outcome) : Prop where
  directory : Ahead slot old x.directory y.directory
  answer : x.answer = y.answer.raised slot old.length
  effects : x.effects = y.effects

/-- The same providers are handed out by directories in which the same provider is handed out for
each slot. -/
theorem handed_congr {d e : Directory} (same : ∀ j, (d.bay j).current = (e.bay j).current) :
    d.bays.values.filterMap Bay.current = e.bays.values.filterMap Bay.current := by
  refine Table.filterMap_values_congr fun j => ?_
  rw [bind_current, bind_current, same]

/-- What closing everything asks of the source is what the providers that are handed out ask. -/
theorem calls_of_current (bays : List Bay) :
    (bays.flatMap fun bay => bay.close.2) = (bays.filterMap Bay.current).flatMap fun p =>
      p.closed.2 := by
  induction bays with
  | nil => rfl
  | cons bay bays ih =>
    rw [List.flatMap_cons, ih]
    unfold Bay.close
    cases current : bay.current with
    | none => rw [List.filterMap_cons_none current, List.nil_append]
    | some p => rw [List.filterMap_cons_some current, List.flatMap_cons]

section Ahead

variable {slot : SlotIndex} {old : List Provider} {d e : Directory} (ahead : Ahead slot old d e)
include ahead

/-- Two directories, one ahead at a slot, have the same slots open. -/
theorem Ahead.isOpen (j : SlotIndex) : (d.bay j).isOpen = (e.bay j).isOpen := by
  by_cases mine : j = slot
  · rw [mine, ahead.bay]
    rfl
  · rw [ahead.others j mine]

/-- A change of the providers of one slot in both directories. -/
theorem Ahead.set {d' e' : Directory} {j : SlotIndex} {b c : Bay}
    (first : d'.bays = d.bays.set j b) (second : e'.bays = e.bays.set j c)
    (options : d'.options = e'.options) (config : d'.config = e'.config)
    (availability : d'.availability = e'.availability) (isClosed : d'.isClosed = e'.isClosed)
    (own : j = slot → b = c.behind old) (other : j ≠ slot → b = c) : Ahead slot old d' e' := by
  refine ⟨options, config, availability, isClosed, ?_, fun i differs => ?_⟩
  · rw [bay_set d first, bay_set e second]
    split
    · rename_i same
      exact own same.symm
    · exact ahead.bay
  · rw [bay_set d first, bay_set e second]
    split
    · rename_i same
      exact other (same ▸ differs)
    · exact ahead.others i differs

/-- The shared monitor answers the same in both. -/
theorem Ahead.onAvailability (live : Liveness) (o : AvailabilityMonitor.Op) :
    Outcome.Alike slot old (d.onAvailability live o) (e.onAvailability live o) := by
  have same : d.availability.step d.config.source live o =
      e.availability.step e.config.source live o := by
    rw [ahead.availability, ahead.config]
  constructor
  · exact ⟨ahead.options, ahead.config, congrArg (·.monitor) same, ahead.isClosed, ahead.bay,
      ahead.others⟩
  · exact congrArg (fun outcome => Answer.plain outcome.answer) same
  · exact congrArg (fun outcome => Effects.ofAvailability outcome.sent) same

/-- So does the worker of the directory. -/
theorem Ahead.post (live : Liveness) (o : AvailabilityMonitor.Op) :
    Outcome.Alike slot old (d.post live o) (e.post live o) := by
  have asked := ahead.onAvailability live o
  unfold Directory.post workerClosed
  rw [ahead.isClosed, ahead.options]
  split
  · exact ⟨ahead, rfl, rfl⟩
  · exact ⟨asked.directory, rfl, asked.effects⟩

section Ask

variable {h : Handle} (spares : h.slot = slot → old.length ≤ h.generation)
include spares

/-- The handles that were given out since stand for the same providers. -/
theorem Ahead.find?_lowered : d.find? h = e.find? (h.lowered slot old.length) := by
  unfold find? Handle.lowered
  by_cases mine : h.slot = slot
  · obtain ⟨n, later⟩ := Nat.exists_eq_add_of_le (spares mine)
    rw [if_pos mine, mine, ahead.bay, later, Bay.opened_behind, Nat.add_sub_cancel_left]
  · rw [if_neg mine, ahead.others _ mine]

/-- A provider that is asked answers the same in both, if it is none of those opened before. -/
theorem Ahead.ask (live : Liveness) (o : Provider.Op) :
    Outcome.Alike slot old (d.ask live h o) (e.ask live (h.lowered slot old.length) o) := by
  have sameSlot : (h.lowered slot old.length).slot = h.slot := by
    unfold Handle.lowered
    split
    · rename_i mine
      exact mine.symm
    · rfl
  unfold Directory.ask
  rw [ahead.find?_lowered spares, sameSlot]
  cases e.find? (h.lowered slot old.length) with
  | none => exact ⟨ahead, rfl, rfl⟩
  | some p =>
    have same : p.step d.config.source live d.availability o =
        p.step e.config.source live e.availability o := by
      rw [ahead.config, ahead.availability]
    dsimp only
    rw [same]
    -- where the provider stands depends on how many were opened before
    refine ⟨ahead.set rfl rfl ahead.options ahead.config rfl ahead.isClosed (fun mine => ?_)
      fun other => ?_, rfl, rfl⟩
    · obtain ⟨n, later⟩ := Nat.exists_eq_add_of_le (spares mine)
      unfold Handle.lowered
      rw [if_pos mine, mine, ahead.bay, later, Bay.put_behind, Nat.add_sub_cancel_left]
    · unfold Handle.lowered
      rw [if_neg other, ahead.others _ other]

end Ask

variable (sound : e.Sound)
include sound

/-- They have the same current providers. -/
theorem Ahead.current (j : SlotIndex) : (d.bay j).current = (e.bay j).current := by
  by_cases mine : j = slot
  · rw [mine, ahead.bay]
    exact Bay.current_behind old (sound.bays slot).handed
  · rw [ahead.others j mine]

/-- A provider that is asked for is the same in both, but for what was opened before. -/
theorem Ahead.provider (j : SlotIndex) : Outcome.Alike slot old (d.provider j) (e.provider j) := by
  unfold Directory.provider
  rw [ahead.options, ahead.isClosed]
  split
  · exact ⟨ahead, rfl, rfl⟩
  · split
    · exact ⟨ahead, rfl, rfl⟩
    · dsimp only
      rw [ahead.isOpen]
      by_cases mine : j = slot
      · -- generations go on from those that were opened before
        subst mine
        have opened : (d.bay j).opened = old ++ (e.bay j).opened := congrArg Bay.opened ahead.bay
        split
        · rename_i handed
          have some := List.length_pos_iff.2 ((sound.bays j).handed handed)
          have latest : old.length + (e.bay j).opened.length - 1 =
            (e.bay j).opened.length - 1 + old.length := by omega
          refine ⟨ahead, ?_, rfl⟩
          rw [Answer.raised_self, opened, List.length_append, latest]
        · refine ⟨ahead.set rfl rfl rfl ahead.config ahead.availability rfl (fun _ => ?_)
            fun other => absurd rfl other, ?_, rfl⟩
          · unfold Bay.behind
            rw [opened, List.append_assoc]
          · rw [Answer.raised_self, opened, List.length_append, Nat.add_comm]
      · -- at another slot both have the same providers
        rw [ahead.others j mine]
        split
        · exact ⟨ahead, (Answer.raised_of_ne mine _ _).symm, rfl⟩
        · refine ⟨ahead.set rfl rfl rfl ahead.config ahead.availability rfl
            (fun same => absurd same mine) fun _ => rfl, ?_, rfl⟩
          exact (Answer.raised_of_ne mine _ _).symm

/-- What is closed for a slot is the same in both. -/
theorem Ahead.closeSlot (j : SlotIndex) :
    Outcome.Alike slot old (d.closeSlot j) (e.closeSlot j) := by
  have closes : (d.bay j).close.2 = (e.bay j).close.2 := by
    by_cases mine : j = slot
    · rw [mine, ahead.bay, Bay.close_behind old (sound.bays slot).handed]
    · rw [ahead.others j mine]
  unfold Directory.closeSlot
  dsimp only
  rw [ahead.current sound]
  cases (e.bay j).current with
  | none => exact ⟨ahead, rfl, rfl⟩
  | some p =>
    have shared : (if p.isClosed then d.availability else d.availability.closeSlot j) =
        if p.isClosed then e.availability else e.availability.closeSlot j := by
          rw [ahead.availability]
    refine ⟨ahead.set rfl rfl ahead.options ahead.config shared ahead.isClosed (fun mine => ?_)
      fun other => ?_, rfl, ?_⟩
    · rw [mine, ahead.bay, Bay.close_behind old (sound.bays slot).handed]
    · rw [ahead.others j other]
    · exact congrArg (Effects.mk [] []) closes

/-- Closing everything closes the same providers in both, in the same order. -/
theorem Ahead.close : Outcome.Alike slot old d.close e.close := by
  unfold Directory.close
  rw [ahead.isClosed]
  split
  · exact ⟨ahead, rfl, rfl⟩
  · refine ⟨⟨ahead.options, ahead.config, congrArg (·.close) ahead.availability, rfl, ?_,
      fun j other => ?_⟩, rfl, ?_⟩
    · refine (bay_closeAll (d := d) rfl slot).trans
        (Eq.trans ?_ (congrArg (·.behind old) (bay_closeAll (d := e) rfl slot).symm))
      rw [ahead.bay, Bay.close_behind old (sound.bays slot).handed]
    · refine (bay_closeAll (d := d) rfl j).trans (Eq.trans ?_ (bay_closeAll (d := e) rfl j).symm)
      rw [ahead.others j other]
    · -- the tables may differ by a bay of which nothing is handed out
      have handed := handed_congr (ahead.current sound)
      show Effects.mk [] [] (d.bays.values.flatMap fun bay => bay.close.2) = _
      rw [calls_of_current, handed, ← calls_of_current]

/-- Such directories go on alike, if what was opened before is left alone. -/
theorem Ahead.step (live : Liveness) {op : Op} (spares : op.Spares slot old.length) :
    Outcome.Alike slot old (d.step live op) (e.step live (op.lowered slot old.length)) := by
  cases op with
  | provider j => exact ahead.provider sound j
  | ask h o => exact ahead.ask spares live o
  | closeSlot j => exact ahead.closeSlot sound j
  | close => exact ahead.close sound
  | network event => exact ahead.post live (.network event)
  | configChanged => exact ahead.post live .configChanged
  | availability o => exact ahead.onAvailability live o
  | flush =>
    have same : d.flushed = e.flushed := by
      unfold flushed workerClosed
      rw [ahead.isClosed, ahead.options, handed_congr (ahead.current sound)]
    exact ⟨ahead, congrArg (fun result => Answer.plain (.ofExcept result)) same, rfl⟩
  | config o =>
    refine ⟨⟨ahead.options, ?_, ahead.availability, ahead.isClosed, ahead.bay, ahead.others⟩, rfl,
      rfl⟩
    exact congrArg (·.step o) ahead.config

end Ahead

/-- Once a slot with an open provider is closed, the directory is as it would be without the slot,
but for what was opened before. -/
theorem Sound.ahead_closeSlot {d : Directory} (sound : d.Sound) (live : Liveness)
    {slot : SlotIndex} {p : Provider} (handed : (d.bay slot).current = some p)
    (isOpen : p.isClosed = false) :
    Ahead slot (d.bay slot).close.1.opened (d.step live (.closeSlot slot)).directory
      (d.without slot) := by
  have shut := (sound.bays slot).close.2.1
  unfold Directory.step closeSlot
  dsimp only
  rw [handed]
  refine ⟨rfl, rfl, ?_, rfl, ?_, fun j other => ?_⟩
  · -- an open provider has its slot forgotten by the shared monitor
    show (if p.isClosed then d.availability else d.availability.closeSlot slot) = _
    rw [isOpen]
    rfl
  · rw [d.bay_set_self rfl, bay_without_self]
    unfold Bay.behind
    rw [Bay.empty, List.append_nil, ← shut]
  · rw [d.bay_set rfl, if_neg other, d.bay_without_of_ne other]

/-! ## Runs -/

/-- A run without the requests about a slot. -/
def withoutSlot (slot : SlotIndex) (run : List (World.Act Op)) : List (World.Act Op) :=
  World.unhidden (Op.about slot) run

/-- A run with the handles of a slot lowered. -/
def lowered (slot : SlotIndex) (n : Nat) (run : List (World.Act Op)) : List (World.Act Op) :=
  World.translated (Op.lowered slot n) run

/-- A run in one world comes to the same as in another in which so many fewer providers were opened
for a slot. -/
structure Unmarked (slot : SlotIndex) (n : Nat) (w v : World Directory Notice)
    (run : List (World.Act Op)) : Prop where
  /-- The same is answered, but for the generations of the slot's providers. -/
  answers : w.observed serve (fun d live op => [(d.step live op).answer]) run =
    (v.observed serve (fun d live op => [(d.step live op).answer]) (lowered slot n run)).map
      (Answer.raised slot n)
  /-- All consumers are sent the same, and take the same if they had the same pending at the
  beginning. -/
  sent : w.sent serve run = v.sent serve (lowered slot n run)
  taken : ∀ c, w.room.box? c = v.room.box? c →
    w.taken serve c run = v.taken serve c (lowered slot n run)
  /-- The same thresholds are pushed and the same is asked of the source of registration status. -/
  pushes : w.observed serve (fun d live op => (d.step live op).effects.pushed) run =
    v.observed serve (fun d live op => (d.step live op).effects.pushed) (lowered slot n run)
  calls : w.observed serve (fun d live op => (d.step live op).effects.calls) run =
    v.observed serve (fun d live op => (d.step live op).effects.calls) (lowered slot n run)

/-- Where only what was opened before differs, requests come to the same as with their handles
lowered. -/
theorem translates_lowered (slot : SlotIndex) (old : List Provider) :
    World.Translates serve (Op.lowered slot old.length) (Op.Spares slot old.length)
      (fun d e => Ahead slot old d e ∧ e.Sound) := by
  rintro d e live op ⟨ahead, sound⟩ spares
  have step := ahead.step sound live spares
  exact ⟨⟨step.directory, sound.step live (op.lowered slot old.length)⟩,
    congrArg Effects.sent step.effects⟩

/-- A run that spares the old handles comes to the same in both, but for the generations. -/
theorem Ahead.unmarked {w v : World Directory Notice} {slot : SlotIndex} {old : List Provider}
    (ahead : Ahead slot old w.state v.state) (sound : v.state.Sound)
    (valid : w.room.boxes.map Mailbox.valid = v.room.boxes.map Mailbox.valid)
    {run : List (World.Act Op)} (spares : ∀ op ∈ World.asked run, op.Spares slot old.length) :
    Unmarked slot old.length w v run := by
  have translates := translates_lowered slot old
  have room : w.room.SameFor (fun c => w.room.box? c = v.room.box? c) v.room :=
    ⟨valid, fun _ same => same⟩
  have done := translates.run ⟨ahead, sound⟩ room spares
  constructor
  · rw [← World.observed_map]
    refine translates.observed_eq ⟨ahead, sound⟩ room ?_ spares
    rintro d e live op ⟨ahead, sound⟩ spares
    exact congrArg (fun answer => [answer]) (ahead.step sound live spares).answer
  · exact done.sent
  · exact done.taken
  · refine translates.observed_eq ⟨ahead, sound⟩ room ?_ spares
    rintro d e live op ⟨ahead, sound⟩ spares
    exact congrArg Effects.pushed (ahead.step sound live spares).effects
  · refine translates.observed_eq ⟨ahead, sound⟩ room ?_ spares
    rintro d e live op ⟨ahead, sound⟩ spares
    exact congrArg Effects.calls (ahead.step sound live spares).effects

/-- **Nothing is left of a slot that was closed.** After a run at the end of which a slot with an
open provider is closed, every run that uses no handle given out for the slot before comes to the
same as if nothing had been asked about the slot. -/
theorem closing_leaves_nothing {options : Options} {config : Config} {d : Directory}
    (built : build options config = .ok d) (room : Mailroom Notice)
    {before later : List (World.Act Op)} {slot : SlotIndex} {p : Provider}
    (handed : (((World.mk d room).after serve before).state.bay slot).current = some p)
    (isOpen : p.isClosed = false)
    (spares : ∀ op ∈ World.asked later,
      op.Spares slot (((World.mk d room).after serve before).state.bay slot).opened.length) :
    Unmarked slot (((World.mk d room).after serve before).state.bay slot).opened.length
      ((World.mk d room).after serve (before ++ [.ask (.closeSlot slot)]))
      ((World.mk d room).after serve (withoutSlot slot before)) later := by
  have start : (World.mk d room).state.Sound := sound_build built
  have begins : World.Alike (fun _ => False) Sound (fun d e => d.without slot = e)
      (World.mk d room) ⟨d, room⟩ :=
    ⟨start, start, without_build built slot, .refl _ room⟩
  -- until the slot is closed all is as in the other run, but for the slot itself
  have alike :=
    ((unwinds_without slot).run begins fun _ _ =>
      trivial : World.Unnoticed _ _ _ _ _ _ _ before).after
  have sound := alike.good
  rw [World.after_concat]
  have ahead := sound.ahead_closeSlot ((World.mk d room).after serve before).room.live handed isOpen
  rw [alike.state] at ahead
  have valid := (Mailroom.valid_deliverAll ((World.mk d room).after serve before).room
    (((World.mk d room).after serve before).sentBy serve (.ask (.closeSlot slot)))).trans
      alike.room.valid
  rw [← Bay.length_close] at spares ⊢
  exact Ahead.unmarked
    (w := ((World.mk d room).after serve before).next serve (.ask (.closeSlot slot)))
    ahead alike.goodToo valid spares

/-- Consumers watch the availability and the registration of slot 0, which is registered and has
cross-SIM calling switched on, while the default network belongs to another subscription and slot 1
is used too. -/
def wellUsed : List (World.Act Op) :=
  [.ask (.config (.setSlot ⟨⟨0⟩, some ⟨5⟩, false, false⟩)), .ask (.provider ⟨0⟩),
    .ask (.provider ⟨1⟩), .ask (.availability (.register ⟨0⟩ ⟨0⟩ ⟨4⟩)),
    .ask (.ask ⟨⟨0⟩, 0⟩ (.registration (.register ⟨0⟩ ⟨5⟩))),
    .ask (.ask ⟨⟨0⟩, 0⟩ (.post (.registered true))), .ask (.ask ⟨⟨0⟩, 0⟩ (.post (.crossSim true))),
    .ask (.ask ⟨⟨1⟩, 0⟩ (.post (.registered true))),
    .ask (.network (.available ⟨9⟩ .cellular (some ⟨6⟩)))]

/-- Slot 0 is opened again, watched, and registered again. -/
def usedAgain : List (World.Act Op) :=
  [.ask (.provider ⟨0⟩), .ask (.availability (.register ⟨0⟩ ⟨1⟩ ⟨6⟩)),
    .ask (.ask ⟨⟨0⟩, 1⟩ (.registration (.register ⟨1⟩ ⟨7⟩))),
    .ask (.ask ⟨⟨0⟩, 1⟩ (.post (.registered true))), .ask (.ask ⟨⟨0⟩, 1⟩ (.post (.crossSim true))),
    .happen (.takeFirst ⟨1⟩), .ask (.closeSlot ⟨0⟩), .ask .flush]

theorem leaves_nothing_wellUsed :
    build default .empty = .ok twoSlots ∧
      (((World.mk twoSlots Mailroom.empty.openBox.openBox).after serve wellUsed).state.bay
        ⟨0⟩).current.any
        (fun p => !p.isClosed) = true ∧
      (∀ op ∈ World.asked usedAgain, op.Spares ⟨0⟩
        (((World.mk twoSlots Mailroom.empty.openBox.openBox).after serve wellUsed).state.bay
          ⟨0⟩).opened.length) ∧
      Unmarked ⟨0⟩ (((World.mk twoSlots Mailroom.empty.openBox.openBox).after serve
        wellUsed).state.bay ⟨0⟩).opened.length
        ((World.mk twoSlots Mailroom.empty.openBox.openBox).after serve
          (wellUsed ++ [.ask (.closeSlot ⟨0⟩)]))
        ((World.mk twoSlots Mailroom.empty.openBox.openBox).after serve (withoutSlot ⟨0⟩ wellUsed))
          usedAgain ∧
      (received ⟨1⟩ (((World.mk twoSlots Mailroom.empty.openBox.openBox).after serve
        (wellUsed ++ [.ask (.closeSlot ⟨0⟩)])).sent serve usedAgain)).map Notification.value =
        [.availability ⟨0⟩ .unavailable, .availability ⟨0⟩ (.available true)] := by
  have built : build default .empty = .ok twoSlots := rfl
  have handed : (((World.mk twoSlots Mailroom.empty.openBox.openBox).after serve wellUsed).state.bay
    ⟨0⟩).current.any
      (fun p => !p.isClosed) = true := by decide
  have spares : ∀ op ∈ World.asked usedAgain, op.Spares ⟨0⟩
      (((World.mk twoSlots Mailroom.empty.openBox.openBox).after serve wellUsed).state.bay
        ⟨0⟩).opened.length := by decide
  obtain ⟨p, current, isOpen⟩ := (Option.any_eq_true _ _).1 handed
  have closed : p.isClosed = false := by simpa using isOpen
  exact ⟨built, handed, spares,
    closing_leaves_nothing built Mailroom.empty.openBox.openBox current closed spares, by decide⟩

end Directory

end AccessStatus
