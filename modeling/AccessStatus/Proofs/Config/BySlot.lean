import AccessStatus.Config.Basic
import AccessStatus.Proofs.History
import Mathlib.Data.List.Nodup

/-!
# A configuration by slots

A configuration is a list of entries and answers like a map: for every slot there are settings, at
first none, and a change replaces all or one of them (`settings_after`). That the list is as good as
the map rests on one fact, that no slot has two entries. A document that is accepted has none, and
then it is just what its entries set one after the other (`after_setSlots`), so all that holds of
changes made to an empty configuration holds of those made to a document. The main statement is
`keyed_by_slot`.
-/

namespace AccessStatus

/-- What is configured for a slot, whichever slot it is. -/
structure Settings where
  subscription : Option SubscriptionId
  blockIpv6OnlyWifi : Bool
  crossSimCalling : Bool
  deriving DecidableEq

namespace Settings

/-- Nothing is configured. -/
def unset : Settings := ⟨none, false, false⟩

/-- The entry that gives a slot these settings. -/
def entryFor (s : Settings) (slot : SlotIndex) : SlotConfig :=
  ⟨slot, s.subscription, s.blockIpv6OnlyWifi, s.crossSimCalling⟩

end Settings

/-- The settings that an entry gives its slot. -/
def SlotConfig.settings (entry : SlotConfig) : Settings :=
  ⟨entry.subscription, entry.blockIpv6OnlyWifi, entry.crossSimCalling⟩

/-- Among values that are told apart by a key, the first with the key of one of them is that one. -/
theorem find?_key_of_mem {α κ : Type} [DecidableEq κ] {key : α → κ} {l : List α}
    (distinct : (l.map key).Nodup) {a : α} (there : a ∈ l) :
    (l.find? fun b => key b = key a) = some a := by
  cases found : l.find? fun b => key b = key a with
  | none => exact absurd (List.find?_eq_none.1 found a there) (by simp)
  | some b =>
    have same : key b = key a := by simpa using List.find?_some found
    rw [List.inj_on_of_nodup_map distinct (List.mem_of_find?_eq_some found) there same]

namespace Config

/-- The slots that have an entry, in order. -/
def listed (c : Config) : List SlotIndex := c.slots.map SlotConfig.slot

/-- The answers to the three questions about a slot. -/
def settings (c : Config) (slot : SlotIndex) : Settings :=
  ⟨c.source.subscription slot, c.source.blockIpv6OnlyWifi slot, c.source.crossSimCalling slot⟩

/-- The configuration after some changes. -/
def after (c : Config) (ops : List Op) : Config := ops.foldl step c

/-- The slot whose settings a change sets. -/
def Op.slot? : Op → Option SlotIndex
  | .setDefaultData _ => none
  | .setSlot entry => some entry.slot
  | .setCrossSim slot _ => some slot
  | .setBlock slot _ => some slot

/-- What a change makes the subscription for default data. -/
def Op.defaultData? : Op → Option (Option SubscriptionId)
  | .setDefaultData subscription => some subscription
  | _ => none

/-- What a change makes of the settings of all slots. -/
def revise (all : SlotIndex → Settings) : Op → SlotIndex → Settings
  | .setDefaultData _ => all
  | .setSlot entry =>
    Function.update all entry.slot
      ⟨entry.subscription, entry.blockIpv6OnlyWifi, entry.crossSimCalling⟩
  | .setCrossSim slot enabled =>
    Function.update all slot { all slot with crossSimCalling := enabled }
  | .setBlock slot block => Function.update all slot { all slot with blockIpv6OnlyWifi := block }

/-- Among the entries, the first whose slot an earlier one has is for this slot. -/
def FirstRepeats (entries : List SlotConfig) (slot : SlotIndex) : Prop :=
  ∃ before entry rest, entries = before ++ entry :: rest ∧ (before.map SlotConfig.slot).Nodup ∧
    slot ∈ before.map SlotConfig.slot ∧ entry.slot = slot

/-! ## Accepting a document -/

/-- The first entry repeats an earlier one, or a later entry is the first to do so. -/
theorem firstRepeat_cons (seen : List SlotIndex) (first : SlotConfig) (later : List SlotConfig) :
    firstRepeat seen (first :: later) =
      if first.slot ∈ seen then some first.slot else firstRepeat (first.slot :: seen) later := rfl

/-- Behind slots that were seen, nothing repeats exactly if the entries are for other slots, each of
which has one. -/
theorem firstRepeat_eq_none_iff (seen : List SlotIndex) (entries : List SlotConfig) :
    firstRepeat seen entries = none ↔
      (entries.map SlotConfig.slot).Nodup ∧ ∀ slot ∈ entries.map SlotConfig.slot, slot ∉ seen := by
  induction entries generalizing seen with
  | nil => simp [firstRepeat]
  | cons entry rest ih =>
    rw [firstRepeat_cons]
    by_cases known : entry.slot ∈ seen
    · simp [known]
    · rw [if_neg known, ih, List.map_cons, List.nodup_cons, List.forall_mem_cons]
      simp only [List.mem_cons, not_or]
      constructor
      · rintro ⟨unique, fresh⟩
        exact ⟨⟨fun again => (fresh _ again).1 rfl, unique⟩, known,
          fun slot later => (fresh slot later).2⟩
      · rintro ⟨⟨once, unique⟩, -, fresh⟩
        exact ⟨unique, fun slot later => ⟨fun same => once (same ▸ later), fresh slot later⟩⟩

/-- What repeats first behind slots that were seen: the entries before it are for other slots, each
of which has one. -/
theorem firstRepeat_eq_some_iff (seen : List SlotIndex) (entries : List SlotConfig)
    (slot : SlotIndex) :
    firstRepeat seen entries = some slot ↔
      ∃ before entry rest, entries = before ++ entry :: rest ∧ firstRepeat seen before = none ∧
        slot ∈ before.map SlotConfig.slot ++ seen ∧ entry.slot = slot := by
  induction entries generalizing seen with
  | nil => simp [firstRepeat]
  | cons first later ih =>
    rw [firstRepeat_cons]
    by_cases known : first.slot ∈ seen
    · rw [if_pos known]
      constructor
      · rintro ⟨⟩
        exact ⟨[], first, later, rfl, rfl, known, rfl⟩
      · rintro ⟨before, entry, rest, whole, nothing, -, rfl⟩
        -- the repetition is at the first entry, since nothing repeats before it
        rcases before with _ | ⟨e, before⟩
        · rw [(List.cons.inj whole).1]
        · obtain ⟨rfl, -⟩ := List.cons.inj whole
          rw [firstRepeat_cons, if_pos known] at nothing
          cases nothing
    · rw [if_neg known, ih]
      constructor
      · rintro ⟨before, entry, rest, rfl, nothing, repeats, named⟩
        refine ⟨first :: before, entry, rest, rfl, ?_, ?_, named⟩
        · rw [firstRepeat_cons, if_neg known, nothing]
        · simp only [List.map_cons, List.cons_append, List.mem_cons, List.mem_append] at repeats ⊢
          tauto
      · rintro ⟨before, entry, rest, whole, nothing, repeats, rfl⟩
        rcases before with _ | ⟨e, before⟩
        · obtain ⟨rfl, rfl⟩ := List.cons.inj whole
          exact absurd repeats known
        · obtain ⟨rfl, rfl⟩ := List.cons.inj whole
          rw [firstRepeat_cons, if_neg known] at nothing
          refine ⟨before, entry, rest, rfl, nothing, ?_, rfl⟩
          simp only [List.map_cons, List.cons_append, List.mem_cons, List.mem_append] at repeats ⊢
          tauto

/-- A configuration is accepted as it is if every slot that is listed is listed once. -/
theorem checked_of_nodup {c : Config} (unique : c.listed.Nodup) : c.checked = .ok c := by
  have nothing : firstRepeat [] c.slots = none :=
    (firstRepeat_eq_none_iff [] c.slots).2 ⟨unique, by simp⟩
  rw [checked, nothing]

/-- Otherwise it is refused for the slot of the first entry that repeats an earlier one. -/
theorem checked_eq_error_iff (c : Config) (e : StatusError) :
    c.checked = .error e ↔ ∃ slot, FirstRepeats c.slots slot ∧
      e = .config (.duplicateSlot slot) := by
  have repeats (slot : SlotIndex) : firstRepeat [] c.slots = some slot ↔
      FirstRepeats c.slots slot := by
    rw [firstRepeat_eq_some_iff, FirstRepeats]
    simp [firstRepeat_eq_none_iff]
  unfold checked
  cases found : firstRepeat [] c.slots with
  | none =>
    constructor
    · intro refused
      cases refused
    · rintro ⟨slot, first, -⟩
      cases found.symm.trans ((repeats slot).2 first)
  | some slot =>
    constructor
    · rintro ⟨⟩
      exact ⟨slot, (repeats slot).1 found, rfl⟩
    · rintro ⟨other, first, rfl⟩
      cases found.symm.trans ((repeats other).2 first)
      rfl

/-- A configuration passes the check exactly if no slot stands twice, and it passes unchanged. -/
theorem checked_eq_ok_iff (c d : Config) : c.checked = .ok d ↔ c.listed.Nodup ∧ d = c := by
  constructor
  · intro accepted
    unfold checked at accepted
    cases found : firstRepeat [] c.slots with
    | none =>
      rw [found] at accepted
      cases accepted
      exact ⟨((firstRepeat_eq_none_iff [] c.slots).1 found).1, rfl⟩
    | some slot =>
      rw [found] at accepted
      cases accepted
  · rintro ⟨unique, rfl⟩
    exact checked_of_nodup unique

/-! ## Changing one entry -/

theorem removeAll_singleton (slot : SlotIndex) (slots : List SlotIndex) :
    [slot].removeAll slots = if slot ∈ slots then [] else [slot] := by
  by_cases known : slot ∈ slots
  · rw [if_pos known]
    exact List.filter_eq_nil_iff.2 (by simpa using known)
  · rw [if_neg known]
    exact List.filter_eq_self.2 (by simpa using known)

section UpdateEntry

variable {slot : SlotIndex} {change : SlotConfig → SlotConfig}

/-- A change of a slot's entry is found under the slot, and nothing else is. -/
theorem find?_updateEntry (keeps : ∀ entry, entry.slot = slot → (change entry).slot = slot)
    (entries : List SlotConfig) (j : SlotIndex) :
    (updateEntry slot change entries).find? (fun entry => entry.slot = j) =
      if j = slot then
        some (change ((entries.find? fun entry => entry.slot = slot).getD (.fresh slot)))
      else entries.find? fun entry => entry.slot = j := by
  induction entries with
  | nil =>
    have fresh : (change (.fresh slot)).slot = slot := keeps _ rfl
    by_cases same : j = slot
    · simp [updateEntry, fresh, same]
    · simp [updateEntry, fresh, same, Ne.symm same]
  | cons entry rest ih =>
    unfold updateEntry
    by_cases here : entry.slot = slot
    · have stays : (change entry).slot = slot := keeps entry here
      by_cases same : j = slot
      · simp [here, stays, same]
      · simp [here, stays, same, Ne.symm same]
    · rw [if_neg here]
      by_cases same : j = slot
      · subst same
        simpa [here] using ih
      · simp only [same, if_false] at ih ⊢
        simp only [List.find?_cons, ih]

/-- A change of a slot's entry leaves the order of the slots; a slot that had no entry comes
last. -/
theorem map_slot_updateEntry (keeps : ∀ entry, entry.slot = slot → (change entry).slot = slot)
    (entries : List SlotConfig) :
    (updateEntry slot change entries).map SlotConfig.slot =
      entries.map SlotConfig.slot ++ if slot ∈ entries.map SlotConfig.slot then [] else [slot] := by
  induction entries with
  | nil => simp [updateEntry, keeps (.fresh slot) rfl]
  | cons entry rest ih =>
    unfold updateEntry
    by_cases here : entry.slot = slot
    · simp [here, keeps entry here]
    · rw [if_neg here, List.map_cons, ih]
      simp [Ne.symm here]

/-- An entry for a new slot is put behind the others. -/
theorem updateEntry_of_unlisted {entries : List SlotConfig}
    (fresh : slot ∉ entries.map SlotConfig.slot) :
    updateEntry slot change entries = entries ++ [change (.fresh slot)] := by
  induction entries with
  | nil => rfl
  | cons entry rest ih =>
    simp only [List.map_cons, List.mem_cons, not_or] at fresh
    rw [updateEntry, if_neg (Ne.symm fresh.1), ih fresh.2, List.cons_append]

end UpdateEntry

/-! ## One change -/

/-- The settings of a slot are those of its entry, if it has one. -/
theorem settings_eq (c : Config) (slot : SlotIndex) :
    c.settings slot = ((c.find? slot).getD (.fresh slot)).settings := by
  unfold settings source
  dsimp only
  cases c.find? slot <;> rfl

/-- How a change of settings is made in the entry of its slot. -/
def Op.edit : Op → SlotConfig → SlotConfig
  | .setDefaultData _ => id
  | .setSlot entry => fun _ => entry
  | .setCrossSim _ enabled => fun entry => { entry with crossSimCalling := enabled }
  | .setBlock _ block => fun entry => { entry with blockIpv6OnlyWifi := block }

/-- A change of an entry leaves it with its slot. -/
theorem slot_edit {op : Op} {slot : SlotIndex} (sets : op.slot? = some slot) (entry : SlotConfig)
    (own : entry.slot = slot) : (op.edit entry).slot = slot := by
  cases op with
  | setDefaultData _ => cases sets
  | setSlot replacement => exact Option.some.inj sets
  | setCrossSim _ _ | setBlock _ _ => exact own

/-- A change of settings updates the entry of its slot. -/
theorem slots_step (c : Config) {op : Op} {slot : SlotIndex} (sets : op.slot? = some slot) :
    (c.step op).slots = updateEntry slot op.edit c.slots := by
  cases op with
  | setDefaultData _ => cases sets
  | setSlot _ | setCrossSim _ _ | setBlock _ _ =>
    cases sets
    rfl

/-- A change that is about no slot leaves the entries. -/
theorem slots_step_of_none (c : Config) {op : Op} (sets : op.slot? = none) :
    (c.step op).slots = c.slots := by
  cases op with
  | setDefaultData _ => rfl
  | setSlot _ | setCrossSim _ _ | setBlock _ _ => cases sets

/-- The default is the one that a change sets, or the one before. -/
theorem defaultData_step (c : Config) (op : Op) :
    (c.step op).defaultData = op.defaultData?.getD c.defaultData := by
  cases op <;> rfl

/-- What a change makes of all settings is what it makes of the entry of its slot. -/
theorem revise_eq (all : SlotIndex → Settings) {op : Op} {slot : SlotIndex}
    (sets : op.slot? = some slot) :
    revise all op = Function.update all slot (op.edit ((all slot).entryFor slot)).settings := by
  cases op with
  | setDefaultData _ => cases sets
  | setSlot _ | setCrossSim _ _ | setBlock _ _ =>
    cases sets
    rfl

/-- What is set for a slot is what its entry says, or a fresh one. -/
theorem entryFor_settings (c : Config) (slot : SlotIndex) :
    (c.settings slot).entryFor slot = (c.find? slot).getD (.fresh slot) := by
  rw [settings_eq]
  cases found : c.find? slot with
  | none => rfl
  | some entry =>
    obtain rfl : entry.slot = slot := by simpa using List.find?_some found
    rfl

/-- A change answers as the map of all settings does. -/
theorem settings_step (c : Config) (op : Op) : (c.step op).settings = revise c.settings op := by
  funext j
  cases sets : op.slot? with
  | none =>
    have same : (c.step op).find? j = c.find? j := by rw [find?, find?, c.slots_step_of_none sets]
    rw [settings_eq, same, ← settings_eq]
    cases op with
    | setDefaultData _ => rfl
    | setSlot _ | setCrossSim _ _ | setBlock _ _ => cases sets
  | some slot =>
    have found := find?_updateEntry (slot_edit sets) c.slots j
    rw [← c.slots_step sets] at found
    rw [settings_eq, find?, found, revise_eq _ sets, entryFor_settings]
    by_cases same : j = slot
    · subst same
      rw [if_pos rfl, Function.update_self]
      rfl
    · rw [if_neg same, Function.update_of_ne same, settings_eq]
      rfl

/-- A change lists its slot last, if it was not listed before. -/
theorem listed_step (c : Config) (op : Op) :
    (c.step op).listed = c.listed ++ op.slot?.toList.removeAll c.listed := by
  unfold listed
  cases sets : op.slot? with
  | none => exact (congrArg _ (c.slots_step_of_none sets)).trans (List.append_nil _).symm
  | some slot =>
    rw [c.slots_step sets, map_slot_updateEntry (slot_edit sets), Option.toList_some,
      removeAll_singleton]

/-- No change makes a slot stand twice. -/
theorem nodup_step {c : Config} (unique : c.listed.Nodup) (op : Op) : (c.step op).listed.Nodup := by
  rw [listed_step]
  refine unique.append ?_ fun slot old new => ?_
  · cases op.slot? with
    | none => exact List.nodup_nil
    | some slot => exact (List.nodup_singleton slot).filter _
  · exact absurd old (by simpa using (List.mem_filter.1 new).2)

/-! ## Whole runs -/

theorem after_append (c : Config) (ops more : List Op) :
    c.after (ops ++ more) = (c.after ops).after more :=
  List.foldl_append

theorem after_concat (c : Config) (ops : List Op) (op : Op) :
    c.after (ops ++ [op]) = (c.after ops).step op :=
  c.after_append ops [op]

/-- Nor do any changes one after the other. -/
theorem nodup_after {c : Config} (unique : c.listed.Nodup) (ops : List Op) :
    (c.after ops).listed.Nodup := by
  induction ops generalizing c with
  | nil => exact unique
  | cons op ops ih => exact ih (nodup_step unique op)

/-- Changes answer as the map of all settings does. -/
theorem settings_after (c : Config) (ops : List Op) :
    (c.after ops).settings = ops.foldl revise c.settings := by
  induction ops generalizing c with
  | nil => rfl
  | cons op ops ih =>
    rw [List.foldl_cons, ← settings_step]
    exact ih (c.step op)

/-- The default is the last one set, or the one in the beginning. -/
theorem defaultData_after (c : Config) (ops : List Op) :
    (c.after ops).defaultData = (latest Op.defaultData? ops).getD c.defaultData := by
  induction ops using List.reverseRecOn with
  | nil => rfl
  | append_singleton ops op ih =>
    rw [after_concat, defaultData_step, ih, latest_concat]
    cases op.defaultData? <;> rfl

/-- The slots listed before come first, in their order. -/
theorem listed_prefix_after (c : Config) (ops : List Op) : c.listed <+: (c.after ops).listed := by
  induction ops generalizing c with
  | nil => exact List.prefix_rfl
  | cons op ops ih => exact (c.listed_step op ▸ List.prefix_append _ _).trans (ih (c.step op))

/-- From an empty list on, slots are listed in the order in which they were first named. -/
theorem listed_after (defaultData : Option SubscriptionId) (ops : List Op) :
    ((⟨defaultData, []⟩ : Config).after ops).listed = (ops.filterMap Op.slot?).eraseDups := by
  induction ops using List.reverseRecOn with
  | nil => rfl
  | append_singleton ops op ih =>
    rw [after_concat, listed_step, ih, List.filterMap_append, List.eraseDups_append]
    refine congrArg _ ?_
    cases sets : op.slot? with
    | none => simp [sets, List.removeAll]
    | some slot =>
      have named : [op].filterMap Op.slot? = [slot] := by simp [sets]
      rw [named, Option.toList_some, removeAll_singleton, removeAll_singleton]
      simp only [List.mem_eraseDups]
      split <;> rfl

/-- Entries for different slots are what they set one after the other. -/
theorem after_setSlots (defaultData : Option SubscriptionId) {entries : List SlotConfig}
    (unique : (entries.map SlotConfig.slot).Nodup) :
    (⟨defaultData, []⟩ : Config).after (entries.map .setSlot) = ⟨defaultData, entries⟩ := by
  induction entries using List.reverseRecOn with
  | nil => rfl
  | append_singleton entries entry ih =>
    rw [List.map_append, List.nodup_append] at unique
    obtain ⟨earlier, -, apart⟩ := unique
    have fresh : entry.slot ∉ entries.map SlotConfig.slot :=
      fun again => apart _ again entry.slot (by simp) rfl
    rw [List.map_append, List.map_singleton, after_concat, ih earlier]
    show (⟨defaultData, updateEntry entry.slot (fun _ => entry) entries⟩ : Config) = _
    rw [updateEntry_of_unlisted fresh]

/-- With one entry for each slot, the entries are the settings of the slots listed. -/
theorem slots_eq_map_settings {c : Config} (unique : c.listed.Nodup) :
    c.slots = c.listed.map fun slot => (c.settings slot).entryFor slot := by
  have same : ∀ entry ∈ c.slots, (c.settings entry.slot).entryFor entry.slot = entry := by
    intro entry there
    rw [entryFor_settings, find?, find?_key_of_mem unique there, Option.getD_some]
  rw [listed, List.map_map]
  exact (List.map_id'' (fun _ => rfl) c.slots).symm.trans
    (List.map_congr_left fun entry there => (same entry there).symm)

/-- After changes to a configuration that was accepted it still answers for every slot like a
map. -/
structure KeptBySlot (c : Config) (ops : List Op) : Prop where
  /-- No slot has two entries. -/
  unique : (c.after ops).listed.Nodup
  /-- All slots are without settings at first; then the entries are set one after the other, and
  then the changes are made. -/
  settings : (c.after ops).settings = (c.slots.map Op.setSlot ++ ops).foldl revise fun _ => .unset
  /-- The subscription for default data is the one set last. -/
  defaultData : (c.after ops).source.defaultData = (latest Op.defaultData? ops).getD c.defaultData
  /-- Slots are listed in the order in which they were first named. -/
  order : (c.after ops).listed = (c.listed ++ ops.filterMap Op.slot?).eraseDups
  /-- Every slot that was listed on the way is still listed, at its place. -/
  kept : ∀ before later, ops = before ++ later → (c.after before).listed <+: (c.after ops).listed
  /-- An entry holds just the settings that are answered for its slot. -/
  entries : (c.after ops).slots = (c.after ops).listed.map fun slot =>
    ((c.after ops).settings slot).entryFor slot

/-- A configuration in which no slot stands twice is kept by slot. -/
theorem keptBySlot {c : Config} (unique : c.listed.Nodup) (ops : List Op) : KeptBySlot c ops := by
  have stillUnique := nodup_after unique ops
  -- the configuration is the outcome of a run that begins with an empty list
  have whole : c.after ops =
      (⟨c.defaultData, []⟩ : Config).after (c.slots.map .setSlot ++ ops) := by
    rw [after_append, after_setSlots c.defaultData unique]
  refine ⟨stillUnique, ?_, defaultData_after c ops, ?_, ?_, slots_eq_map_settings stillUnique⟩
  · rw [whole, settings_after]
    rfl
  · have named : (c.slots.map Op.setSlot).filterMap Op.slot? = c.listed := by
      rw [List.filterMap_map]
      exact congrFun List.filterMap_eq_map c.slots
    rw [whole, listed_after, List.filterMap_append, named]
  · rintro before later rfl
    rw [after_append]
    exact (c.after before).listed_prefix_after later

/-- **A configuration is kept by slot.** A document is accepted as it is if it lists no slot twice,
and otherwise it is refused for the first slot that is listed again. Whatever changes are made to
one that was accepted, it answers like a map. -/
theorem keyed_by_slot (c : Config) :
    (c.checked = .ok c ↔ c.listed.Nodup) ∧ (∀ d, c.checked = .ok d → d = c) ∧
      (∀ e, c.checked = .error e ↔ ∃ slot, FirstRepeats c.slots slot ∧
        e = .config (.duplicateSlot slot)) ∧
      (∀ slot, (StatusError.config (.duplicateSlot slot)).message =
        "Configuration error: " ++ (slot.text ++ " is configured more than once")) ∧
      (c.checked = .ok c → ∀ ops, KeptBySlot c ops) := by
  refine ⟨?_, ?_, c.checked_eq_error_iff, fun _ => rfl, ?_⟩
  · rw [checked_eq_ok_iff]
    exact and_iff_left rfl
  · intro d accepted
    exact ((c.checked_eq_ok_iff d).1 accepted).2
  · intro accepted ops
    exact keptBySlot ((c.checked_eq_ok_iff c).1 accepted).1 ops

/-- Two slots, not in the order of their indices. -/
def twoEntries : Config := ⟨some ⟨1⟩, [⟨⟨3⟩, some ⟨7⟩, true, false⟩, ⟨⟨1⟩, none, false, false⟩]⟩

/-- A third slot is made by a switch, and the first entry is replaced before one of its switches is
changed again. -/
def rewrittenEntry : List Op :=
  [.setCrossSim ⟨2⟩ true, .setSlot ⟨⟨3⟩, none, false, false⟩, .setBlock ⟨1⟩ true,
    .setDefaultData none, .setCrossSim ⟨3⟩ true]

/-- Nothing of the entry that was replaced is left, and its place is the same. -/
theorem keyed_by_slot_rewrittenEntry :
    twoEntries.checked = .ok twoEntries ∧ KeptBySlot twoEntries rewrittenEntry ∧
      twoEntries.after rewrittenEntry =
        ⟨none, [⟨⟨3⟩, none, false, true⟩, ⟨⟨1⟩, none, true, false⟩, ⟨⟨2⟩, none, false, true⟩]⟩ := by
  have accepted : twoEntries.checked = .ok twoEntries := rfl
  obtain ⟨-, -, -, -, kept⟩ := keyed_by_slot twoEntries
  exact ⟨accepted, kept accepted rewrittenEntry, rfl⟩

end Config

end AccessStatus
