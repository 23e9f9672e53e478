import AccessStatus.Proofs.Availability.Slot

/-!
# What a consumer is told about a slot

A context that somebody registered for remembers a plain value, and registers nobody twice
(`SlotContext.Sound`). So an act tells a consumer at most one thing, and that is what is remembered
after it; it tells nothing to a consumer that stays only if it leaves the remembered value alone
(`told_or_untold`). What it tells is the value that it brings, or that value as the announcement of
a loss (`mem_apply`).
-/

namespace AccessStatus

/-! ## Values as they are found -/

namespace Availability

/-- A value without an announcement, as it is found. -/
def IsPlain (a : Availability) : Prop :=
  a = .unavailable ∨ a = .available false ∨ a = .available true

/-- A plain value announces nothing. -/
theorem IsPlain.notifyDisabled {a : Availability} (plain : a.IsPlain) :
    a.notifyDisabled = false := by
  rcases plain with rfl | rfl | rfl <;> rfl

/-- A plain value is what is left of it without an announcement. -/
theorem IsPlain.settled {a : Availability} (plain : a.IsPlain) : a.settled = a := by
  rcases plain with rfl | rfl | rfl <;> rfl

/-- A plain value that is not available is the one for that. -/
theorem IsPlain.eq_unavailable {a : Availability} (plain : a.IsPlain)
    (notAvailable : a.isAvailable = false) :
    a = .unavailable := by
  rcases plain with rfl | rfl | rfl
  · rfl
  · cases notAvailable
  · cases notAvailable

theorem settled_withDisabledEdge (a : Availability) : a.withDisabledEdge.settled = a.settled := rfl

end Availability

/-! ## What a context does -/

namespace SlotContext

/-- A found value is sent if it announces a loss or differs from the one remembered. -/
theorem take_eq (ctx : SlotContext) (live : Liveness) (edge : Bool) (a : Availability) :
    ctx.take live edge a =
      if edge || ctx.gate.wouldChange a then
        (⟨ctx.registry.sweep live, .holding a⟩,
          ctx.registry.broadcast live (if edge then a.withDisabledEdge else a) none)
      else (ctx, []) := by
  unfold take
  cases edge with
  | true => rfl
  | false =>
    rw [if_neg Bool.false_ne_true, Bool.false_or, Gate.offer_eq]
    cases ctx.gate.wouldChange a <;> rfl

/-- A value that is found on a registration is sent to all if it differs, and else to the registrant
alone. -/
theorem register_eq (ctx : SlotContext) (live : Liveness) (c : ConsumerId) (tag : Tag)
    (a : Availability) :
    ctx.register live c tag a =
      if ctx.gate.wouldChange a then
        (⟨(ctx.registry.addUnique ⟨c, tag, none⟩).sweep live, .holding a⟩,
          (ctx.registry.addUnique ⟨c, tag, none⟩).broadcast live a none)
      else
        (⟨ctx.registry.addUnique ⟨c, tag, none⟩, ctx.gate⟩,
          ((ctx.registry.addUnique ⟨c, tag, none⟩).replay live c a).toList) := by
  unfold register
  rw [Gate.offer_eq]
  cases changes : ctx.gate.wouldChange a with
  | true => rfl
  | false =>
    have remembered := ctx.gate.current_eq_of_not_wouldChange changes
    simp [remembered]

/-- Nobody is registered twice, and a plain value is remembered. -/
structure Sound (ctx : SlotContext) : Prop where
  single : ctx.registry.Single
  plain : ∃ a, ctx.gate.current = some a ∧ a.IsPlain

end SlotContext

namespace SlotAct

/-! ## What an act comes to -/

/-- The value that an act brings is plain, and where it announces a loss the slot is not
available. -/
def Plain : SlotAct → Prop
  | find edge a => a.IsPlain ∧ (edge = true → a.isAvailable = false)
  | register _ _ a => a.IsPlain
  | pass | remove _ | forget => True

/-- The act registers the consumer. -/
def Registers (c : ConsumerId) : SlotAct → Prop
  | register d _ _ => d = c
  | pass | find .. | remove _ | forget => False

/-- What is remembered for a slot. -/
def remembered (known : Option SlotContext) : Option Availability :=
  known.bind fun ctx => ctx.gate.current

/-- The consumer is registered for a slot. -/
def Subscribed (known : Option SlotContext) (c : ConsumerId) : Prop :=
  ∃ ctx, known = some ctx ∧ ctx.registry.contains c = true

/-- The registry of a slot after a consumer has registered, before any is swept away. -/
def joined (known : Option SlotContext) (c : ConsumerId) (tag : Tag) : Registry :=
  (known.getD .fresh).registry.addUnique ⟨c, tag, none⟩

/-- A value is told to all and remembered if it differs from the last one or announces a loss, and
else nothing happens. -/
theorem apply_find (live : Liveness) (ctx : SlotContext) (edge : Bool) (a : Availability) :
    (find edge a).apply live (some ctx) =
      if edge || ctx.gate.wouldChange a then
        (some ⟨ctx.registry.sweep live, .holding a⟩,
          ctx.registry.broadcast live (if edge then a.withDisabledEdge else a) none)
      else (some ctx, []) := by
  show (some (ctx.take live edge a).1, (ctx.take live edge a).2) = _
  rw [SlotContext.take_eq]
  split <;> rfl

/-- A consumer that registers is told the value with all others if it is new, and else alone. -/
theorem apply_register (live : Liveness) (known : Option SlotContext) (c : ConsumerId) (tag : Tag)
    (a : Availability) :
    (register c tag a).apply live known =
      if (known.getD .fresh).gate.wouldChange a then
        (some ⟨(joined known c tag).sweep live, .holding a⟩,
          (joined known c tag).broadcast live a none)
      else
        (some ⟨joined known c tag, (known.getD .fresh).gate⟩,
          ((joined known c tag).replay live c a).toList) := by
  show (some ((known.getD .fresh).register live c tag a).1,
    ((known.getD .fresh).register live c tag a).2) = _
  rw [SlotContext.register_eq]
  split <;> rfl

theorem remembered_getD (known : Option SlotContext) :
    (known.getD .fresh).gate.current = remembered known := by
  cases known <;> rfl

/-- A consumer that registers in place of its earlier registration is not registered twice. -/
theorem single_joined {known : Option SlotContext} (sound : ∀ ctx ∈ known, ctx.Sound)
    (c : ConsumerId) (tag : Tag) :
    (joined known c tag).Single := by
  have single : (known.getD .fresh).registry.Single := by
    cases known with
    | none => exact Registry.single_empty _
    | some ctx => exact (sound ctx rfl).single
  exact single.addUnique _

/-- Who is registered after another has joined is that one or was registered before. -/
theorem subscribed_of_joined {known : Option SlotContext} {c d : ConsumerId} {tag : Tag}
    (registered : (joined known d tag).contains c = true) : d = c ∨ Subscribed known c := by
  refine (Registry.contains_of_addUnique _ c registered).imp_right fun before => ?_
  cases known with
  | none => cases before
  | some ctx => exact ⟨ctx, rfl, before⟩

/-- An act keeps a context in which nobody is registered twice and nothing is remembered but a plain
value. -/
theorem sound_apply {act : SlotAct} (plain : act.Plain) (live : Liveness)
    {known : Option SlotContext} (sound : ∀ ctx ∈ known, ctx.Sound) :
    ∀ ctx ∈ (act.apply live known).1, ctx.Sound := by
  intro ctx after
  cases act with
  | pass => exact sound ctx after
  | forget => cases after
  | find edge a =>
    cases known with
    | none => cases after
    | some old =>
      rw [apply_find] at after
      split at after
      · obtain rfl := Option.some.inj after
        exact ⟨(sound old rfl).single.sweep live, a, rfl, plain.1⟩
      · obtain rfl := Option.some.inj after
        exact sound old rfl
  | register c tag a =>
    -- the newcomer takes the place of an earlier registration of its own
    have single := single_joined sound c tag
    rw [apply_register] at after
    split at after
    · obtain rfl := Option.some.inj after
      exact ⟨single.sweep live, a, rfl, plain⟩
    · rename_i same
      obtain rfl := Option.some.inj after
      exact ⟨single, a, Gate.current_eq_of_not_wouldChange _ (Bool.eq_false_of_not_eq_true same),
        plain⟩
  | remove c =>
    obtain ⟨old, before, rfl⟩ := Option.map_eq_some_iff.1 after
    exact ⟨(sound old before).single.remove c, (sound old before).plain⟩

/-- Whoever is registered after an act was registered by it or before. -/
theorem subscribed_of_apply {act : SlotAct} {live : Liveness} {known : Option SlotContext}
    {c : ConsumerId} (registered : Subscribed (act.apply live known).1 c) :
    act.Registers c ∨ Subscribed known c := by
  obtain ⟨ctx, after, registered⟩ := registered
  cases act with
  | pass => exact Or.inr ⟨ctx, after, registered⟩
  | forget => cases after
  | find edge a =>
    cases known with
    | none => cases after
    | some old =>
      refine Or.inr ⟨old, rfl, ?_⟩
      rw [apply_find] at after
      split at after
      · obtain rfl := Option.some.inj after
        exact old.registry.contains_of_filter c registered
      · obtain rfl := Option.some.inj after
        exact registered
  | register d tag a =>
    rw [apply_register] at after
    split at after
    · obtain rfl := Option.some.inj after
      exact subscribed_of_joined ((joined known d tag).contains_of_filter c registered)
    · obtain rfl := Option.some.inj after
      exact subscribed_of_joined registered
  | remove d =>
    obtain ⟨old, rfl, rfl⟩ := Option.map_eq_some_iff.1 after
    exact Or.inr ⟨old, rfl, old.registry.contains_of_filter c registered⟩

/-! ## What an act tells one consumer -/

/-- A consumer is told one thing: what is remembered after the act. Unless the act registers it, it
was registered before, and what it is told announces a loss or is not what was remembered. -/
structure Told (act : SlotAct) (live : Liveness) (known : Option SlotContext) (c : ConsumerId)
    (n : Notification Availability) : Prop where
  received : received c (act.apply live known).2 = [n]
  alive : live c = true
  remembered : remembered (act.apply live known).1 = some n.value.settled
  news : act.Registers c ∨
    Subscribed known c ∧ (n.value.notifyDisabled = true ∨ SlotAct.remembered known ≠ some n.value)

/-- A consumer is told nothing: if it is live and registered after the act, it was so before, and
what is remembered is the same. -/
structure Untold (act : SlotAct) (live : Liveness) (known : Option SlotContext) (c : ConsumerId) :
    Prop where
  received : received c (act.apply live known).2 = []
  kept : live c = true → Subscribed (act.apply live known).1 c →
    Subscribed known c ∧ SlotAct.remembered (act.apply live known).1 = SlotAct.remembered known

section Find

variable {live : Liveness} {ctx : SlotContext} {edge : Bool} {a : Availability} {c : ConsumerId}

/-- A found value that is sent is told to every live consumer that is registered. -/
theorem told_find (sound : ctx.Sound) (plain : (find edge a).Plain) (alive : live c = true)
    (registered : ctx.registry.contains c = true)
    (sends : (edge || ctx.gate.wouldChange a) = true) :
    ∃ n, n.value = (if edge then a.withDisabledEdge else a) ∧
      Told (find edge a) live (some ctx) c n := by
  obtain ⟨n, told, value⟩ :=
    sound.single.received_broadcast alive registered (if edge then a.withDisabledEdge else a) none
  refine ⟨n, value, ?_, alive, ?_, Or.inr ⟨⟨ctx, rfl, registered⟩, ?_⟩⟩
  · rw [apply_find, if_pos sends, told]
  · rw [apply_find, if_pos sends, value]
    show some a = _
    cases edge with
    | true => rw [if_pos rfl, Availability.settled_withDisabledEdge, plain.1.settled]
    | false => rw [if_neg Bool.false_ne_true, plain.1.settled]
  · rw [value]
    cases edge with
    | true => exact Or.inl rfl
    | false => exact Or.inr (Gate.current_ne_of_wouldChange _ sends)

/-- A found value is not told to a consumer that is dead or not registered. -/
theorem untold_find_of_not (missed : ¬ (live c = true ∧ ctx.registry.contains c = true)) :
    Untold (find edge a) live (some ctx) c := by
  constructor
  · rw [apply_find]
    split
    · exact ctx.registry.received_broadcast_of_not live _ none missed
    · rfl
  · intro alive registered
    obtain ⟨old, same, held⟩ := (subscribed_of_apply registered).resolve_left id
    obtain rfl := Option.some.inj same
    exact absurd ⟨alive, held⟩ missed

/-- A value that is not new is told to nobody. -/
theorem untold_find_of_same (same : (edge || ctx.gate.wouldChange a) = false) :
    Untold (find edge a) live (some ctx) c := by
  have nothing : (find edge a).apply live (some ctx) = (some ctx, []) := by
    rw [apply_find, if_neg (by simp [same])]
  constructor
  · rw [nothing]
    rfl
  · rw [nothing]
    exact fun _ registered => ⟨registered, rfl⟩

end Find

section Register

variable {live : Liveness} {known : Option SlotContext} {tag : Tag} {a : Availability}
  {c d : ConsumerId}

/-- A live consumer that registers is told the value found, whether all are told or it alone. -/
theorem told_register_self (plain : a.IsPlain) (alive : live c = true) :
    Told (register c tag a) live known c ⟨tag, none, a, none⟩ := by
  have alone : (joined known c tag).registrationsOf c = [⟨c, tag, none⟩] :=
    (known.getD .fresh).registry.registrationsOf_addUnique_self ⟨c, tag, none⟩
  refine ⟨?_, alive, ?_, Or.inl rfl⟩
  · rw [apply_register]
    split
    · rw [Registry.received_broadcast, if_pos alive, alone]
      rfl
    · rw [Registry.received_replay_self, if_pos alive, alone]
      rfl
  · show ((known.getD .fresh).register live c tag a).1.gate.current = _
    rw [SlotContext.current_register, plain.settled]

/-- A dead consumer is not told anything when it is registered. -/
theorem untold_register_self (dead : ¬ live c = true) : Untold (register c tag a) live known c := by
  refine ⟨?_, fun alive => absurd alive dead⟩
  rw [apply_register]
  split
  · rw [Registry.received_broadcast, if_neg dead]
  · rw [Registry.received_replay_self, if_neg dead]

/-- Another consumer's registration tells a consumer the value found if that is not the one
remembered. -/
theorem told_or_untold_register_of_ne (plain : a.IsPlain) (sound : ∀ ctx ∈ known, ctx.Sound)
    (other : d ≠ c) :
    (∃ n, Told (register d tag a) live known c n) ∨ Untold (register d tag a) live known c := by
  have applied := apply_register live known d tag a
  -- the others are told only when the gate lets the value pass
  cases changes : (known.getD .fresh).gate.wouldChange a with
  | true =>
    rw [if_pos changes] at applied
    by_cases reached : live c = true ∧ (joined known d tag).contains c = true
    · obtain ⟨n, told, rfl⟩ :=
        (single_joined sound d tag).received_broadcast reached.1 reached.2 a none
      have before := (subscribed_of_joined reached.2).resolve_left other
      have differs := Gate.current_ne_of_wouldChange _ changes
      rw [remembered_getD] at differs
      refine Or.inl ⟨n, by rw [applied, told], reached.1, ?_, Or.inr ⟨before, Or.inr differs⟩⟩
      rw [applied, plain.settled]
      rfl
    · refine Or.inr ⟨?_, ?_⟩
      · rw [applied]
        exact (joined known d tag).received_broadcast_of_not live a none reached
      · rw [applied]
        rintro alive ⟨after, kept, registered⟩
        obtain rfl := Option.some.inj kept
        exact absurd ⟨alive, (joined known d tag).contains_of_filter c registered⟩ reached
  | false =>
    rw [if_neg (by simp [changes])] at applied
    refine Or.inr ⟨?_, fun _ registered =>
      ⟨(subscribed_of_apply registered).resolve_left other, ?_⟩⟩
    · rw [applied]
      exact (joined known d tag).received_replay_of_ne live a other
    · rw [applied]
      exact remembered_getD known

end Register

/-- An act tells a consumer one thing or nothing. -/
theorem told_or_untold {act : SlotAct} (plain : act.Plain) (live : Liveness)
    {known : Option SlotContext} (sound : ∀ ctx ∈ known, ctx.Sound) (c : ConsumerId) :
    (∃ n, Told act live known c n) ∨ Untold act live known c := by
  cases act with
  | pass => exact Or.inr ⟨rfl, fun _ registered => ⟨registered, rfl⟩⟩
  | forget =>
    refine Or.inr ⟨rfl, ?_⟩
    rintro - ⟨ctx, kept, -⟩
    cases kept
  | remove d =>
    refine Or.inr ⟨rfl, fun _ registered => ⟨(subscribed_of_apply registered).resolve_left id, ?_⟩⟩
    cases known <;> rfl
  | find edge a =>
    cases known with
    | none =>
      refine Or.inr ⟨rfl, ?_⟩
      rintro - ⟨ctx, kept, -⟩
      cases kept
    | some ctx =>
      -- a value that is sent is told to those it reaches; whoever it does not reach is no
      -- subscriber after it
      by_cases reached : live c = true ∧ ctx.registry.contains c = true
      · cases sends : edge || ctx.gate.wouldChange a with
        | true =>
          obtain ⟨n, -, told⟩ := told_find (sound ctx rfl) plain reached.1 reached.2 sends
          exact Or.inl ⟨n, told⟩
        | false => exact Or.inr (untold_find_of_same sends)
      · exact Or.inr (untold_find_of_not reached)
  | register d tag a =>
    by_cases own : d = c
    · subst own
      by_cases alive : live d = true
      · exact Or.inl ⟨_, told_register_self plain alive⟩
      · exact Or.inr (untold_register_self alive)
    · exact told_or_untold_register_of_ne plain sound own

/-! ## The values told -/

/-- The act tells this value, if it tells any. -/
def Brings (v : Availability) : SlotAct → Prop
  | find edge a => v = if edge then a.withDisabledEdge else a
  | register _ _ a => v = a
  | pass | remove _ | forget => False

/-- What an act sends goes to live consumers and is the value that it tells. -/
theorem mem_apply (act : SlotAct) (live : Liveness) (known : Option SlotContext) :
    ∀ d ∈ (act.apply live known).2, live d.consumer = true ∧ act.Brings d.notification.value := by
  intro d sent
  cases act with
  | pass | remove _ | forget => cases sent
  | find edge a =>
    cases known with
    | none => cases sent
    | some ctx =>
      rw [apply_find] at sent
      split at sent
      · exact Registry.mem_broadcast sent
      · cases sent
  | register c tag a =>
    rw [apply_register] at sent
    split at sent
    · exact Registry.mem_broadcast sent
    · exact Registry.mem_replay sent

/-- A plain act tells a plain value, or that the slot is not available any more. -/
theorem Brings.cases {act : SlotAct} {v : Availability} (brings : act.Brings v)
    (plain : act.Plain) :
    v.IsPlain ∨ v = Availability.unavailable.withDisabledEdge := by
  cases act with
  | pass | remove _ | forget => cases brings
  | find edge a =>
    obtain rfl : v = _ := brings
    cases edge with
    | true =>
      exact Or.inr (congrArg Availability.withDisabledEdge (plain.1.eq_unavailable (plain.2 rfl)))
    | false => exact Or.inl plain.1
  | register c tag a =>
    obtain rfl : v = a := brings
    exact Or.inl plain

/-- Only an act that finds a loss announces one. -/
theorem Brings.loss {act : SlotAct} {v : Availability} (brings : act.Brings v) (plain : act.Plain)
    (announces : v.notifyDisabled = true) : ∃ a, act = find true a := by
  cases act with
  | pass | remove _ | forget => cases brings
  | find edge a =>
    obtain rfl : v = _ := brings
    cases edge with
    | true => exact ⟨a, rfl⟩
    | false => exact absurd (plain.1.notifyDisabled.symm.trans announces) Bool.false_ne_true
  | register c tag a =>
    obtain rfl : v = a := brings
    exact absurd ((Availability.IsPlain.notifyDisabled plain).symm.trans announces)
      Bool.false_ne_true

/-- A loss is announced to just the live consumers that are registered, by an act that finds one. -/
theorem edge_iff {act : SlotAct} (plain : act.Plain) (live : Liveness) {known : Option SlotContext}
    (sound : ∀ ctx ∈ known, ctx.Sound) (c : ConsumerId) :
    (∃ n ∈ received c (act.apply live known).2, n.value.notifyDisabled = true) ↔
      live c = true ∧ Subscribed known c ∧ ∃ a, act = find true a := by
  constructor
  · rintro ⟨n, told, announces⟩
    obtain ⟨d, sent, -, rfl⟩ := mem_received_iff.1 told
    obtain ⟨a, rfl⟩ := (mem_apply act live known d sent).2.loss plain announces
    rcases told_or_untold plain live sound c with ⟨k, once⟩ | untold
    · exact ⟨once.alive, (once.news.resolve_left id).1, a, rfl⟩
    · rw [untold.received] at told
      cases told
  · rintro ⟨alive, ⟨ctx, rfl, registered⟩, a, rfl⟩
    obtain ⟨n, value, told⟩ := told_find (sound ctx rfl) plain alive registered (Bool.true_or _)
    refine ⟨n, ?_, ?_⟩
    · rw [told.received]
      exact List.mem_singleton_self n
    · rw [value]
      rfl

end SlotAct

end AccessStatus
