import AccessStatus.Proofs.Provider.Slots

/-!
# The providers opened for one slot

One after the other, providers are opened for a slot, and handles to the earlier ones stay. Whatever
is asked of a directory, through whichever handle, at most the provider that is handed out is open:
all others are closed, and a closed provider is not subscribed to the source of registration status
(`Bay.Sound`). All that a request can make of the providers of one slot is said once, in
`BayChange`; what the source is asked for then follows from who is subscribed before and after it
(`Sound.callsFor_step`).
-/

namespace AccessStatus

/-! ## One provider -/

namespace Provider

/-- What a request makes a provider ask of its registration monitor, if anything. -/
def registrationOp (p : Provider) : Op → Option RegistrationMonitor.Op
  | .registration o => some o
  | .post (.registration r) => if p.isClosed then none else some (.changed r)
  | .close => if p.isClosed then none else some .close
  | .post _ | .flush | .calls _ | .connections _ => none

/-- The request closes the provider. -/
def Op.closes : Op → Bool
  | .close => true
  | .post _ | .flush | .calls _ | .connections _ | .registration _ => false

/-- A provider is its slot's, and once it is closed its subscription to the source is over. -/
structure Sound (home : SlotIndex) (p : Provider) : Prop where
  slot : p.slot = home
  sourceSlot : p.registration.slot = home
  inUse : p.registration.InUse
  closed : p.isClosed = true → p.registration.isClosed = true

/-- A provider that was just built is sound. -/
theorem sound_fresh (slot : SlotIndex) (worker : String) : (fresh slot worker).Sound slot where
  slot := rfl
  sourceSlot := rfl
  inUse := RegistrationMonitor.inUse_fresh slot
  closed := fun closed => nomatch closed

/-- A closed provider listens to its registration source no more. -/
theorem Sound.unsubscribed {home : SlotIndex} {p : Provider} (sound : p.Sound home)
    (closed : p.isClosed = true) :
    p.registration.subscribed = false :=
  (sound.inUse.silent (sound.closed closed) (fun _ => false) .close).1

section Step

variable (p : Provider) (config : ConfigSource) (live : Liveness) (shared : AvailabilityMonitor)

/-- A provider stays with its slot, and only its own closing closes it. -/
theorem frame_step (o : Op) :
    (p.step config live shared o).provider.slot = p.slot ∧
      (p.step config live shared o).provider.isClosed = (p.isClosed || o.closes) := by
  cases o with
  | post event =>
    unfold step
    dsimp only
    unfold post
    cases p.accepts event with
    | error e => exact ⟨rfl, (Bool.or_false _).symm⟩
    | ok _ => cases event <;> exact ⟨rfl, (Bool.or_false _).symm⟩
  | close =>
    unfold step close Provider.closed
    cases closed : p.isClosed with
    | true => exact ⟨rfl, closed⟩
    | false => exact ⟨rfl, rfl⟩
  | flush | calls o | connections o | registration o => exact ⟨rfl, (Bool.or_false _).symm⟩

/-- The registration monitor of a provider changes by what is asked of it, and asks the source for
what that comes to. -/
theorem registration_step (o : Op) :
    (p.step config live shared o).provider.registration =
        (p.registrationOp o).elim p.registration (fun q => (p.registration.step live q).monitor) ∧
      (p.step config live shared o).effects.calls =
        (p.registrationOp o).elim [] fun q => (p.registration.step live q).calls := by
  cases o with
  | post event =>
    unfold step
    dsimp only
    unfold post
    cases h : p.accepts event with
    | error e =>
      -- what is refused asks nothing: of the reports of registration, those to a closed provider
      have nothing : p.registrationOp (.post event) = none := by
        cases event with
        | registration r =>
          cases closed : p.isClosed with
          | true => simp [registrationOp, closed]
          | false => simp [accepts, checkPost, closed] at h
        | _ => rfl
      rw [nothing]
      exact ⟨rfl, rfl⟩
    | ok _ =>
      have isOpen := isOpen_of_accepted h
      cases event with
      | registration r =>
        have asked : p.registrationOp (.post (.registration r)) = some (.changed r) := by
          simp [registrationOp, isOpen]
        rw [asked]
        exact ⟨rfl, rfl⟩
      | _ => exact ⟨rfl, rfl⟩
  | close =>
    unfold step close Provider.closed registrationOp
    cases p.isClosed <;> exact ⟨rfl, rfl⟩
  | flush | calls o | connections o | registration o => exact ⟨rfl, rfl⟩

end Step

section Sound

variable {home : SlotIndex} {p : Provider} (sound : p.Sound home) (config : ConfigSource)
  (live : Liveness)
  (shared : AvailabilityMonitor)
include sound

/-- No request leaves a provider unsound. -/
theorem Sound.step (o : Op) : (p.step config live shared o).provider.Sound home := by
  obtain ⟨slot, isClosed⟩ := p.frame_step config live shared o
  have registration := (p.registration_step config live shared o).1
  constructor
  · exact slot.trans sound.slot
  · rw [registration]
    cases p.registrationOp o with
    | none => exact sound.sourceSlot
    | some q => exact (RegistrationMonitor.slot_step _ live q).trans sound.sourceSlot
  · rw [registration]
    cases p.registrationOp o with
    | none => exact sound.inUse
    | some q => exact sound.inUse.step live q
  · rw [isClosed, registration]
    intro closed
    rcases Bool.or_eq_true_iff.1 closed with before | now
    · cases p.registrationOp o with
      | none => exact sound.closed before
      | some q => exact RegistrationMonitor.isClosed_step (sound.closed before) live q
    · -- the provider's own closing closes the monitor, unless both were closed before
      obtain rfl : o = .close := by cases o <;> first | rfl | cases now
      unfold registrationOp
      dsimp only
      split
      · rename_i before
        exact sound.closed before
      · exact p.registration.isClosed_close

/-- What a provider asks the source for is what changes in its subscription. -/
theorem Sound.calls_step (o : Op) :
    (p.step config live shared o).effects.calls =
      SourceCall.change home p.registration.subscribed
        (p.step config live shared o).provider.registration.subscribed := by
  obtain ⟨registration, calls⟩ := p.registration_step config live shared o
  rw [calls, registration]
  cases p.registrationOp o with
  | none => exact (SourceCall.change_self home _).symm
  | some q =>
    have asked := RegistrationMonitor.calls_step p.registration live q
    rw [sound.sourceSlot] at asked
    exact asked

/-- A provider that is closed gives its subscription up. -/
theorem Sound.close : p.closed.1.Sound home ∧ p.closed.1.isClosed = true ∧
    p.closed.2 = SourceCall.change home p.registration.subscribed false := by
  -- closing is one of the requests, and comes to the same whatever else is the case
  have next : p.closed.1.Sound home := sound.step Config.empty.source (fun _ => false) .fresh .close
  have closed : p.closed.1.isClosed = true :=
    (p.frame_step Config.empty.source (fun _ => false) .fresh .close).2.trans (Bool.or_true _)
  have calls : p.closed.2 =
      SourceCall.change home p.registration.subscribed p.closed.1.registration.subscribed :=
    sound.calls_step Config.empty.source (fun _ => false) .fresh .close
  rw [next.unsubscribed closed] at calls
  exact ⟨next, closed, calls⟩

end Sound

end Provider

/-! ## The providers of one slot -/

namespace Bay

/-- The provider that is handed out is subscribed to the source. -/
def subscribed (b : Bay) : Bool := b.current.any fun p => p.registration.subscribed

/-- All that were opened are sound, and only the one that is handed out may be open. -/
structure Sound (home : SlotIndex) (b : Bay) : Prop where
  providers : ∀ p ∈ b.opened, p.Sound home
  handed : b.isOpen = true → b.opened ≠ []
  former : ∀ i p, b.opened[i]? = some p → p.isClosed = false → b.isOpen = true ∧
    i + 1 = b.opened.length

/-- A slot that never had a provider is sound. -/
theorem sound_empty (home : SlotIndex) : empty.Sound home where
  providers := fun _ none => nomatch none
  handed := fun isOpen => nomatch isOpen
  former := fun _ _ none => nomatch none

/-- The current provider is the last one opened, as long as the slot is open. -/
theorem current_eq (b : Bay) :
    b.current = if b.isOpen then b.opened[b.opened.length - 1]? else none := by
  unfold current
  rw [List.getLast?_eq_getElem?]

/-- What is handed out is the latest that was opened. -/
theorem of_current {b : Bay} {p : Provider} (handed : b.current = some p) :
    b.isOpen = true ∧ b.opened[b.opened.length - 1]? = some p := by
  rw [current_eq] at handed
  split at handed
  · rename_i isOpen
    exact ⟨isOpen, handed⟩
  · cases handed

/-- A provider that takes the place of another is the one handed out if the other was. -/
theorem current_put (b : Bay) {i : Nat} (there : i < b.opened.length) (p : Provider) :
    (b.put i p).current =
      if i + 1 = b.opened.length ∧ b.isOpen = true then some p else b.current := by
  rw [current_eq, current_eq]
  unfold put
  dsimp only
  rw [List.length_set, List.getElem?_set]
  cases b.isOpen with
  | false => simp
  | true =>
    by_cases last : i + 1 = b.opened.length
    · have here : i = b.opened.length - 1 := by omega
      rw [if_pos rfl, if_pos here, if_pos there, if_pos ⟨last, rfl⟩]
    · have elsewhere : i ≠ b.opened.length - 1 := by omega
      rw [if_pos rfl, if_neg elsewhere, if_neg fun both => last both.1, if_pos rfl]

/-- Closing opens no provider. -/
theorem length_close (b : Bay) : b.close.1.opened.length = b.opened.length := by
  unfold Bay.close
  split
  · rfl
  · exact List.length_set

/-- A provider opened behind the others is the one handed out. -/
theorem current_push (b : Bay) (p : Provider) :
    (Bay.mk (b.opened ++ [p]) true).current = some p := by
  unfold current
  rw [if_pos rfl, List.getLast?_append, List.getLast?_singleton, Option.some_or]

section Sound

variable {home : SlotIndex} {b : Bay} (sound : b.Sound home)
include sound

/-- A slot that is shut may get a fresh provider. -/
theorem Sound.push (worker : String) (shut : b.isOpen = false) :
    (Bay.mk (b.opened ++ [.fresh home worker]) true).Sound home where
  providers := by
    intro p opened
    rcases List.mem_append.1 opened with old | new
    · exact sound.providers p old
    · obtain rfl := List.mem_singleton.1 new
      exact Provider.sound_fresh home worker
  handed := fun _ => List.append_ne_nil_of_right_ne_nil _ (List.cons_ne_nil _ [])
  former := by
    intro i p found isOpen
    refine ⟨rfl, ?_⟩
    rw [List.length_append, List.length_singleton]
    by_cases old : i < b.opened.length
    · rw [List.getElem?_append_left old] at found
      have handed := (sound.former i p found isOpen).1
      rw [shut] at handed
      cases handed
    · have bound := (List.getElem?_eq_some_iff.1 found).1
      rw [List.length_append, List.length_singleton] at bound
      omega

/-- What takes the place of a provider may be open only if that was. -/
theorem Sound.put {i : Nat} {p q : Provider} (found : b.opened[i]? = some p) (next : q.Sound home)
    (stays : p.isClosed = true → q.isClosed = true) : (b.put i q).Sound home where
  providers := by
    intro r opened
    rcases List.mem_or_eq_of_mem_set opened with old | rfl
    · exact sound.providers r old
    · exact next
  handed := by
    intro isOpen none
    exact sound.handed isOpen ((List.set_eq_nil_iff i q).1 none)
  former := by
    intro j r there isOpen
    unfold Bay.put at there ⊢
    dsimp only at there ⊢
    rw [List.length_set]
    rw [List.getElem?_set] at there
    split at there
    · rename_i here
      subst here
      -- an open provider in this place means that the one replaced was open
      have wasOpen : p.isClosed = false := by
        by_contra closed
        have shut : r.isClosed = true := by
          split at there
          · obtain rfl := Option.some.inj there
            exact stays (by simpa using closed)
          · cases there
        rw [isOpen] at shut
        cases shut
      exact sound.former i p found wasOpen
    · exact sound.former j r there isOpen

/-- Who is subscribed for a slot changes as the provider that is replaced does. -/
theorem Sound.change_put {i : Nat} {p q : Provider} (found : b.opened[i]? = some p)
    (next : q.Sound home) (stays : p.isClosed = true → q.isClosed = true) :
    SourceCall.change home b.subscribed (b.put i q).subscribed =
      SourceCall.change home p.registration.subscribed q.registration.subscribed := by
  have there := (List.getElem?_eq_some_iff.1 found).1
  unfold subscribed
  rw [b.current_put there]
  by_cases handed : i + 1 = b.opened.length ∧ b.isOpen = true
  · have last : b.opened.length - 1 = i := by omega
    have current : b.current = some p := by rw [b.current_eq, if_pos handed.2, last, found]
    rw [if_pos handed, current]
    rfl
  · -- a provider that is not handed out is closed, and so is what replaces it
    have closed : p.isClosed = true := by
      by_contra isOpen
      have latest := sound.former i p found (by simpa using isOpen)
      exact handed ⟨latest.2, latest.1⟩
    have before := (sound.providers p (List.mem_of_getElem? found)).unsubscribed closed
    have after := next.unsubscribed (stays closed)
    rw [if_neg handed, before, after, SourceCall.change_self, SourceCall.change_self]

/-- Where no provider is handed out, all that were opened are closed. -/
theorem Sound.allClosed (shut : b.isOpen = false) {p : Provider} (opened : p ∈ b.opened) :
    p.isClosed = true := by
  by_contra isOpen
  obtain ⟨i, found⟩ := List.getElem?_of_mem opened
  have handed := (sound.former i p found (by simpa using isOpen)).1
  rw [shut] at handed
  cases handed

/-- Where one is handed out, there is one to hand out. -/
theorem Sound.current_of_isOpen (handed : b.isOpen = true) : ∃ p, b.current = some p := by
  have some := List.length_pos_iff.2 (sound.handed handed)
  refine ⟨b.opened[b.opened.length - 1], ?_⟩
  rw [current_eq, if_pos handed, List.getElem?_eq_getElem]

/-- Closing the provider that is handed out leaves none handed out, and gives the subscription
up. -/
theorem Sound.close :
    b.close.1.Sound home ∧ b.close.1.isOpen = false ∧
      b.close.2 = SourceCall.change home b.subscribed false := by
  unfold Bay.close subscribed
  cases current : b.current with
  | none =>
    have shut : b.isOpen = false := by
      by_contra isOpen
      obtain ⟨p, handed⟩ := sound.current_of_isOpen (by simpa using isOpen)
      rw [current] at handed
      cases handed
    exact ⟨sound, shut, (SourceCall.change_self home false).symm⟩
  | some p =>
    obtain ⟨-, found⟩ := of_current current
    obtain ⟨next, closed, calls⟩ := (sound.providers p (List.mem_of_getElem? found)).close
    have put := sound.put found next fun _ => closed
    refine ⟨⟨put.providers, (fun isOpen => nomatch isOpen), ?_⟩, rfl, calls⟩
    intro i q there isOpen
    replace there : (b.opened.set (b.opened.length - 1) p.closed.1)[i]? = some q := there
    rw [List.getElem?_set] at there
    split at there
    · -- the last one is closed now
      split at there
      · obtain rfl := Option.some.inj there
        rw [closed] at isOpen
        cases isOpen
      · cases there
    · -- the others were closed before
      rename_i elsewhere
      have latest := (sound.former i q there isOpen).2
      omega

end Sound

end Bay

/-! ## What a request makes of the providers of a slot -/

namespace Directory

/-- The providers opened for each slot are sound, and a closed directory hands out none. -/
structure Sound (d : Directory) : Prop where
  bays : ∀ slot, (d.bay slot).Sound slot
  shut : d.isClosed = true → ∀ slot, (d.bay slot).isOpen = false

/-- A new directory is open, and nothing was opened yet. -/
theorem bays_build {options : Options} {config : Config} {d : Directory}
    (built : build options config = .ok d) :
    d.bays = .empty ∧ d.isClosed = false ∧ d.options = options := by
  unfold build at built
  split at built
  · cases built
  · obtain rfl := Except.ok.inj built
    exact ⟨rfl, rfl, rfl⟩

/-- A directory that was just built has had no provider at any slot. -/
theorem bay_build {options : Options} {config : Config} {d : Directory}
    (built : build options config = .ok d) (slot : SlotIndex) : d.bay slot = .empty := by
  unfold bay
  rw [(bays_build built).1]
  rfl

/-- It is sound, then. -/
theorem sound_build {options : Options} {config : Config} {d : Directory}
    (built : build options config = .ok d) :
    d.Sound where
  bays slot := by
    rw [bay_build built]
    exact Bay.sound_empty slot
  shut _ slot := by
    rw [bay_build built]
    rfl

/-- The request closes the whole directory. -/
def Op.closesAll : Op → Bool
  | .close => true
  | .provider _ | .ask .. | .network _ | .configChanged | .flush | .closeSlot _ | .availability _ |
    .config _ => false

/-- The only request that closes them all is the one to close. -/
theorem Op.eq_close_of_closesAll {op : Op} (closes : op.closesAll = true) : op = .close := by
  cases op <;> first | rfl | cases closes

/-- The options stay as they are, and a directory is closed once it was asked to close. -/
theorem lasting_step (d : Directory) (live : Liveness) (op : Op) :
    (d.step live op).directory.options = d.options ∧
      (d.step live op).directory.isClosed = (d.isClosed || op.closesAll) := by
  have kept (keeps : op.keepsOpen = true) (lasts : op.closesAll = false) :
      (d.step live op).directory.options = d.options ∧
        (d.step live op).directory.isClosed = (d.isClosed || op.closesAll) := by
    obtain ⟨options, isClosed, -⟩ := d.frame_step live keeps
    rw [lasts, Bool.or_false]
    exact ⟨options, isClosed⟩
  cases op with
  | close =>
    unfold step close
    dsimp only
    cases closed : d.isClosed with
    | true => exact ⟨rfl, closed⟩
    | false => exact ⟨rfl, rfl⟩
  | availability o => exact ⟨rfl, (Bool.or_false _).symm⟩
  | _ => exact kept rfl rfl

/-- What is found of a slot is nothing more than the provider that is handed out for it. -/
theorem bind_current (d : Directory) (slot : SlotIndex) :
    (d.bays.get? slot).bind Bay.current = (d.bay slot).current := by
  unfold bay
  cases d.bays.get? slot <;> rfl

/-- When everything is closed, each slot is. -/
theorem bay_closeAll {d d' : Directory}
    (closed : d'.bays = d.bays.mapEntries fun _ bay => bay.close.1) (slot : SlotIndex) :
    d'.bay slot = (d.bay slot).close.1 := by
  unfold bay
  rw [closed, Table.get?_mapEntries]
  cases d.bays.get? slot <;> rfl

/-- All that a request can make of the providers of one slot, with what it asks of the source for
that slot. -/
inductive BayChange (d : Directory) (live : Liveness) (slot : SlotIndex) :
    Op → Bay → List SourceCall → Prop where
  /-- Nothing, unless the slot is to be closed, a provider of it is asked, or one is to be
  opened. -/
  | stays {op : Op} (kept : op ≠ .closeSlot slot) (stillOpen : op = .close → d.isClosed = true)
      (missing : ∀ g o, op = .ask ⟨slot, g⟩ o → (d.bay slot).opened[g]? = none)
      (there : op = .provider slot → (d.bay slot).isOpen = true ∨ d.isClosed = true ∨
        d.options.slotCount ≤ slot.value) :
      BayChange d live slot op (d.bay slot) []
  /-- A provider is opened behind the others and handed out. -/
  | opens (inRange : slot.value < d.options.slotCount) (isOpen : d.isClosed = false)
    (shut : (d.bay slot).isOpen = false) :
      BayChange d live slot (.provider slot)
        ⟨(d.bay slot).opened ++ [.fresh slot (d.options.slotWorker slot)], true⟩ []
  /-- One of the providers does what it is asked. -/
  | asks {g : Nat} {p : Provider} (o : Provider.Op) (found : (d.bay slot).opened[g]? = some p) :
      BayChange d live slot (.ask ⟨slot, g⟩ o)
        ((d.bay slot).put g (p.step d.config.source live d.availability o).provider)
        (p.step d.config.source live d.availability o).effects.calls
  /-- The provider that is handed out is closed and handed out no more. -/
  | closes {op : Op} (closing : op = .closeSlot slot ∨ op = .close ∧ d.isClosed = false) :
      BayChange d live slot op (d.bay slot).close.1 (d.bay slot).close.2

/-- Source calls that are all about a slot are what that slot sees. -/
theorem callsFor_of_slot {slot : SlotIndex} {calls : List SourceCall}
    (own : ∀ call ∈ calls, call.slot = slot) (sent : List (Delivery Notice))
    (pushed : List ThresholdPush) :
    (Effects.mk sent pushed calls).callsFor slot = calls :=
  List.filter_eq_self.2 fun call made => decide_eq_true (own call made)

/-- Source calls about one slot are nothing to another one. -/
theorem callsFor_of_other {home slot : SlotIndex} {calls : List SourceCall}
    (own : ∀ call ∈ calls, call.slot = home) (other : home ≠ slot) (sent : List (Delivery Notice))
    (pushed : List ThresholdPush) :
    (Effects.mk sent pushed calls).callsFor slot = [] := by
  refine List.filter_eq_nil_iff.2 fun call made => ?_
  rw [decide_eq_true_eq, own call made]
  exact other

section Sound

variable {d : Directory} (sound : d.Sound) (live : Liveness)
include sound

/-- All requests to the source that a provider makes are for its slot. -/
theorem Sound.slot_of_call {h : Handle} {p : Provider} (found : d.find? h = some p)
    (o : Provider.Op) :
    ∀ call ∈ (p.step d.config.source live d.availability o).effects.calls, call.slot = h.slot := by
  have own := (sound.bays h.slot).providers p (List.mem_of_getElem? found)
  rw [own.calls_step]
  exact fun call made => SourceCall.slot_of_change made

/-- Closing a slot asks the source for that slot only. -/
theorem Sound.slot_of_close (slot : SlotIndex) :
    ∀ call ∈ (d.bay slot).close.2, call.slot = slot := by
  rw [(sound.bays slot).close.2.2]
  exact fun call made => SourceCall.slot_of_change made

/-- What closing all slots asks of the source for one of them is what closing that one does. -/
theorem Sound.callsFor_close (slot : SlotIndex) :
    (Effects.mk [] [] (d.bays.values.flatMap fun bay => bay.close.2)).callsFor slot =
      (d.bay slot).close.2 := by
  -- each slot asks about itself only
  have own (entry : SlotIndex × Bay) (listed : entry ∈ d.bays.entries) :
      ∀ call ∈ entry.2.close.2, call.slot = entry.1 := by
    have found : d.bay entry.1 = entry.2 := by
      unfold bay
      rw [d.bays.mem_entries_iff.1 (show (entry.1, entry.2) ∈ d.bays.entries from listed)]
      rfl
    rw [← found]
    exact sound.slot_of_close entry.1
  have each (entries : List (SlotIndex × Bay))
    (listed : ∀ entry ∈ entries, entry ∈ d.bays.entries) :
      (entries.flatMap fun entry => entry.2.close.2).filter (fun call => call.slot = slot) =
        (entries.filter fun entry => entry.1 = slot).flatMap fun entry => entry.2.close.2 := by
    induction entries with
    | nil => rfl
    | cons entry entries ih =>
      have here := own entry (listed entry List.mem_cons_self)
      have later := ih fun x there => listed x (List.mem_cons_of_mem _ there)
      rw [List.flatMap_cons, List.filter_append, later]
      by_cases mine : entry.1 = slot
      · rw [List.filter_cons_of_pos (by simpa using mine), List.flatMap_cons]
        have all : entry.2.close.2.filter (fun call => call.slot = slot) = entry.2.close.2 :=
          callsFor_of_slot (fun call made => (here call made).trans mine) [] []
        rw [all]
      · rw [List.filter_cons_of_neg (by simpa using mine)]
        have none : entry.2.close.2.filter (fun call => call.slot = slot) = [] :=
          callsFor_of_other here mine [] []
        rw [none, List.nil_append]
  show (((d.bays.entries.map Prod.snd).flatMap fun bay => bay.close.2).filter fun call =>
    call.slot = slot) = _
  rw [List.flatMap_map, each d.bays.entries fun _ there => there, Table.filter_entries_eq]
  unfold bay
  cases d.bays.get? slot with
  | none => rfl
  | some b => exact List.append_nil _

/-- What a request makes of the providers of a slot is one of these four things. -/
theorem Sound.bayChange_step (op : Op) (slot : SlotIndex) :
    BayChange d live slot op ((d.step live op).directory.bay slot)
      ((d.step live op).effects.callsFor slot) := by
  cases op with
  | provider j =>
    unfold step provider
    dsimp only
    split
    · rename_i outOfRange
      refine .stays (by simp) (by simp) (by simp) ?_
      rintro ⟨⟩
      exact .inr (.inr outOfRange)
    · rename_i inRange
      split
      · rename_i closed
        exact .stays (by simp) (by simp) (by simp) fun _ => .inr (.inl closed)
      · rename_i isOpen
        split
        · rename_i handed
          refine .stays (by simp) (by simp) (by simp) ?_
          rintro ⟨⟩
          exact .inl handed
        · rename_i shut
          dsimp only
          rw [d.bay_set rfl]
          by_cases mine : slot = j
          · subst mine
            rw [if_pos rfl]
            refine .opens ?_ (by simpa using isOpen) (by simpa using shut)
            simpa using inRange
          · rw [if_neg mine]
            refine .stays (by simp) (by simp) (by simp) ?_
            rintro ⟨⟩
            exact absurd rfl mine
  | ask h o =>
    unfold step ask
    dsimp only
    split
    · rename_i missing
      refine .stays (by simp) (by simp) ?_ (by simp)
      rintro g q ⟨⟩
      exact missing
    · rename_i p found
      have own := sound.slot_of_call live found o
      dsimp only
      rw [d.bay_set rfl]
      by_cases mine : slot = h.slot
      · subst mine
        rw [if_pos rfl]
        have calls : (p.step d.config.source live d.availability o).effects.callsFor h.slot =
            (p.step d.config.source live d.availability o).effects.calls :=
              callsFor_of_slot own [] []
        rw [calls]
        exact .asks o found
      · rw [if_neg mine]
        have calls : (p.step d.config.source live d.availability o).effects.callsFor slot = [] :=
          callsFor_of_other own (Ne.symm mine) [] []
        rw [calls]
        refine .stays (by simp) (by simp) ?_ (by simp)
        rintro g q ⟨⟩
        exact absurd rfl mine
  | closeSlot j =>
    unfold step closeSlot
    dsimp only
    by_cases mine : j = slot
    · subst mine
      cases current : (d.bay j).current with
      | none =>
        -- where no provider is handed out, closing the slot is closing nothing
        have nothing : (d.bay j).close = (d.bay j, []) := by
          unfold Bay.close
          rw [current]
        have change : BayChange d live j (.closeSlot j) (d.bay j).close.1 (d.bay j).close.2 :=
          .closes (.inl rfl)
        rw [nothing] at change
        exact change
      | some p =>
        dsimp only
        rw [d.bay_set_self rfl]
        rw [callsFor_of_slot (sound.slot_of_close j)]
        exact .closes (.inl rfl)
    · have stays : BayChange d live slot (.closeSlot j) (d.bay slot) [] :=
        .stays (fun same => mine (Op.closeSlot.inj same)) (by simp) (by simp) (by simp)
      split
      · exact stays
      · dsimp only
        rw [d.bay_set rfl, if_neg (Ne.symm mine), callsFor_of_other (sound.slot_of_close j) mine]
        exact stays
  | close =>
    unfold step close
    dsimp only
    split
    · rename_i closed
      exact .stays (by simp) (fun _ => closed) (by simp) (by simp)
    · rename_i isOpen
      dsimp only
      rw [sound.callsFor_close slot, bay_closeAll rfl]
      exact .closes (.inr ⟨rfl, by simpa using isOpen⟩)
  | network event | configChanged =>
    unfold step post
    dsimp only
    split <;> exact .stays (by simp) (by simp) (by simp) (by simp)
  | flush => exact .stays (by simp) (by simp) (by simp) (by simp)
  | availability o => exact .stays (by simp) (by simp) (by simp) (by simp)
  | config o => exact .stays (by simp) (by simp) (by simp) (by simp)

/-- What the source is asked for a slot is what changes in who is subscribed for it. -/
theorem Sound.callsFor_step (op : Op) (slot : SlotIndex) :
    (d.step live op).effects.callsFor slot =
      SourceCall.change slot (d.bay slot).subscribed
        ((d.step live op).directory.bay slot).subscribed := by
  have bay := sound.bays slot
  have change := sound.bayChange_step live op slot
  generalize (d.step live op).directory.bay slot = after,
    (d.step live op).effects.callsFor slot = calls at change ⊢
  cases change with
  | stays => exact (SourceCall.change_self slot _).symm
  | opens inRange isOpen shut =>
    -- neither before nor after is anybody subscribed
    have before : (d.bay slot).subscribed = false := by
      unfold Bay.subscribed
      rw [Bay.current_eq, shut]
      rfl
    have after : (Bay.mk ((d.bay slot).opened ++ [.fresh slot (d.options.slotWorker slot)])
        true).subscribed = false := by
      unfold Bay.subscribed
      rw [Bay.current_push]
      rfl
    rw [before, after, SourceCall.change_self]
  | @asks g p o found =>
    have own := bay.providers p (List.mem_of_getElem? found)
    have stays : p.isClosed = true →
        (p.step d.config.source live d.availability o).provider.isClosed = true := by
      intro closed
      rw [(p.frame_step _ _ _ o).2, closed, Bool.true_or]
    rw [bay.change_put found (own.step _ _ _ o) stays]
    exact own.calls_step _ _ _ o
  | closes closing =>
    have after : (d.bay slot).close.1.subscribed = false := by
      unfold Bay.subscribed
      rw [Bay.current_eq, bay.close.2.1]
      rfl
    rw [after]
    exact bay.close.2.2

/-- Whatever is asked, at most the providers that are handed out are open, and a closed directory
hands out none. -/
theorem Sound.step (op : Op) : (d.step live op).directory.Sound := by
  refine ⟨fun slot => ?_, fun closed slot => ?_⟩
  · have bay := sound.bays slot
    have change := sound.bayChange_step live op slot
    generalize (d.step live op).directory.bay slot = after,
      (d.step live op).effects.callsFor slot = calls at change ⊢
    cases change with
    | stays => exact bay
    | opens inRange isOpen shut => exact bay.push _ shut
    | @asks g p o found =>
      have own := bay.providers p (List.mem_of_getElem? found)
      refine bay.put found (own.step _ _ _ o) fun closed => ?_
      rw [(p.frame_step _ _ _ o).2, closed, Bool.true_or]
    | closes closing => exact bay.close.1
  · have bay := sound.bays slot
    have change := sound.bayChange_step live op slot
    rw [(d.lasting_step live op).2] at closed
    generalize (d.step live op).directory.bay slot = after,
      (d.step live op).effects.callsFor slot = calls at change ⊢
    cases change with
    | stays kept stillOpen =>
      rcases Bool.or_eq_true_iff.1 closed with before | now
      · exact sound.shut before slot
      · exact sound.shut (stillOpen (Op.eq_close_of_closesAll now)) slot
    | opens inRange isOpen shut =>
      rw [isOpen] at closed
      cases closed
    | asks o found =>
      rcases Bool.or_eq_true_iff.1 closed with before | now
      · exact sound.shut before slot
      · cases now
    | closes closing => exact bay.close.2.1

/-- A slot that was closed hands out no provider. -/
theorem Sound.shut_closeSlot (slot : SlotIndex) :
    ((d.step live (.closeSlot slot)).directory.bay slot).isOpen = false := by
  have change := sound.bayChange_step live (.closeSlot slot) slot
  generalize (d.step live (.closeSlot slot)).directory.bay slot = after,
    (d.step live (.closeSlot slot)).effects.callsFor slot = calls at change ⊢
  cases change with
  | stays kept => exact absurd rfl kept
  | closes => exact (sound.bays slot).close.2.1

/-- A slot of which no provider is handed out stays so, unless it is asked for. -/
theorem Sound.shut_step {slot : SlotIndex} (shut : (d.bay slot).isOpen = false) {op : Op}
    (other : op ≠ .provider slot) :
    ((d.step live op).directory.bay slot).isOpen = false := by
  have change := sound.bayChange_step live op slot
  generalize (d.step live op).directory.bay slot = after,
    (d.step live op).effects.callsFor slot = calls at change ⊢
  cases change with
  | stays => exact shut
  | opens => exact absurd rfl other
  | asks => exact shut
  | closes => exact (sound.bays slot).close.2.1

end Sound

end Directory

end AccessStatus
