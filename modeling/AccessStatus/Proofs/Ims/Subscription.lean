import AccessStatus.Ims.Monitor
import AccessStatus.Proofs.Stream.World
import Mathlib.Data.List.Count

/-!
# The subscription to the source of registration status

A registration monitor asks the source only when its own subscription changes (`calls_step`), and it
is subscribed exactly while somebody is registered, dead consumers that were not yet swept away
included (`InUse.step`). So the requests to the source subscribe and unsubscribe in turn, whoever
dies when. The main statement, `counts_references`, adds when dead consumers cannot hold the
subscription up any longer, and that it is over for good once the monitor is closed.
-/

namespace AccessStatus

/-! ## Requests in turn -/

namespace SourceCall

/-- The request that is made after `made` requests in turn. -/
def turn (slot : SlotIndex) (made : Nat) : SourceCall :=
  if made % 2 = 0 then .subscribe slot else .unsubscribe slot

/-- The requests subscribe and unsubscribe in turn, the first of them subscribing. -/
def InTurn (slot : SlotIndex) (calls : List SourceCall) : Prop :=
  calls = (List.range calls.length).map (turn slot)

variable {slot : SlotIndex} {calls : List SourceCall}

theorem inTurn_nil (slot : SlotIndex) : InTurn slot [] := rfl

/-- The next request in turn may be added. -/
theorem InTurn.concat (inTurn : InTurn slot calls) :
    InTurn slot (calls ++ [turn slot calls.length]) := by
  unfold InTurn at *
  rw [List.length_append, List.length_singleton, List.range_succ, List.map_append,
    List.map_singleton, ← inTurn]

/-- After an even number of requests in turn as many subscribed as unsubscribed, else one more. -/
theorem count_turn (slot : SlotIndex) (n : Nat) :
    ((List.range n).map (turn slot)).count (.subscribe slot) =
      ((List.range n).map (turn slot)).count (.unsubscribe slot) + n % 2 := by
  induction n with
  | zero => rfl
  | succ n ih =>
    rw [List.range_succ, List.map_append, List.count_append, List.count_append, ih]
    rcases Nat.mod_two_eq_zero_or_one n with even | odd
    · have next : turn slot n = .subscribe slot := if_pos even
      simp [next]
      omega
    · have next : turn slot n = .unsubscribe slot := if_neg (by omega)
      simp [next]
      omega

/-- Calls in turn subscribe as often as they unsubscribe, or once more if their number is odd. -/
theorem InTurn.count_eq (inTurn : InTurn slot calls) :
    calls.count (.subscribe slot) = calls.count (.unsubscribe slot) + calls.length % 2 := by
  have counted := count_turn slot calls.length
  unfold InTurn at inTurn
  rwa [← inTurn] at counted

/-- The requests that are made at even places subscribe, the others unsubscribe. -/
theorem InTurn.getElem_eq (inTurn : InTurn slot calls) {i : Nat} (made : i < calls.length) :
    calls[i] = if i % 2 = 0 then .subscribe slot else .unsubscribe slot := by
  have turn : calls[i]? = some (turn slot i) := by
    rw [inTurn, List.getElem?_map, List.getElem?_range made, Option.map_some]
  exact Option.some.inj ((List.getElem?_eq_getElem made).symm.trans turn)

/-- What the source is asked for when a subscription changes from `before` to `after`. -/
def change (slot : SlotIndex) (before after : Bool) : List SourceCall :=
  if after = before then [] else if before then [.unsubscribe slot] else [.subscribe slot]

@[simp] theorem change_self (slot : SlotIndex) (held : Bool) : change slot held held = [] :=
  if_pos rfl

theorem slot_of_change {before after : Bool} {call : SourceCall}
    (made : call ∈ change slot before after) :
    call.slot = slot := by
  unfold change at made
  split at made
  · cases made
  · split at made
    · obtain rfl := List.mem_singleton.1 made
      rfl
    · obtain rfl := List.mem_singleton.1 made
      rfl

/-- Requests in turn stay in turn when a subscription changes, and their number tells whether it is
held. -/
theorem InTurn.change {before : Bool} (inTurn : InTurn slot calls)
    (parity : calls.length % 2 = if before then 1 else 0) (after : Bool) :
    InTurn slot (calls ++ SourceCall.change slot before after) ∧
      (calls ++ SourceCall.change slot before after).length % 2 = if after then 1 else 0 := by
  have next := inTurn.concat
  by_cases same : after = before
  · rw [same, change_self, List.append_nil]
    exact ⟨inTurn, parity⟩
  · -- one request is added, and it is the one whose turn it is
    have one : SourceCall.change slot before after = [turn slot calls.length] := by
      unfold SourceCall.change turn
      rw [if_neg same, parity]
      cases before <;> rfl
    have other : (if after then 1 else 0) = 1 - if before then 1 else 0 := by
      cases before <;> cases after <;> first | rfl | exact absurd rfl same
    rw [one, List.length_append, List.length_singleton]
    refine ⟨next, ?_⟩
    omega

end SourceCall

namespace RegistrationMonitor

/-! ## What one request preserves -/

/-- The monitor is subscribed exactly while somebody is registered, and nobody is once it is
closed. -/
structure InUse (m : RegistrationMonitor) : Prop where
  held : m.subscribed = true ↔ m.notifier.registry.subscriptions ≠ []
  closed : m.isClosed = true → m.notifier.registry.subscriptions = []

/-- In the beginning nobody is registered and the monitor is not subscribed. -/
theorem inUse_fresh (slot : SlotIndex) : (fresh slot).InUse where
  held := by simp [fresh, Notifier.empty, Registry.empty]
  closed _ := rfl

section Release

variable (m : RegistrationMonitor) (live : Liveness)

/-- A release sweeps, and leaves the monitor subscribed if it was and somebody is left. -/
theorem releaseIfUnused_eq :
    m.releaseIfUnused live =
      if m.subscribed && (m.notifier.sweep live).registry.subscriptions.isEmpty then
        ({ m with notifier := m.notifier.sweep live, subscribed := false }, [.unsubscribe m.slot])
      else ({ m with notifier := m.notifier.sweep live }, []) := rfl

/-- Where the subscription is released if unused, dead consumers are swept away first. -/
theorem notifier_releaseIfUnused : (m.releaseIfUnused live).1.notifier = m.notifier.sweep live := by
  rw [releaseIfUnused_eq]
  split <;> rfl

theorem isClosed_releaseIfUnused : (m.releaseIfUnused live).1.isClosed = m.isClosed := by
  rw [releaseIfUnused_eq]
  split <;> rfl

/-- After a release the monitor is subscribed exactly if it was before and a live consumer is
registered. -/
theorem subscribed_releaseIfUnused :
    (m.releaseIfUnused live).1.subscribed = true ↔
      m.subscribed = true ∧ (m.notifier.sweep live).registry.subscriptions ≠ [] := by
  rw [releaseIfUnused_eq]
  split
  · rename_i unused
    have empty := (Bool.and_eq_true_iff.1 unused).2
    simp [List.isEmpty_iff.1 empty]
  · rename_i used
    simp only [Bool.and_eq_true, not_and, List.isEmpty_iff] at used
    exact ⟨fun held => ⟨held, used held⟩, And.left⟩

/-- Whoever is registered after a release is live. -/
theorem liveCount_releaseIfUnused :
    (m.releaseIfUnused live).1.liveCount live =
      (m.releaseIfUnused live).1.notifier.registry.subscriptions.length := by
  rw [liveCount, Registry.liveSize, notifier_releaseIfUnused]
  refine List.countP_eq_length.2 fun s kept => ?_
  exact (List.mem_filter.1 kept).2

end Release

/-- A release keeps a monitor in use that was so but for registrations that are gone. -/
theorem inUse_releaseIfUnused {m : RegistrationMonitor} (live : Liveness)
    (closed : m.isClosed = true → m.notifier.registry.subscriptions = [])
    (held : m.notifier.registry.subscriptions ≠ [] → m.subscribed = true) :
    (m.releaseIfUnused live).1.InUse := by
  have fewer : (m.notifier.sweep live).registry.subscriptions ≠ [] →
      m.notifier.registry.subscriptions ≠ [] := by
    intro kept none
    exact kept (by simp [Notifier.sweep, Registry.sweep, none])
  constructor
  · rw [subscribed_releaseIfUnused, notifier_releaseIfUnused]
    exact ⟨And.right, fun kept => ⟨held (fewer kept), kept⟩⟩
  · rw [isClosed_releaseIfUnused, notifier_releaseIfUnused]
    intro isClosed
    by_contra kept
    exact fewer kept (closed isClosed)

/-- Whatever is asked, the source is asked for something exactly if the monitor is subscribed after
it and was not before, or the other way round. -/
theorem calls_step (m : RegistrationMonitor) (live : Liveness) (op : Op) :
    (m.step live op).calls =
      if (m.step live op).monitor.subscribed = m.subscribed then []
      else if m.subscribed then [.unsubscribe m.slot] else [.subscribe m.slot] := by
  -- a status and a removal both end with this
  have release (n : RegistrationMonitor) :
      (n.releaseIfUnused live).2 =
        if (n.releaseIfUnused live).1.subscribed = n.subscribed then []
        else if n.subscribed then [.unsubscribe n.slot] else [.subscribe n.slot] := by
    rw [releaseIfUnused_eq]
    split
    · rename_i unused
      simp [(Bool.and_eq_true_iff.1 unused).1]
    · simp
  cases op with
  | register c tag =>
    unfold step
    cases m.isClosed <;> cases subscribed : m.subscribed <;> simp [subscribed]
  | unregister c =>
    unfold step
    dsimp only
    split
    · exact release _
    · simp
  | changed r =>
    unfold step
    dsimp only
    split
    · simp
    · exact release _
  | close =>
    unfold step close
    cases m.isClosed <;> cases subscribed : m.subscribed <;> simp [subscribed]

/-- A monitor stays with its slot. -/
theorem slot_step (m : RegistrationMonitor) (live : Liveness) (op : Op) :
    (m.step live op).monitor.slot = m.slot := by
  have release (n : RegistrationMonitor) : (n.releaseIfUnused live).1.slot = n.slot := by
    rw [releaseIfUnused_eq]
    split <;> rfl
  cases op with
  | register c tag =>
    unfold step
    dsimp only
    split <;> rfl
  | unregister c =>
    unfold step
    dsimp only
    split
    · exact release _
    · rfl
  | changed r =>
    unfold step
    dsimp only
    split
    · rfl
    · exact release _
  | close =>
    unfold step close
    dsimp only
    split <;> rfl

/-- Nobody is registered after a closing. -/
theorem subscriptions_close (m : RegistrationMonitor) (closed : m.isClosed = true →
    m.notifier.registry.subscriptions = []) : m.close.1.notifier.registry.subscriptions = [] := by
  unfold close
  split
  · rename_i isClosed
    exact closed isClosed
  · rfl

/-- Whatever is asked, the monitor stays subscribed exactly while somebody is registered. -/
theorem InUse.step {m : RegistrationMonitor} (inUse : m.InUse) (live : Liveness) (op : Op) :
    (m.step live op).monitor.InUse := by
  cases op with
  | register c tag =>
    unfold RegistrationMonitor.step
    dsimp only
    split
    · exact inUse
    · rename_i isOpen
      refine ⟨⟨fun _ => ?_, fun _ => rfl⟩, fun closed => absurd closed isOpen⟩
      exact List.append_ne_nil_of_right_ne_nil _ (List.cons_ne_nil _ [])
  | unregister c =>
    unfold RegistrationMonitor.step
    dsimp only
    split
    · -- somebody who is left was there before the removal
      have fewer : (m.notifier.unregister c).registry.subscriptions ≠ [] →
          m.notifier.registry.subscriptions ≠ [] := by
        intro kept none
        exact kept (by simp [Notifier.unregister, Registry.remove, none])
      refine inUse_releaseIfUnused live (fun closed => ?_) fun kept => inUse.held.2 (fewer kept)
      by_contra kept
      exact fewer kept (inUse.closed closed)
    · exact inUse
  | changed r =>
    unfold RegistrationMonitor.step
    dsimp only
    split
    · exact inUse
    · rename_i isOpen
      refine inUse_releaseIfUnused live (fun closed => absurd closed isOpen) fun kept =>
        inUse.held.2 fun none => kept ?_
      show (m.notifier.publishIfChanged live r).1.registry.subscriptions = []
      unfold Notifier.publishIfChanged
      split
      · simp [Notifier.publish, Registry.sweep, none]
      · exact none
  | close =>
    have empty := m.subscriptions_close inUse.closed
    refine ⟨?_, fun _ => empty⟩
    show m.close.1.subscribed = true ↔ m.close.1.notifier.registry.subscriptions ≠ []
    rw [empty]
    unfold close
    split
    · rename_i closed
      simp [inUse.held, inUse.closed closed]
    · simp

/-- A closed monitor stays closed. -/
theorem isClosed_step {m : RegistrationMonitor} (closed : m.isClosed = true) (live : Liveness)
    (op : Op) :
    (m.step live op).monitor.isClosed = true := by
  cases op with
  | register c tag => simp [step, closed]
  | unregister c =>
    unfold step
    dsimp only
    split
    · rw [isClosed_releaseIfUnused]
      exact closed
    · exact closed
  | changed r => simp [step, closed]
  | close => simp [step, close, closed]

/-- A monitor is closed after it was closed. -/
theorem isClosed_close (m : RegistrationMonitor) : m.close.1.isClosed = true := by
  unfold close
  split
  · assumption
  · rfl

/-- The source is never asked for anything by a closed monitor, which is not subscribed and stays
so. -/
theorem InUse.silent {m : RegistrationMonitor} (inUse : m.InUse) (closed : m.isClosed = true)
    (live : Liveness) (op : Op) : m.subscribed = false ∧ (m.step live op).calls = [] := by
  have released {n : RegistrationMonitor} (use : n.InUse) (closed : n.isClosed = true) :
      n.subscribed = false := by
    by_contra held
    exact use.held.1 (by simpa using held) (use.closed closed)
  have before := released inUse closed
  have after := released (inUse.step live op) (isClosed_step closed live op)
  refine ⟨before, ?_⟩
  rw [calls_step, after, before, if_pos rfl]

/-! ## Whole runs -/

/-- A monitor and all that it has asked of the source so far. -/
structure Account where
  monitor : RegistrationMonitor
  calls : List SourceCall

/-- The monitor after a request and what it has asked of the source by then, and what the request
sends. -/
def serve : Serving Account Op Registration := fun a live op =>
  (⟨(a.monitor.step live op).monitor, a.calls ++ (a.monitor.step live op).calls⟩,
    (a.monitor.step live op).sent)

/-- The beginning of a run: the monitor is fresh, consumers may exist. -/
def beginning (slot : SlotIndex) (room : Mailroom Registration) : World Account Registration :=
  ⟨⟨fresh slot, []⟩, room⟩

/-- The source was asked in turn, last to subscribe exactly if the monitor is subscribed. -/
structure Settled (slot : SlotIndex) (a : Account) : Prop where
  own : a.monitor.slot = slot
  inUse : a.monitor.InUse
  inTurn : SourceCall.InTurn slot a.calls
  parity : a.calls.length % 2 = if a.monitor.subscribed then 1 else 0

/-- Each request asks the source in turn, as the subscription changes. -/
theorem Settled.step {slot : SlotIndex} {a : Account} (settled : Settled slot a) (live : Liveness)
    (op : Op) :
    Settled slot (serve a live op).1 := by
  have calls : (a.monitor.step live op).calls =
      SourceCall.change a.monitor.slot a.monitor.subscribed
        (a.monitor.step live op).monitor.subscribed :=
    calls_step a.monitor live op
  obtain ⟨inTurn, parity⟩ :=
    settled.inTurn.change settled.parity (a.monitor.step live op).monitor.subscribed
  rw [settled.own] at calls
  rw [← calls] at inTurn parity
  exact ⟨(slot_step _ live op).trans settled.own, settled.inUse.step live op, inTurn, parity⟩

/-- So does every run. -/
theorem settled_after (slot : SlotIndex) (room : Mailroom Registration)
    (run : List (World.Act Op)) :
    Settled slot ((beginning slot room).after serve run).state := by
  induction run using List.reverseRecOn with
  | nil => exact ⟨rfl, inUse_fresh slot, SourceCall.inTurn_nil slot, rfl⟩
  | append_singleton run act ih =>
    rw [World.after_concat]
    cases act with
    | ask op => exact ih.step _ op
    | happen e => exact ih

/-- From a closed monitor on, the source is not asked for anything more. -/
theorem silent_after {w : World Account Registration} (inUse : w.state.monitor.InUse)
    (closed : w.state.monitor.isClosed = true) (later : List (World.Act Op)) :
    (w.after serve later).state.monitor.subscribed = false ∧
      (w.after serve later).state.calls = w.state.calls := by
  induction later generalizing w with
  | nil => exact ⟨(inUse.silent closed w.room.live .close).1, rfl⟩
  | cons act later ih =>
    cases act with
    | happen e => exact ih (w := w.next serve (.happen e)) inUse closed
    | ask op =>
      obtain ⟨released, same⟩ := ih (w := w.next serve (.ask op)) (inUse.step w.room.live op)
        (isClosed_step closed w.room.live op)
      have quiet : w.state.calls ++ (w.state.monitor.step w.room.live op).calls =
          w.state.calls := by
        rw [(inUse.silent closed w.room.live op).2, List.append_nil]
      exact ⟨released, same.trans quiet⟩

/-- What can be relied on of the subscription to the source. -/
structure CountsReferences (slot : SlotIndex) (w : World Account Registration) : Prop where
  /-- The source was asked to subscribe and to unsubscribe in turn, first to subscribe. -/
  inTurn : ∀ i (made : i < w.state.calls.length),
    w.state.calls[i] = if i % 2 = 0 then .subscribe slot else .unsubscribe slot
  /-- It was asked to subscribe once more than to unsubscribe while the monitor is subscribed, else
  as often. -/
  balance : w.state.calls.count (.subscribe slot) =
    w.state.calls.count (.unsubscribe slot) + if w.state.monitor.subscribed then 1 else 0
  /-- The monitor is subscribed exactly while somebody is registered, live or not. -/
  held : w.state.monitor.subscribed = true ↔ w.state.monitor.notifier.registry.subscriptions ≠ []
  /-- A live consumer always holds the subscription. -/
  live : 0 < w.state.monitor.liveCount w.room.live → w.state.monitor.subscribed = true
  /-- After a status that an open monitor takes only live consumers hold it. -/
  changed : ∀ r, w.state.monitor.isClosed = false →
    ((w.next serve (.ask (.changed r))).state.monitor.subscribed = true ↔
      0 < (w.next serve (.ask (.changed r))).state.monitor.liveCount
        (w.next serve (.ask (.changed r))).room.live)
  /-- So it is after a removal that found something to remove. -/
  unregistered : ∀ c, (w.state.monitor.step w.room.live (.unregister c)).answer = .flag true →
    ((w.next serve (.ask (.unregister c))).state.monitor.subscribed = true ↔
      0 < (w.next serve (.ask (.unregister c))).state.monitor.liveCount
        (w.next serve (.ask (.unregister c))).room.live)
  /-- Whatever happens after the monitor was closed, it is not subscribed, and the source is not
  asked again. -/
  closed : ∀ later,
    (((w.next serve (.ask .close)).after serve later).state.monitor.subscribed = false) ∧
      ((w.next serve (.ask .close)).after serve later).state.calls =
        (w.next serve (.ask .close)).state.calls

/-- A monitor that has just released what was unused is subscribed exactly if a live consumer is
registered. -/
theorem subscribed_iff_of_swept {m : RegistrationMonitor} (inUse : m.InUse) {live : Liveness}
    (swept : m.liveCount live = m.notifier.registry.subscriptions.length) :
    m.subscribed = true ↔ 0 < m.liveCount live := by
  rw [inUse.held, swept, List.length_pos_iff]

/-- After every run, whoever registers, dies or is dead before it registers: the source was asked in
turn, and it is held exactly while somebody is registered; what dead consumers hold is released by
the next status or removal, and everything for good by the closing of the monitor. -/
theorem counts_references (slot : SlotIndex) (room : Mailroom Registration)
    (run : List (World.Act Op)) :
    CountsReferences slot ((beginning slot room).after serve run) := by
  have settled := settled_after slot room run
  -- what is settled says all that is needed of the run
  generalize (beginning slot room).after serve run = w at *
  refine ⟨?_, ?_, settled.inUse.held, ?_, ?_, ?_, ?_⟩
  · intro i made
    exact settled.inTurn.getElem_eq made
  · rw [settled.inTurn.count_eq, settled.parity]
  · intro some
    obtain ⟨s, registered, -⟩ := List.countP_pos_iff.1 some
    exact settled.inUse.held.2 (List.ne_nil_of_mem registered)
  · intro r isOpen
    refine subscribed_iff_of_swept (settled.inUse.step w.room.live (.changed r)) ?_
    rw [w.live_ask]
    show (w.state.monitor.step w.room.live (.changed r)).monitor.liveCount w.room.live =
      (w.state.monitor.step w.room.live (.changed r)).monitor.notifier.registry.subscriptions.length
    unfold step
    rw [isOpen]
    exact liveCount_releaseIfUnused _ _
  · intro c found
    refine subscribed_iff_of_swept (settled.inUse.step w.room.live (.unregister c)) ?_
    rw [w.live_ask]
    show (w.state.monitor.step w.room.live (.unregister c)).monitor.liveCount w.room.live =
      (w.state.monitor.step w.room.live
        (.unregister c)).monitor.notifier.registry.subscriptions.length
    unfold step at found ⊢
    dsimp only at found ⊢
    split at found
    · rename_i registered
      rw [if_pos registered]
      exact liveCount_releaseIfUnused _ _
    · cases found
  · intro later
    refine silent_after (settled.inUse.step w.room.live .close) ?_ later
    show w.state.monitor.close.1.isClosed = true
    unfold close
    split
    · assumption
    · rfl

/-- The consumer is dead before it registers. -/
def deadRegistration : List (World.Act Op) :=
  [.happen (.invalidate ⟨0⟩), .ask (.register ⟨0⟩ ⟨4⟩)]

/-- It holds the subscription until the next status, which releases it. -/
theorem counts_deadRegistration :
    let w := (beginning ⟨1⟩ Mailroom.empty.openBox).after serve deadRegistration
    let told := w.next serve (.ask (.changed (.unregistered 3)))
    CountsReferences ⟨1⟩ w ∧ w.state.monitor.subscribed = true ∧
      w.state.monitor.liveCount w.room.live = 0 ∧ told.state.monitor.subscribed = false ∧
      told.state.calls = [.subscribe ⟨1⟩, .unsubscribe ⟨1⟩] := by
  intro w told
  have counts : CountsReferences ⟨1⟩ w :=
    counts_references ⟨1⟩ Mailroom.empty.openBox deadRegistration
  have noneLive : ¬ 0 < told.state.monitor.liveCount told.room.live := by decide
  have released := mt (counts.changed (.unregistered 3) (by decide)).1 noneLive
  exact ⟨counts, by decide, by decide, Bool.eq_false_iff.2 released, by decide⟩

end RegistrationMonitor

end AccessStatus
