import AccessStatus.Proofs.Call.Streams
import AccessStatus.Proofs.Data.Members
import AccessStatus.Proofs.Provider.Backlog
import AccessStatus.Proofs.Provider.Lifecycle
import AccessStatus.Proofs.Stream.Stillness

/-!
# Numbers that are no class

Some requests name a traffic class by its number, or name one for which they make no sense. Which of
them are invalid depends on the request alone (`invalid?`), never on the state: whether anybody is
registered, whether something is closed, and what waits. An invalid request is refused with its
number, and nothing else comes of it, so it may as well not have been made. The main statement is
`invalid_refused_atomically`.
-/

namespace AccessStatus

/-- Whoever refuses what is invalid, with its number, and nothing else refuses a request exactly if
it is invalid. -/
theorem refused_iff_invalid {answer : Answer} {invalid? : Option UInt32}
    (refuses : ∀ raw, invalid? = some raw → answer = .refused (.invalidTrafficClass raw))
    (accepts : invalid? = none → ∀ raw, answer ≠ .refused (.invalidTrafficClass raw))
    (raw : UInt32) :
    answer = .refused (.invalidTrafficClass raw) ↔ invalid? = some raw := by
  constructor
  · intro refused
    cases invalid : invalid? with
    | none => exact absurd refused (accepts invalid raw)
    | some n =>
      rw [refuses n invalid] at refused
      cases refused
      rfl
  · exact refuses raw

/-! ## Numbers -/

namespace TrafficClass

/-- A number that finds no class is the number of none. -/
theorem ofRaw?_eq_none_iff (raw : UInt32) :
    ofRaw? raw = none ↔ ∀ c : TrafficClass, c.raw ≠ raw := by
  constructor
  · rintro missing c rfl
    cases missing.symm.trans (ofRaw?_raw c)
  · intro noClass
    cases found : ofRaw? raw with
    | none => rfl
    | some c => exact absurd (raw_of_ofRaw? found) (noClass c)

/-- The number of a class has a single bit. -/
theorem raw_eq_two_pow (c : TrafficClass) : ∃ k, c.raw.toNat = 2 ^ k := by
  cases c with
  | mms => exact ⟨1, rfl⟩
  | ims => exact ⟨6, rfl⟩
  | emergency => exact ⟨9, rfl⟩
  | xcap => exact ⟨11, rfl⟩

/-- A combination of bits is the number of no class. -/
theorem raw_ne_of_bits {raw : UInt32} {i j : Nat} (differ : i ≠ j)
    (first : raw.toNat.testBit i = true) (second : raw.toNat.testBit j = true) (c : TrafficClass) :
    c.raw ≠ raw := by
  rintro rfl
  obtain ⟨k, single⟩ := c.raw_eq_two_pow
  rw [single, Nat.testBit_two_pow] at first second
  exact differ ((of_decide_eq_true first).symm.trans (of_decide_eq_true second))

end TrafficClass

/-! ## Calls -/

namespace CallMonitor

/-- The number for which a request is invalid. Media are reported for two classes only, and limits
are set for no others. -/
def Op.invalid? : Op → Option UInt32
  | .registerMedia raw .. | .unregisterMedia raw _ =>
    if raw = TrafficClass.ims.raw ∨ raw = TrafficClass.emergency.raw then none else some raw
  | .requestThresholds r => if r.trafficClass.carriesMedia then none else some r.trafficClass.raw
  | _ => none

/-- Media are reported for no other class than these two. -/
theorem mediaClass_of_other {raw : UInt32}
    (other : ¬ (raw = TrafficClass.ims.raw ∨ raw = TrafficClass.emergency.raw)) :
    mediaClass raw = .error (.invalidTrafficClass raw) := by
  unfold mediaClass
  cases found : TrafficClass.ofRaw? raw with
  | none => rfl
  | some c =>
    have number : c.raw = raw := TrafficClass.raw_of_ofRaw? found
    cases c with
    | mms | xcap => rfl
    | ims => exact absurd (.inl number.symm) other
    | emergency => exact absurd (.inr number.symm) other

/-- The two raw values of media classes name a class. -/
theorem mediaClass_of_media {raw : UInt32}
    (media : raw = TrafficClass.ims.raw ∨ raw = TrafficClass.emergency.raw) :
    ∃ c, mediaClass raw = .ok c := by
  rcases media with rfl | rfl
  · exact ⟨.ims, rfl⟩
  · exact ⟨.emergency, rfl⟩

section Step

variable (m : CallMonitor) (live : Liveness) (connected : TrafficClass → Bool)

/-- An invalid request is refused with its number. It changes nothing, sends nothing and pushes
nothing. -/
theorem step_of_invalid {op : Op} {raw : UInt32} (invalid : op.invalid? = some raw) :
    m.step live connected op = ⟨m, .refused (.invalidTrafficClass raw), [], []⟩ := by
  cases op with
  | registerMedia n c tag | unregisterMedia n c =>
    by_cases media : n = TrafficClass.ims.raw ∨ n = TrafficClass.emergency.raw
    · cases (if_pos media).symm.trans invalid
    · obtain rfl : n = raw := Option.some.inj ((if_neg media).symm.trans invalid)
      unfold step
      dsimp only
      rw [mediaClass_of_other media]
  | requestThresholds r =>
    cases media : r.trafficClass.carriesMedia with
    | true => cases (if_pos media).symm.trans invalid
    | false =>
      have noMedia : ¬ r.trafficClass.carriesMedia = true := by simp [media]
      obtain rfl : r.trafficClass.raw = raw := Option.some.inj ((if_neg noMedia).symm.trans invalid)
      have refused : checkRequest r = .error (.invalidTrafficClass r.trafficClass.raw) :=
        if_neg noMedia
      unfold step
      dsimp only
      rw [refused]
  | _ => cases invalid

/-- No other request to a call monitor fails. -/
theorem not_refused_of_valid {op : Op} (valid : op.invalid? = none) (e : StatusError) :
    (m.step live connected op).answer ≠ .refused e := by
  intro refused
  cases op with
  | registerMedia n c tag | unregisterMedia n c =>
    have media : n = TrafficClass.ims.raw ∨ n = TrafficClass.emergency.raw := by
      by_contra other
      cases (if_neg other).symm.trans valid
    obtain ⟨cls, found⟩ := mediaClass_of_media media
    unfold step at refused
    dsimp only at refused
    rw [found] at refused
    cases refused
  | requestThresholds r =>
    have media : r.trafficClass.carriesMedia = true := by
      by_contra noMedia
      cases (if_neg noMedia).symm.trans valid
    have found : checkRequest r = .ok () := if_pos media
    unfold step at refused
    dsimp only at refused
    rw [found] at refused
    cases refused
  | update event =>
    unfold step at refused
    dsimp only at refused
    split at refused <;> cases refused
  | _ => cases refused

end Step

/-- How a call monitor treats numbers: a request fails exactly if it is invalid. Then the error
carries its number, and there is no other outcome. -/
structure Guarded (m : CallMonitor) : Prop where
  fails : ∀ live connected op, (∃ e, (m.step live connected op).answer = .refused e) ↔
    op.invalid?.isSome = true
  unchanged : ∀ live connected op raw, op.invalid? = some raw →
    m.step live connected op = ⟨m, .refused (.invalidTrafficClass raw), [], []⟩

/-- A call monitor checks the number before it does anything. -/
theorem guarded (m : CallMonitor) : m.Guarded := by
  refine ⟨fun live connected op => ?_,
    fun live connected op raw => m.step_of_invalid live connected⟩
  cases invalid : op.invalid? with
  | none =>
    refine ⟨?_, fun none => nomatch none⟩
    rintro ⟨e, refused⟩
    exact absurd refused (m.not_refused_of_valid live connected invalid e)
  | some raw =>
    rw [m.step_of_invalid live connected invalid]
    exact ⟨fun _ => rfl, fun _ => ⟨_, rfl⟩⟩

/-- What is refused for its class changes nothing and tells nobody. -/
theorem serve_of_invalid (m : CallMonitor) (live : Liveness) {request : Request} {raw : UInt32}
    (invalid : request.op.invalid? = some raw) : serve m live request = (m, []) := by
  unfold serve
  rw [m.step_of_invalid live request.connected invalid]

end CallMonitor

/-! ## Data connections -/

namespace ConnectionMonitor

/-- The number for which a request is invalid, which is any number but those of the four classes. -/
def Op.invalid? : Op → Option UInt32
  | .register raw .. | .unregister raw _ =>
    if raw ∈ TrafficClass.all.map TrafficClass.raw then none else some raw
  | _ => none

/-- A number is resolved if it is that of a class, and else refused. -/
theorem resolve_eq (raw : UInt32) :
    (raw ∈ TrafficClass.all.map TrafficClass.raw ∧ ∃ c, resolve raw = .ok c) ∨
      raw ∉ TrafficClass.all.map TrafficClass.raw ∧
        resolve raw = .error (.invalidTrafficClass raw) := by
  unfold resolve
  cases found : TrafficClass.ofRaw? raw with
  | some c =>
    have listed : c ∈ TrafficClass.all := List.mem_of_find?_eq_some found
    exact .inl ⟨TrafficClass.raw_of_ofRaw? found ▸ List.mem_map_of_mem listed, c, rfl⟩
  | none =>
    refine .inr ⟨?_, rfl⟩
    rw [List.mem_map]
    rintro ⟨c, -, number⟩
    exact (TrafficClass.ofRaw?_eq_none_iff raw).1 found c number

section Step

variable (m : ConnectionMonitor) (live : Liveness)

/-- An invalid request is refused with its number. It changes nothing and sends nothing, whether the
monitor is closed or not. -/
theorem step_of_invalid {op : Op} {raw : UInt32} (invalid : op.invalid? = some raw) :
    m.step live op = ⟨m, .refused (.invalidTrafficClass raw), []⟩ := by
  cases op with
  | register n c tag | unregister n c =>
    rcases resolve_eq n with ⟨listed, -⟩ | ⟨unlisted, refused⟩
    · cases (if_pos listed).symm.trans invalid
    · obtain rfl : n = raw := Option.some.inj ((if_neg unlisted).symm.trans invalid)
      unfold step
      dsimp only
      rw [refused]
  | _ => cases invalid

/-- No other request to a connection monitor is refused for its number. -/
theorem not_refused_of_valid {op : Op} (valid : op.invalid? = none) (raw : UInt32) :
    (m.step live op).answer ≠ .refused (.invalidTrafficClass raw) := by
  intro refused
  cases op with
  | register n c tag =>
    rcases resolve_eq n with ⟨-, cls, found⟩ | ⟨unlisted, -⟩
    · unfold step at refused
      dsimp only at refused
      rw [found] at refused
      dsimp only at refused
      -- what else it can be refused for is that the monitor is closed
      split at refused <;> cases refused
    · cases (if_neg unlisted).symm.trans valid
  | unregister n c =>
    rcases resolve_eq n with ⟨-, cls, found⟩ | ⟨unlisted, -⟩
    · unfold step at refused
      dsimp only at refused
      rw [found] at refused
      cases refused
    · cases (if_neg unlisted).symm.trans valid
  | report cls r =>
    unfold step at refused
    dsimp only at refused
    split at refused <;> cases refused
  | _ => cases refused

end Step

/-- How a connection monitor treats numbers: a request is refused as one for no class exactly if it
is invalid. The error carries its number, and there is no other outcome. -/
structure Guarded (m : ConnectionMonitor) : Prop where
  fails : ∀ live op raw, (m.step live op).answer = .refused (.invalidTrafficClass raw) ↔
    op.invalid? = some raw
  unchanged : ∀ live op raw, op.invalid? = some raw →
    m.step live op = ⟨m, .refused (.invalidTrafficClass raw), []⟩

/-- So does a connection monitor. -/
theorem guarded (m : ConnectionMonitor) : m.Guarded := by
  refine ⟨fun live op => ?_, fun live op raw => m.step_of_invalid live⟩
  exact refused_iff_invalid
    (fun raw invalid => congrArg Outcome.answer (m.step_of_invalid live invalid))
    (m.not_refused_of_valid live)

theorem serve_of_invalid (m : ConnectionMonitor) (live : Liveness) {op : Op} {raw : UInt32}
    (invalid : op.invalid? = some raw) :
    serve m live op = (m, []) := by
  unfold serve
  rw [m.step_of_invalid live invalid]

end ConnectionMonitor

/-! ## Events -/

namespace Provider

/-- The number for which an event is invalid: limits for a class without media. -/
def Post.invalid? : Post → Option UInt32
  | .requestThresholds r => if r.trafficClass.carriesMedia then none else some r.trafficClass.raw
  | _ => none

/-- A post with an invalid class is not accepted, whatever state the provider is in. -/
theorem accepts_of_post_invalid (p : Provider) {event : Post} {raw : UInt32}
    (invalid : event.invalid? = some raw) :
    p.accepts event = .error (.invalidTrafficClass raw) := by
  cases event with
  | requestThresholds r =>
    cases media : r.trafficClass.carriesMedia with
    | true => cases (if_pos media).symm.trans invalid
    | false =>
      obtain rfl : r.trafficClass.raw = raw :=
        Option.some.inj ((if_neg (by simp [media])).symm.trans invalid)
      exact p.accepts_of_invalid media
  | _ => cases invalid

/-- Any other event is refused by a closed provider only, which says so. -/
theorem accepts_of_post_valid (p : Provider) {event : Post} (valid : event.invalid? = none) :
    p.accepts event = if p.isClosed then .error (.providerClosed p.slot) else .ok () := by
  have media : ∀ r, event = .requestThresholds r → r.trafficClass.carriesMedia = true := by
    rintro r rfl
    by_contra noMedia
    cases (if_neg noMedia).symm.trans valid
  unfold accepts
  rw [checkPost_of_media media]

/-- A post with a valid class is not refused for its class. -/
theorem accepts_ne_of_post_valid (p : Provider) {event : Post} (valid : event.invalid? = none)
    (raw : UInt32) :
    p.accepts event ≠ .error (.invalidTrafficClass raw) := by
  rw [p.accepts_of_post_valid valid]
  split <;> exact fun same => nomatch same

namespace Backlog

/-- How a provider treats limits whose events wait: an event is refused as one for no class exactly
if it is invalid. The error carries the number; then no event more waits than before, and whatever
waits is not touched. -/
structure Guarded (b : Backlog) : Prop where
  fails : ∀ event raw, (b.take event).2 = .refused (.invalidTrafficClass raw) ↔
    event.invalid? = some raw
  unchanged : ∀ event raw, event.invalid? = some raw →
    b.take event = (b, .refused (.invalidTrafficClass raw))

/-- An invalid post leaves the queue, the worker and the provider as they were. -/
theorem take_of_invalid (b : Backlog) {event : Post} {raw : UInt32}
    (invalid : event.invalid? = some raw) :
    b.take event = (b, .refused (.invalidTrafficClass raw)) := by
  unfold take
  rw [b.provider.accepts_of_post_invalid invalid]

/-- A valid post may be refused, but not for its class. -/
theorem not_refused_of_valid (b : Backlog) {event : Post} (valid : event.invalid? = none)
    (raw : UInt32) :
    (b.take event).2 ≠ .refused (.invalidTrafficClass raw) := by
  intro refused
  unfold take at refused
  cases accepted : b.provider.accepts event with
  | error e =>
    rw [accepted] at refused
    cases refused
    exact b.provider.accepts_ne_of_post_valid valid raw accepted
  | ok _ =>
    rw [accepted] at refused
    dsimp only at refused
    split at refused <;> cases refused

/-- A provider checks the number before an event waits. -/
theorem guarded (b : Backlog) : b.Guarded := by
  refine ⟨fun event => ?_, fun event raw => b.take_of_invalid⟩
  exact refused_iff_invalid (fun raw invalid => congrArg Prod.snd (b.take_of_invalid invalid))
    b.not_refused_of_valid

end Backlog

/-! ## Providers -/

/-- The number for which a request to a provider, or to one of its monitors, is invalid. -/
def Op.invalid? : Op → Option UInt32
  | .post event => event.invalid?
  | .calls o => o.invalid?
  | .connections o => o.invalid?
  | .flush | .close | .registration _ => none

section Step

variable (p : Provider) (config : ConfigSource) (live : Liveness) (shared : AvailabilityMonitor)

/-- An invalid request is refused with its number. It leaves the provider and the shared monitor as
they are and sets nothing off. -/
theorem step_of_invalid {o : Op} {raw : UInt32} (invalid : o.invalid? = some raw) :
    p.step config live shared o = ⟨p, shared, .refused (.invalidTrafficClass raw), .none⟩ := by
  cases o with
  | post event =>
    unfold step
    dsimp only
    unfold post
    rw [p.accepts_of_post_invalid invalid]
  | calls q =>
    unfold step
    dsimp only
    unfold onCalls
    rw [p.calls.step_of_invalid live p.connections.isConnected invalid]
    rfl
  | connections q =>
    unfold step
    dsimp only
    unfold onConnections
    rw [p.connections.step_of_invalid live invalid]
    rfl
  | flush | close | registration q => cases invalid

/-- No other request to a provider is refused for its number. -/
theorem not_refused_of_valid {o : Op} (valid : o.invalid? = none) (raw : UInt32) :
    (p.step config live shared o).answer ≠ .refused (.invalidTrafficClass raw) := by
  intro refused
  cases o with
  | post event =>
    replace refused : (p.post config live shared event).answer =
      .refused (.invalidTrafficClass raw) := refused
    unfold post at refused
    cases accepted : p.accepts event with
    | error e =>
      rw [accepted] at refused
      cases refused
      exact p.accepts_ne_of_post_valid valid raw accepted
    | ok _ =>
      rw [accepted] at refused
      cases refused
  | calls q => exact p.calls.not_refused_of_valid live p.connections.isConnected valid _ refused
  | connections q => exact p.connections.not_refused_of_valid live valid raw refused
  | flush =>
    replace refused : Answer.ofExcept p.flushed = .refused (.invalidTrafficClass raw) := refused
    unfold flushed at refused
    split at refused <;> cases refused
  | close =>
    cases refused
  | registration q =>
    replace refused : (p.registration.step live q).answer = .refused (.invalidTrafficClass raw) :=
      refused
    unfold RegistrationMonitor.step at refused
    cases q with
    | register c tag | unregister c | changed r =>
      dsimp only at refused
      split at refused <;> cases refused
    | close => cases refused

end Step

end Provider

/-! ## The directory -/

namespace Directory

/-- How a directory treats numbers that a provider is asked about through its handle: the provider
refuses the request as one for no class exactly if it is invalid. The error carries the number, and
everything is left as it is. -/
structure Guarded (d : Directory) : Prop where
  fails : ∀ live h o raw, (d.find? h).isSome = true →
    ((d.step live (.ask h o)).answer = .plain (.refused (.invalidTrafficClass raw)) ↔
      o.invalid? = some raw)
  unchanged : ∀ live h o raw, (d.find? h).isSome = true → o.invalid? = some raw →
    d.step live (.ask h o) = d.refuse (.invalidTrafficClass raw)

/-- The directory passes the refusal of a provider on, and is left as it was. -/
theorem step_of_invalid {d : Directory} (live : Liveness) {h : Handle} {p : Provider}
    (found : d.find? h = some p) {o : Provider.Op} {raw : UInt32}
    (invalid : o.invalid? = some raw) :
    d.step live (.ask h o) = d.refuse (.invalidTrafficClass raw) :=
  ask_of_unchanged found (p.step_of_invalid _ live _ invalid)

/-- The directory answers what the provider asked answers. -/
theorem answer_ask {d : Directory} (live : Liveness) {h : Handle} {p : Provider}
    (found : d.find? h = some p) (o : Provider.Op) :
    (d.step live (.ask h o)).answer =
      .plain (p.step d.config.source live d.availability o).answer := by
  unfold step ask
  dsimp only
  rw [found]

/-- A directory leaves the check to the provider, and is left as it is if the check fails. -/
theorem guarded (d : Directory) : d.Guarded := by
  constructor
  · intro live h o raw handed
    obtain ⟨p, found⟩ := Option.isSome_iff_exists.1 handed
    rw [answer_ask live found, Answer.plain.injEq]
    exact refused_iff_invalid
      (fun n invalid => congrArg Provider.Outcome.answer (p.step_of_invalid _ live _ invalid))
      (p.not_refused_of_valid _ live _) raw
  · intro live h o raw handed invalid
    obtain ⟨p, found⟩ := Option.isSome_iff_exists.1 handed
    exact step_of_invalid live found invalid

/-- An invalid request leaves a directory as it is and sends nothing, through whichever handle it is
made. -/
theorem serve_of_invalid (d : Directory) (live : Liveness) (h : Handle) {o : Provider.Op}
    {raw : UInt32} (invalid : o.invalid? = some raw) : serve d live (.ask h o) = (d, []) := by
  unfold serve
  dsimp only
  cases found : d.find? h with
  | none =>
    -- a handle that was never given out is asked in vain
    rw [ask_of_missing live o found]
    rfl
  | some p =>
    rw [step_of_invalid live found invalid]
    rfl

end Directory

/-! ## All of them -/

/-- **Invalid requests are refused atomically.** In every state, open or closed, a request is
refused for its number exactly if the number is that of no class for which the request makes sense;
a combination of classes is none. The error carries the number, and everything is left as it is:
nothing is registered or removed, no limits are kept, nothing waits, is sent, pushed or asked of the
source. So every run goes on as if the request had not been made. -/
theorem invalid_refused_atomically :
    (∀ (raw : UInt32) i j, i ≠ j → raw.toNat.testBit i = true → raw.toNat.testBit j = true →
      raw ∉ TrafficClass.all.map TrafficClass.raw) ∧
    (∀ m : CallMonitor, m.Guarded) ∧ (∀ m : ConnectionMonitor, m.Guarded) ∧
      (∀ b : Provider.Backlog, b.Guarded) ∧
    (∀ d : Directory, d.Guarded) ∧
    (∀ w run (request : CallMonitor.Request) raw, request.op.invalid? = some raw →
      World.Omissible CallMonitor.serve w run request) ∧
    (∀ w run (op : ConnectionMonitor.Op) raw, op.invalid? = some raw →
      World.Omissible ConnectionMonitor.serve w run op) ∧
    (∀ w run h (o : Provider.Op) raw, o.invalid? = some raw →
      World.Omissible Directory.serve w run (.ask h o)) := by
  refine ⟨?_, CallMonitor.guarded, ConnectionMonitor.guarded, Provider.Backlog.guarded,
    Directory.guarded, ?_, ?_, ?_⟩
  · intro raw i j differ first second listed
    obtain ⟨c, -, number⟩ := List.mem_map.1 listed
    exact TrafficClass.raw_ne_of_bits differ first second c number
  · exact fun w run request raw invalid =>
      World.omissible_of_ignored (CallMonitor.serve_of_invalid _ _ invalid)
  · exact fun w run op raw invalid =>
      World.omissible_of_ignored (ConnectionMonitor.serve_of_invalid _ _ invalid)
  · exact fun w run h o raw invalid =>
      World.omissible_of_ignored (Directory.serve_of_invalid _ _ h invalid)

namespace Directory

/-- A directory of two slots, of which nobody has asked anything. -/
def unasked : World Directory Notice :=
  ⟨⟨default, .empty, .fresh, .empty, false⟩, Mailroom.empty.openBox⟩

/-- A consumer is registered for poor media of IMS calls, and limits are set for them, before the
slot is closed. -/
def limitsAndClosed : List (World.Act Op) :=
  [.ask (.provider ⟨0⟩), .ask (.ask ⟨⟨0⟩, 0⟩ (.calls (.registerMedia 64 ⟨0⟩ ⟨5⟩))),
    .ask (.ask ⟨⟨0⟩, 0⟩ (.post (.requestThresholds ⟨.ims, ⟨1, 2, 3, 4⟩⟩))), .ask (.closeSlot ⟨0⟩)]

/-- Through the handle that is left, limits for multimedia messages are refused as such and not
because the provider is closed, and a combination of two classes is refused by every connection
monitor. -/
theorem invalid_refused_atomically_limitsAndClosed :
    let now := unasked.after serve limitsAndClosed
    let limits : Provider.Op := .post (.requestThresholds ⟨.mms, ⟨5, 6, 7, 8⟩⟩)
    (now.state.find? ⟨⟨0⟩, 0⟩).map Provider.isClosed = some true ∧ limits.invalid? = some 2 ∧
      now.state.step now.room.live (.ask ⟨⟨0⟩, 0⟩ limits) =
        now.state.refuse (.invalidTrafficClass 2) ∧
      World.Omissible serve unasked limitsAndClosed (.ask ⟨⟨0⟩, 0⟩ limits) ∧
      66 ∉ TrafficClass.all.map TrafficClass.raw ∧
      ∀ (m : ConnectionMonitor) live c, m.step live (.unregister 66 c) =
        ⟨m, .refused (.invalidTrafficClass 66), []⟩ := by
  intro now limits
  obtain ⟨combined, -, connections, -, directory, -, -, omissible⟩ := invalid_refused_atomically
  have invalid : limits.invalid? = some 2 := rfl
  have handed : (now.state.find? ⟨⟨0⟩, 0⟩).isSome = true := rfl
  refine ⟨rfl, invalid, (directory now.state).unchanged _ _ _ _ handed invalid,
    omissible _ _ _ _ _ invalid, ?_, ?_⟩
  · exact combined 66 1 6 (by decide) (by decide) (by decide)
  · intro m live c
    exact (connections m).unchanged live _ 66 rfl

end Directory

end AccessStatus
