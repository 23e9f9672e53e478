import AccessStatus.Call.Monitor
import AccessStatus.Proofs.History
import AccessStatus.Proofs.Table

/-!
# Legs and their history

A voice or video call is up when a report said that it is active and none since then said that it is
disconnected; its kind is that of the latest report. `legsFit_concat` says that `legsAfter` keeps a
table of legs in step with this reading of the reports, one report at a time.
-/

namespace AccessStatus

/-- The report is about the voice or video call with this identity. -/
abbrev CallEvent.IsAboutLeg (event : CallEvent) (id : CallId) : Prop :=
  event.id = id ∧ event.kind ≠ .emergency

/-- A voice or video report said that the call is active, and none after it that it is
disconnected. -/
def Ongoing (events : List CallEvent) (id : CallId) : Prop :=
  Standing (fun e => e.IsAboutLeg id ∧ e.state = .active)
    (fun e => e.IsAboutLeg id ∧ e.state = .disconnected)
    events

/-- The kind in the latest voice or video report about a call. -/
def latestKind (events : List CallEvent) (id : CallId) : Option CallKind :=
  latest (fun e => if e.IsAboutLeg id then some e.kind else none) events

/-! ## One more report -/

/-- A leg is ongoing from a report that it is active until the report that it is disconnected. -/
theorem ongoing_concat (events : List CallEvent) (e : CallEvent) (id : CallId) :
    Ongoing (events ++ [e]) id ↔
      (e.IsAboutLeg id ∧ e.state = .active) ∨ Ongoing events id ∧
        ¬ (e.IsAboutLeg id ∧ e.state = .disconnected) :=
  standing_concat _ _ events e

/-- Its kind is the one that was reported last. -/
theorem latestKind_concat (events : List CallEvent) (e : CallEvent) (id : CallId) :
    latestKind (events ++ [e]) id =
      if e.IsAboutLeg id then some e.kind else latestKind events id := by
  rw [latestKind, latest_concat]
  split <;> rfl

/-- A report that is not about the call leaves its history as it was. -/
theorem ongoing_concat_of_not_about {events : List CallEvent} {e : CallEvent} {id : CallId}
    (other : ¬ e.IsAboutLeg id) : Ongoing (events ++ [e]) id ↔ Ongoing events id := by
  rw [ongoing_concat]
  simp [other]

/-! ## The table of legs -/

/-- What a report about a leg makes of what was known of it. -/
def legAfter (known : Option Leg) (event : CallEvent) : Option Leg :=
  match known, event.state with
  | none, .active => some ⟨event.kind, .active⟩
  | none, _ => none
  | some _, .disconnected => none
  | some leg, state =>
    some ⟨event.kind, if state = .active || state = .holding then state else leg.state⟩

/-- A report changes the leg it is about and no other. -/
theorem get?_legsAfter (legs : Table CallId Leg) (event : CallEvent) (id : CallId) :
    (legsAfter legs event).get? id =
      if id = event.id then legAfter (legs.get? id) event else legs.get? id := by
  by_cases same : id = event.id
  · subst same
    rw [if_pos rfl]
    cases known : legs.get? event.id <;> cases state : event.state <;>
      simp [legsAfter, legAfter, known, state]
  · rw [if_neg same]
    cases known : legs.get? event.id <;> cases state : event.state <;>
      simp [legsAfter, known, state, Table.get?_set, Table.get?_erase, same]

/-- What is known of one leg is what its history says. -/
structure LegFits (known : Option Leg) (events : List CallEvent) (id : CallId) : Prop where
  tracked : known.isSome ↔ Ongoing events id
  kind : ∀ leg, known = some leg → latestKind events id = some leg.kind

/-- What is known of every leg is what its history says. -/
def LegsFit (legs : Table CallId Leg) (events : List CallEvent) : Prop :=
  ∀ id, LegFits (legs.get? id) events id

theorem legsFit_nil : LegsFit .empty [] := fun id =>
  ⟨by simp [Ongoing, not_standing_nil], fun _ known => by simp at known⟩

/-- A report about other calls keeps a leg in step. -/
theorem LegFits.concat_of_not_about {known : Option Leg} {events : List CallEvent} {id : CallId}
    {e : CallEvent} (fits : LegFits known events id) (other : ¬ e.IsAboutLeg id) :
    LegFits known (events ++ [e]) id where
  tracked := by rw [ongoing_concat_of_not_about other, fits.tracked]
  kind leg same := by rw [latestKind_concat, if_neg other, fits.kind leg same]

/-- A report about the leg keeps it in step. -/
theorem LegFits.concat_of_about {known : Option Leg} {events : List CallEvent} {id : CallId}
    {e : CallEvent} (fits : LegFits known events id) (about : e.IsAboutLeg id) :
    LegFits (legAfter known e) (events ++ [e]) id where
  tracked := by
    rw [ongoing_concat, ← fits.tracked]
    cases known <;> cases state :
      e.state <;> simp [legAfter, state, CallEvent.IsAboutLeg, about.1, about.2]
  kind leg same := by
    rw [latestKind_concat, if_pos about]
    cases known <;> cases state : e.state <;> simp [legAfter, state] at same <;> rw [← same]

/-- The table of legs stays in step with a voice or video report. -/
theorem legsFit_concat {legs : Table CallId Leg} {events : List CallEvent}
    (fits : LegsFit legs events) {e : CallEvent} (isLeg : e.kind ≠ .emergency) :
    LegsFit (legsAfter legs e) (events ++ [e]) := by
  intro id
  rw [get?_legsAfter]
  split
  · rename_i same
    exact (fits id).concat_of_about ⟨same.symm, isLeg⟩
  · rename_i other
    exact (fits id).concat_of_not_about fun about => other about.1.symm

/-- An emergency report is about no leg. -/
theorem legsFit_concat_emergency {legs : Table CallId Leg} {events : List CallEvent}
    (fits : LegsFit legs events) {e : CallEvent} (isEmergency : e.kind = .emergency) :
    LegsFit legs (events ++ [e]) := fun id =>
  (fits id).concat_of_not_about fun about => about.2 isEmergency

/-! ## What the legs amount to -/

section Fit

variable {legs : Table CallId Leg} {events : List CallEvent}

/-- As many legs are known as calls are up. -/
theorem LegsFit.size_eq (fits : LegsFit legs events) :
    legs.size = {id | Ongoing events id}.ncard := by
  rw [Table.size_eq_ncard]
  congr 1
  ext id
  exact (fits id).tracked

/-- The kind of a leg is never emergency. -/
theorem latestKind_ne_emergency (events : List CallEvent) (id : CallId) :
    latestKind events id ≠ some .emergency := by
  induction events using List.reverseRecOn with
  | nil => simp [latestKind]
  | append_singleton events e ih =>
    rw [latestKind_concat]
    split
    · rename_i about
      simpa using about.2
    · exact ih

/-- The legs amount to nothing exactly if none is ongoing. -/
theorem aggregateLegs_eq_idle_iff (fits : LegsFit legs events) :
    aggregateLegs legs = .idle ↔ ∀ id, ¬ Ongoing events id := by
  have empty : legs.values.isEmpty = true ↔ ∀ id, ¬ Ongoing events id := by
    rw [Table.values_isEmpty_iff]
    refine forall_congr' fun id => ?_
    rw [← (fits id).tracked]
    simp
  rw [← empty, aggregateLegs]
  split
  · rename_i none
    simp [none]
  · rename_i some
    split <;> simp [some]

/-- A known video leg makes the call type video. -/
theorem aggregateLegs_eq_video_iff (fits : LegsFit legs events) :
    aggregateLegs legs = .video ↔ ∃ id, Ongoing events id ∧ latestKind events id = some .video := by
  have anyVideo : (legs.values.any fun leg => leg.kind = .video) = true ↔
      ∃ id, Ongoing events id ∧ latestKind events id = some .video := by
    simp only [List.any_eq_true, Table.mem_values_iff, decide_eq_true_eq]
    constructor
    · rintro ⟨leg, ⟨id, known⟩, video⟩
      exact ⟨id, (fits id).tracked.1 (by simp [known]), by rw [(fits id).kind leg known, video]⟩
    · rintro ⟨id, up, video⟩
      obtain ⟨leg, known⟩ := Option.isSome_iff_exists.1 ((fits id).tracked.2 up)
      rw [(fits id).kind leg known] at video
      exact ⟨leg, ⟨id, known⟩, Option.some.inj video⟩
  rw [← anyVideo, aggregateLegs]
  split
  · rename_i none
    simp [List.isEmpty_iff.1 none]
  · split <;> simp_all

/-- They never amount to an emergency. -/
theorem aggregateLegs_ne_emergency (legs : Table CallId Leg) : aggregateLegs legs ≠ .emergency := by
  unfold aggregateLegs
  split
  · simp
  · split <;> simp

/-- Legs that are all voice make the call type voice. -/
theorem aggregateLegs_eq_voice_iff (fits : LegsFit legs events) :
    aggregateLegs legs = .voice ↔
      (∃ id, Ongoing events id) ∧ ∀ id, Ongoing events id → latestKind events id = some .voice := by
  have voice : aggregateLegs legs = .voice ↔ aggregateLegs legs ≠ .idle ∧
      aggregateLegs legs ≠ .video := by
    have never := aggregateLegs_ne_emergency legs
    cases h : aggregateLegs legs <;> simp_all
  have kinds (id : CallId) (up : Ongoing events id) :
      latestKind events id = some .voice ↔ latestKind events id ≠ some .video := by
    obtain ⟨leg, known⟩ := Option.isSome_iff_exists.1 ((fits id).tracked.2 up)
    have never := latestKind_ne_emergency events id
    rw [(fits id).kind leg known] at never ⊢
    cases h : leg.kind <;> simp_all
  rw [voice, Ne, Ne, aggregateLegs_eq_idle_iff fits, aggregateLegs_eq_video_iff fits]
  constructor
  · rintro ⟨some, noVideo⟩
    exact ⟨by simpa using some, fun id up => (kinds id up).2 fun video => noVideo ⟨id, up, video⟩⟩
  · rintro ⟨⟨id, up⟩, all⟩
    exact ⟨fun none => none id up, fun ⟨j, upJ, video⟩ => (kinds j upJ).1 (all j upJ) video⟩

end Fit

end AccessStatus
