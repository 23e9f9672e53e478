import AccessStatus.Call.Monitor
import AccessStatus.Proofs.History

/-!
# The emergency call and its history

Of the emergency calls only one is kept: the one that was reported last with a state other than
disconnected, unless it has been reported as disconnected since. The disconnection of any other call
does not count. `keptCall` reads this off the whole history; `keptCall_concat` says that
`emergencyAfter`, which sees one report at a time, comes to the same.
-/

namespace AccessStatus

namespace CallEvent

/-- The emergency call that a report says to be there, in whatever state. -/
def emergencyCall? (e : CallEvent) : Option EmergencyCall :=
  if e.kind = .emergency ∧ e.state ≠ .disconnected then some ⟨e.id, e.state⟩ else none

/-- The report says that the emergency call with this identity is disconnected. -/
def disconnects (id : CallId) (e : CallEvent) : Bool :=
  e.kind = .emergency ∧ e.state = .disconnected ∧ e.id = id

end CallEvent

open CallEvent

/-- The reports since any emergency call was last said to be there. -/
def sinceCalled (events : List CallEvent) : List CallEvent :=
  since (fun e => e.emergencyCall?.isSome) events

/-- The emergency call by the history: the one last said to be there, unless it was disconnected
after that. -/
def keptCall (events : List CallEvent) : Option EmergencyCall :=
  (latest emergencyCall? events).filter fun call => !(sinceCalled events).any (disconnects call.id)

/-! ## What a report does to the kept call -/

/-- The call kept is taken away exactly by its own disconnection. -/
theorem emergencyAfter_eq_some_none_iff (kept : Option EmergencyCall) (e : CallEvent) :
    emergencyAfter kept e = some none ↔ e.state = .disconnected ∧ ∃ call, kept = some call ∧
      call.id = e.id := by
  unfold emergencyAfter
  by_cases ended : e.state = .disconnected
  · cases kept with
    | none => simp [ended]
    | some call => by_cases same : call.id = e.id <;> simp [ended, same]
  · simp [ended]

/-- A report of an emergency call that is there takes the place of what was kept. -/
theorem emergencyAfter_of_there (kept : Option EmergencyCall) {e : CallEvent}
    (there : e.state ≠ .disconnected) : emergencyAfter kept e = some (some ⟨e.id, e.state⟩) :=
  if_neg there

/-- A disconnection takes the kept call away or does not count. -/
theorem emergencyAfter_of_ended (kept : Option EmergencyCall) {e : CallEvent}
    (ended : e.state = .disconnected) :
    emergencyAfter kept e = some none ∨ emergencyAfter kept e = none := by
  unfold emergencyAfter
  rw [if_pos ended]
  split
  · split
    · exact Or.inl rfl
    · exact Or.inr rfl
  · exact Or.inr rfl

/-! ## One more report -/

theorem emergencyCall?_of_there {e : CallEvent} (isEmergency : e.kind = .emergency)
    (there : e.state ≠ .disconnected) : e.emergencyCall? = some ⟨e.id, e.state⟩ :=
  if_pos ⟨isEmergency, there⟩

/-- A report of an emergency call that is there makes it the one to keep. -/
theorem keptCall_concat_of_there (events : List CallEvent) {e : CallEvent}
    (isEmergency : e.kind = .emergency) (there : e.state ≠ .disconnected) :
    keptCall (events ++ [e]) = some ⟨e.id, e.state⟩ := by
  have called := emergencyCall?_of_there isEmergency there
  rw [keptCall, sinceCalled, latest_concat, since_concat, called]
  rfl

/-- Any other report takes the kept call away if it disconnects that very call. -/
theorem keptCall_concat_of_not_there (events : List CallEvent) {e : CallEvent}
    (silent : e.emergencyCall? = none) :
    keptCall (events ++ [e]) = (keptCall events).filter fun call => !e.disconnects call.id := by
  rw [keptCall, keptCall, sinceCalled, latest_concat, since_concat, silent, Option.none_or,
    ← sinceCalled, Option.filter_filter]
  congr 1
  funext call
  simp

/-- A report about a leg has no bearing on the emergency call. -/
theorem keptCall_concat_leg (events : List CallEvent) {e : CallEvent}
    (isLeg : e.kind ≠ .emergency) :
    keptCall (events ++ [e]) = keptCall events := by
  rw [keptCall_concat_of_not_there events (if_neg fun both => isLeg both.1)]
  cases keptCall events <;> simp [disconnects, isLeg]

/-- One report at a time leads to the same emergency call as the whole history. -/
theorem keptCall_concat (events : List CallEvent) {e : CallEvent}
    (isEmergency : e.kind = .emergency) :
    keptCall (events ++ [e]) = (emergencyAfter (keptCall events) e).getD (keptCall events) := by
  by_cases ended : e.state = .disconnected
  · rw [keptCall_concat_of_not_there events (if_neg fun both => both.2 ended)]
    cases keptCall events with
    | none => simp [emergencyAfter, ended]
    | some call =>
      by_cases same : call.id = e.id
      · simp [emergencyAfter, disconnects, ended, isEmergency, same]
      · simp [emergencyAfter, disconnects, ended, isEmergency, same, Ne.symm same]
  · rw [keptCall_concat_of_there events isEmergency ended, emergencyAfter_of_there _ ended,
      Option.getD_some]

end AccessStatus
