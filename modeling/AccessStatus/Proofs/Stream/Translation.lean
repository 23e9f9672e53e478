import AccessStatus.Proofs.Stream.Unwinding

/-!
# Requests in other words

Two systems can do the same although their requests name things differently. If each request comes
to the same as its translation, in states that correspond to each other, then a run sends the same
as the run of the translated requests, and all else that is seen of the two runs corresponds
(`Translates.run`, `Translates.observed_eq`).
-/

namespace AccessStatus

namespace World

variable {σ ρ α β : Type}

/-- The act with its request translated. -/
def Act.translate (f : ρ → ρ) : Act ρ → Act ρ
  | .ask request => .ask (f request)
  | .happen e => .happen e

/-- A run with all requests translated. -/
def translated (f : ρ → ρ) (run : List (Act ρ)) : List (Act ρ) := run.map (Act.translate f)

/-- In states that correspond to each other, fair requests come to the same as their
translations. -/
def Translates (serve : Serving σ ρ α) (f : ρ → ρ) (Fair : ρ → Prop) (Corresponds : σ → σ → Prop) :
    Prop :=
  ∀ s t live request, Corresponds s t → Fair request →
    Corresponds (serve s live request).1 (serve t live (f request)).1 ∧
      (serve s live request).2 = (serve t live (f request)).2

/-- What is sent in a run, and what some consumers take, is the same as in the translated run. -/
structure Translated (serve : Serving σ ρ α) (f : ρ → ρ) (P : ConsumerId → Prop)
    (Corresponds : σ → σ → Prop) (w v : World σ α) (run : List (Act ρ)) : Prop where
  sent : w.sent serve run = v.sent serve (translated f run)
  taken : ∀ c, P c → w.taken serve c run = v.taken serve c (translated f run)
  after : Corresponds (w.after serve run).state (v.after serve (translated f run)).state

variable {serve : Serving σ ρ α} {f : ρ → ρ} {P : ConsumerId → Prop} {Fair : ρ → Prop}
  {Corresponds : σ → σ → Prop}

section Step

variable (translates : Translates serve f Fair Corresponds) {w v : World σ α}
  (corresponds : Corresponds w.state v.state) (room : w.room.SameFor P v.room)
include translates corresponds room

/-- After an act and its translation the states correspond, the mailboxes are still the same, and
the same was sent and taken. -/
theorem next_translate {act : Act ρ} (fair : ∀ request ∈ act.request?, Fair request) :
    Corresponds (w.next serve act).state (v.next serve (act.translate f)).state ∧
      (w.next serve act).room.SameFor P (v.next serve (act.translate f)).room ∧
      w.sentBy serve act = v.sentBy serve (act.translate f) ∧
      ∀ c, P c → w.takenBy c act = v.takenBy c (act.translate f) := by
  cases act with
  | ask request =>
    have step := translates w.state v.state w.room.live request corresponds (fair request rfl)
    rw [room.live_eq] at step
    obtain ⟨next, sent⟩ := step
    have now : w.sentBy serve (.ask request) = v.sentBy serve (.ask (f request)) := by
      show (serve w.state w.room.live request).2 = _
      rw [room.live_eq]
      exact sent
    refine ⟨?_, room.deliverAll fun c _ => congrArg (received c) now, now, fun _ _ => rfl⟩
    show Corresponds (serve w.state w.room.live request).1 _
    rw [room.live_eq]
    exact next
  | happen e => exact ⟨corresponds, room.afterEvent e, rfl, fun c mine => room.takenBy_eq mine e⟩

/-- **A run sends what the translated run sends.** -/
theorem Translates.run {run : List (Act ρ)} (fair : ∀ request ∈ asked run, Fair request) :
    Translated serve f P Corresponds w v run := by
  induction run generalizing w v with
  | nil => exact ⟨rfl, fun _ _ => rfl, corresponds⟩
  | cons act run ih =>
    obtain ⟨now, later⟩ := fair_of_cons fair
    obtain ⟨next, still, sent, taken⟩ := next_translate translates corresponds room now
    have rest := ih next still later
    refine ⟨?_, fun c mine => ?_, rest.after⟩
    · show w.sentBy serve act ++ (w.next serve act).sent serve run = _
      rw [sent, rest.sent]
      rfl
    · show w.takenBy c act ++ (w.next serve act).taken serve c run = _
      rw [taken c mine, rest.taken c mine]
      rfl

/-- What is seen of a run is what is seen of the translated run, if it is so of one request. -/
theorem Translates.observed_eq {see seeToo : σ → Liveness → ρ → List β}
    (sees : ∀ s t live request, Corresponds s t → Fair request →
      see s live request = seeToo t live (f request))
    {run : List (Act ρ)} (fair : ∀ request ∈ asked run, Fair request) :
    w.observed serve see run = v.observed serve seeToo (translated f run) := by
  induction run generalizing w v with
  | nil => rfl
  | cons act run ih =>
    obtain ⟨now, later⟩ := fair_of_cons fair
    obtain ⟨next, still, -⟩ := next_translate translates corresponds room now
    have rest := ih next still later
    cases act with
    | happen e => exact rest
    | ask request =>
      have seen := sees w.state v.state w.room.live request corresponds (now request rfl)
      show see w.state w.room.live request ++ (w.next serve (.ask request)).observed serve see run =
        _
      rw [seen, rest, room.live_eq]
      rfl

end Step

end World

end AccessStatus
