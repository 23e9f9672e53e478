import Mathlib.Data.List.DropRight

/-!
# Histories

A history is a list of what happened, the oldest first. Four questions are asked of it again and
again: what was said last about something (`latest`), what happened since something ended (`since`),
and whether something was set and never reset since, where what resets is known by itself
(`Standing`) or only by what happened before it (`Latched`). Each answer after one more thing has
happened follows from the answer before.
-/

namespace AccessStatus

variable {α β : Type}

/-! ## The latest value -/

/-- The last value that `f` finds in a history. -/
def latest (f : α → Option β) (history : List α) : Option β := (history.filterMap f).getLast?

@[simp] theorem latest_nil (f : α → Option β) : latest f [] = none := rfl

/-- What happens now is later than all that happened before. -/
theorem latest_concat (f : α → Option β) (history : List α) (x : α) :
    latest f (history ++ [x]) = (f x).or (latest f history) := by
  rw [latest, List.filterMap_append, List.getLast?_append]
  cases h : f x <;> simp [h, latest]

/-- A last value that was asked to satisfy `p` does so. -/
theorem of_latest_filter {f : α → Option β} {p : β → Bool} {history : List α} {b : β}
    (last : latest (fun x => (f x).filter p) history = some b) : p b = true := by
  obtain ⟨x, -, found⟩ := List.mem_filterMap.1 (List.mem_of_getLast? last)
  exact (Option.filter_eq_some_iff.1 found).2

/-- The last value that satisfies `p` is the last value of all if this satisfies `p`, and only
then. -/
theorem latest_filter_eq_iff (f : α → Option β) (p : β → Bool) (history : List α) :
    latest (fun x => (f x).filter p) history = latest f history ↔
      ∀ b ∈ latest f history, p b = true := by
  constructor
  · intro same b last
    exact of_latest_filter (same.trans last)
  · induction history using List.reverseRecOn with
    | nil => exact fun _ => rfl
    | append_singleton history x ih =>
      rw [latest_concat, latest_concat]
      intro satisfies
      cases found : f x with
      | none =>
        rw [found, Option.none_or] at satisfies
        exact ih satisfies
      | some b =>
        rw [found, Option.some_or] at satisfies
        rw [Option.filter_some_pos (satisfies b rfl), Option.some_or, Option.some_or]

/-! ## What happened since -/

/-- What happened after the last thing that ends, all of it if nothing does. -/
def since (ends : α → Bool) (history : List α) : List α := history.rtakeWhile fun x => !ends x

@[simp] theorem since_nil (ends : α → Bool) : since ends [] = [] := rfl

/-- What happened since includes what happens now, unless that ends it all. -/
theorem since_concat (ends : α → Bool) (history : List α) (x : α) :
    since ends (history ++ [x]) = if ends x then [] else since ends history ++ [x] := by
  rw [since, List.rtakeWhile_concat, ← since]
  cases ends x <;> rfl

/-! ## What was set and not reset -/

/-- Something in the history sets, and nothing after it resets. -/
def Standing (sets resets : α → Prop) (history : List α) : Prop :=
  ∃ before x after, history = before ++ x :: after ∧ sets x ∧ ∀ y ∈ after, ¬ resets y

theorem not_standing_nil (sets resets : α → Prop) : ¬ Standing sets resets [] := by
  rintro ⟨before, x, after, whole, -⟩
  exact List.append_ne_nil_of_right_ne_nil before (List.cons_ne_nil x after) whole.symm

/-- Where something stands, something set it. -/
theorem Standing.exists_sets {sets resets : α → Prop} {history : List α}
    (standing : Standing sets resets history) :
    ∃ x ∈ history, sets x := by
  obtain ⟨before, x, after, rfl, set, -⟩ := standing
  exact ⟨x, List.mem_append_right _ List.mem_cons_self, set⟩

/-- Where a history with one more thing is split, the split is at that thing, or within the old
history. -/
theorem concat_eq_split {history before after : List α} {x y : α}
    (whole : history ++ [y] = before ++ x :: after) :
    (history = before ∧ y = x ∧ after = []) ∨ ∃ rest, after = rest ++ [y] ∧
      history = before ++ x :: rest := by
  rcases List.eq_nil_or_concat after with rfl | ⟨rest, z, rfl⟩
  · obtain ⟨rfl, last⟩ := List.append_inj' whole rfl
    exact Or.inl ⟨rfl, List.singleton_inj.1 last, rfl⟩
  · rw [List.concat_eq_append, ← List.cons_append, ← List.append_assoc] at whole
    obtain ⟨rfl, last⟩ := List.append_inj' whole rfl
    obtain rfl := List.singleton_inj.1 last
    exact Or.inr ⟨rest, List.concat_eq_append, rfl⟩

/-- A history with one more thing stands if that sets, or if it stood before and that does not
reset. -/
theorem standing_concat (sets resets : α → Prop) (history : List α) (y : α) :
    Standing sets resets (history ++ [y]) ↔ sets y ∨ Standing sets resets history ∧ ¬ resets y := by
  constructor
  · rintro ⟨before, x, after, whole, hx, later⟩
    rcases concat_eq_split whole with ⟨-, rfl, -⟩ | ⟨rest, rfl, rfl⟩
    · exact Or.inl hx
    · refine Or.inr ⟨⟨before, x, rest, rfl, hx, fun w hw => later w ?_⟩, later y ?_⟩
      · exact List.mem_append_left _ hw
      · exact List.mem_append_right _ List.mem_cons_self
  · rintro (hy | ⟨⟨before, x, after, rfl, hx, later⟩, keeps⟩)
    · exact ⟨history, y, [], rfl, hy, fun z hz => absurd hz List.not_mem_nil⟩
    · refine ⟨before, x, after ++ [y], by simp, hx, fun z hz => ?_⟩
      rcases List.mem_append.1 hz with old | new
      · exact later z old
      · exact List.mem_singleton.1 new ▸ keeps

/-! ## What was set and not reset, where resetting depends on the past -/

/-- Something in the history sets, and nothing after it resets in the light of all that happened
before that. -/
def Latched (sets : α → Prop) (resets : List α → α → Prop) (history : List α) : Prop :=
  ∃ before x after, history = before ++ x :: after ∧ sets x ∧
    ∀ between y rest, after = between ++ y :: rest → ¬ resets (before ++ x :: between) y

theorem not_latched_nil (sets : α → Prop) (resets : List α → α → Prop) :
    ¬ Latched sets resets [] := by
  rintro ⟨before, x, after, whole, -⟩
  exact List.append_ne_nil_of_right_ne_nil before (List.cons_ne_nil x after) whole.symm

/-- A history with one more thing is latched if that sets, or if it was latched before and that does
not reset. -/
theorem latched_concat (sets : α → Prop) (resets : List α → α → Prop) (history : List α) (y : α) :
    Latched sets resets (history ++ [y]) ↔ sets y ∨ Latched sets resets history ∧
      ¬ resets history y := by
  constructor
  · rintro ⟨before, x, after, whole, hx, later⟩
    rcases concat_eq_split whole with ⟨-, rfl, -⟩ | ⟨rest, rfl, rfl⟩
    · exact Or.inl hx
    · refine Or.inr ⟨⟨before, x, rest, rfl, hx, ?_⟩, later rest y [] rfl⟩
      rintro between z tail rfl
      exact later between z (tail ++ [y]) (by simp)
  · rintro (hy | ⟨⟨before, x, after, rfl, hx, later⟩, keeps⟩)
    · refine ⟨history, y, [], rfl, hy, ?_⟩
      intro between z rest empty
      exact absurd empty.symm (List.append_ne_nil_of_right_ne_nil between (List.cons_ne_nil z rest))
    · refine ⟨before, x, after ++ [y], by simp, hx, ?_⟩
      intro between z rest whole
      rcases concat_eq_split whole with ⟨rfl, rfl, -⟩ | ⟨tail, -, rfl⟩
      · exact keeps
      · exact later between z tail rfl

end AccessStatus
