/-!
# Tables

A finite map whose entries are kept in ascending order of their keys. Keys are ordered by a rank, a
natural number that no two keys share. The order of the entries depends on the keys alone, never on
when they were entered.
-/

namespace AccessStatus

/-- A type whose values are told apart by a number. -/
class Ranked (κ : Type) where
  rank : κ → Nat
  rank_inj : ∀ {a b : κ}, rank a = rank b → a = b

open Ranked (rank rank_inj)

/-- A map from keys to values, ascending by rank. -/
structure Table (κ α : Type) [Ranked κ] where
  entries : List (κ × α)
  ascending : entries.Pairwise fun a b => rank a.1 < rank b.1

namespace Table

variable {κ α β : Type} [Ranked κ]

/-- Puts an entry at its place, in place of one with the same key. -/
def place (k : κ) (a : α) : List (κ × α) → List (κ × α)
  | [] => [(k, a)]
  | (j, b) :: rest =>
    if rank k < rank j then (k, a) :: (j, b) :: rest
    else if rank k = rank j then (k, a) :: rest
    else (j, b) :: place k a rest

theorem mem_place {k : κ} {a : α} {l : List (κ × α)} {x : κ × α} (h : x ∈ place k a l) :
    x = (k, a) ∨ x ∈ l := by
  induction l with
  | nil => exact Or.inl (List.mem_singleton.1 h)
  | cons entry rest ih =>
    obtain ⟨j, b⟩ := entry
    unfold place at h
    split at h
    · exact List.mem_cons.1 h
    · split at h
      · rcases List.mem_cons.1 h with rfl | later
        · exact Or.inl rfl
        · exact Or.inr (List.mem_cons_of_mem _ later)
      · rcases List.mem_cons.1 h with rfl | later
        · exact Or.inr List.mem_cons_self
        · rcases ih later with same | old
          · exact Or.inl same
          · exact Or.inr (List.mem_cons_of_mem _ old)

theorem ascending_place (k : κ) (a : α) {l : List (κ × α)}
    (h : l.Pairwise fun a b => rank a.1 < rank b.1) :
    (place k a l).Pairwise fun a b => rank a.1 < rank b.1 := by
  induction l with
  | nil => exact List.pairwise_singleton _ _
  | cons entry rest ih =>
    obtain ⟨j, b⟩ := entry
    obtain ⟨first, later⟩ := List.pairwise_cons.1 h
    unfold place
    split
    case isTrue less =>
      refine List.pairwise_cons.2 ⟨fun x hx => ?_, h⟩
      rcases List.mem_cons.1 hx with rfl | old
      · exact less
      · exact Nat.lt_trans less (first x old)
    case isFalse notLess =>
      split
      case isTrue same => exact List.pairwise_cons.2 ⟨fun x hx => same ▸ first x hx, later⟩
      case isFalse other =>
        refine List.pairwise_cons.2 ⟨fun x hx => ?_, ih later⟩
        rcases mem_place hx with rfl | old
        · exact Nat.lt_of_le_of_ne (Nat.le_of_not_lt notLess) (Ne.symm other)
        · exact first x old

/-- No entries. -/
def empty : Table κ α := ⟨[], .nil⟩

/-- The value of a key. -/
def get? (t : Table κ α) (k : κ) : Option α :=
  (t.entries.find? fun x => rank x.1 = rank k).map Prod.snd

/-- Gives a key a value. -/
def set (t : Table κ α) (k : κ) (a : α) : Table κ α :=
  ⟨place k a t.entries, ascending_place k a t.ascending⟩

/-- Removes a key. -/
def erase (t : Table κ α) (k : κ) : Table κ α :=
  ⟨t.entries.filter fun x => rank x.1 ≠ rank k, t.ascending.filter _⟩

/-- Gives each key a value made from its old one. -/
def mapEntries (f : κ → α → β) (t : Table κ α) : Table κ β :=
  ⟨t.entries.map fun x => (x.1, f x.1 x.2), List.pairwise_map.2 t.ascending⟩

/-- The keys, ascending. -/
def keys (t : Table κ α) : List κ := t.entries.map Prod.fst

/-- The values, in the order of their keys. -/
def values (t : Table κ α) : List α := t.entries.map Prod.snd

/-- Number of entries. -/
def size (t : Table κ α) : Nat := t.entries.length

/-! ## Looking a key up -/

@[simp] theorem get?_empty (k : κ) : (empty : Table κ α).get? k = none := rfl

theorem find?_place_self (k : κ) (a : α) (l : List (κ × α)) :
    (place k a l).find? (fun x => rank x.1 = rank k) = some (k, a) := by
  induction l with
  | nil => simp [place]
  | cons entry rest ih =>
    unfold place
    split
    · simp
    · split
      · simp
      · rename_i other
        rw [List.find?_cons_of_neg (by simpa using Ne.symm other)]
        exact ih

theorem find?_place_of_ne {k j : κ} (a : α) {l : List (κ × α)} (h : rank j ≠ rank k) :
    (place k a l).find? (fun x => rank x.1 = rank j) = l.find? fun x => rank x.1 = rank j := by
  induction l with
  | nil => simp [place, Ne.symm h]
  | cons entry rest ih =>
    unfold place
    split
    · rw [List.find?_cons_of_neg (by simpa using Ne.symm h)]
    · split
      · rename_i same
        rw [List.find?_cons_of_neg (by simpa using Ne.symm h),
          List.find?_cons_of_neg (by simpa [← same] using Ne.symm h)]
      · simp only [List.find?_cons, ih]

/-- A key has the value it was given last. -/
@[simp] theorem get?_set_self (t : Table κ α) (k : κ) (a : α) : (t.set k a).get? k = some a := by
  rw [get?, set, find?_place_self]
  rfl

/-- Giving one key a value leaves the others alone. -/
theorem get?_set_of_ne (t : Table κ α) {k j : κ} (a : α) (h : j ≠ k) :
    (t.set k a).get? j = t.get? j := by
  rw [get?, set, find?_place_of_ne a fun same => h (rank_inj same)]
  rfl

/-- A removed key has no value. -/
@[simp] theorem get?_erase_self (t : Table κ α) (k : κ) : (t.erase k).get? k = none := by
  simp [get?, erase, List.find?_filter]

/-- Removing one key leaves the others alone. -/
theorem get?_erase_of_ne (t : Table κ α) {k j : κ} (h : j ≠ k) : (t.erase k).get? j = t.get? j := by
  have different : rank j ≠ rank k := fun same => h (rank_inj same)
  have test : (fun x : κ × α =>
    decide (decide (rank x.1 ≠ rank k) = true ∧ decide (rank x.1 = rank j) = true)) =
      fun x => decide (rank x.1 = rank j) := by
    funext x
    by_cases found : rank x.1 = rank j
    · simp [found, different]
    · simp [found]
  simp only [get?, erase, List.find?_filter]
  exact congrArg (fun p => (t.entries.find? p).map Prod.snd) test

/-- A value made from the old one is looked up like the old one. -/
theorem get?_mapEntries (f : κ → α → β) (t : Table κ α) (k : κ) :
    (t.mapEntries f).get? k = (t.get? k).map (f k) := by
  obtain ⟨entries, ascending⟩ := t
  simp only [get?, mapEntries]
  clear ascending
  induction entries with
  | nil => rfl
  | cons entry rest ih =>
    by_cases found : rank entry.1 = rank k
    · obtain rfl := rank_inj found
      simp
    · simp only [List.map_cons, List.find?_cons, found, decide_false]
      exact ih

end Table

end AccessStatus
