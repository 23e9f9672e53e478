import AccessStatus.Table
import Mathlib.Data.Finset.Card
import Mathlib.Data.Set.Card

/-!
# Tables as finite maps

What a table holds is what its look-up finds: an entry stands in the list exactly when its key is
found with its value, no key stands twice, and the number of entries is the number of keys that are
found.
-/

namespace AccessStatus

open Ranked (rank rank_inj)

namespace Table

variable {κ α : Type} [Ranked κ]

/-! ## Entries and look-up -/

/-- No key is listed twice. -/
theorem keys_nodup (t : Table κ α) : t.keys.Nodup := by
  rw [keys, List.Nodup, List.pairwise_map]
  refine t.ascending.imp fun less same => ?_
  rw [same] at less
  omega

/-- Two entries with the same key are the same entry. -/
theorem entry_eq_of_key_eq (t : Table κ α) {x y : κ × α} (hx : x ∈ t.entries) (hy : y ∈ t.entries)
    (same : x.1 = y.1) : x = y :=
  List.inj_on_of_nodup_map t.keys_nodup hx hy same

/-- An entry stands in the table exactly when its key is found with its value. -/
theorem mem_entries_iff (t : Table κ α) {k : κ} {a : α} :
    (k, a) ∈ t.entries ↔ t.get? k = some a := by
  constructor
  · intro stands
    cases found : t.entries.find? fun x => rank x.1 = rank k with
    | none => simpa using List.find?_eq_none.1 found (k, a) stands
    | some x =>
      have key : rank x.1 = rank k := by simpa using List.find?_some found
      have entry : x = (k, a) :=
        t.entry_eq_of_key_eq (List.mem_of_find?_eq_some found) stands (rank_inj key)
      rw [get?, found, entry]
      rfl
  · intro found
    obtain ⟨x, entry, value⟩ := Option.map_eq_some_iff.1 found
    have key : rank x.1 = rank k := by simpa using List.find?_some entry
    have whole : x = (k, a) := Prod.ext (rank_inj key) value
    exact whole ▸ List.mem_of_find?_eq_some entry

/-- The first entry whose value satisfies `p` has the least key of all that do. -/
theorem find?_entries_eq_some {t : Table κ α} {p : α → Bool} {k : κ} {a : α}
    (first : (t.entries.find? fun x => p x.2) = some (k, a)) :
    t.get? k = some a ∧ p a = true ∧ ∀ j b, t.get? j = some b → p b = true → rank k ≤ rank j := by
  obtain ⟨satisfies, before, after, whole, fails⟩ := List.find?_eq_some_iff_append.1 first
  refine ⟨t.mem_entries_iff.1 (List.mem_of_find?_eq_some first), satisfies,
    fun j b found other => ?_⟩
  have stands := t.mem_entries_iff.2 found
  have ascending := t.ascending
  rw [whole] at stands ascending
  rcases List.mem_append.1 stands with earlier | later
  · have refuted := fails (j, b) earlier
    simp [other] at refuted
  · rcases List.mem_cons.1 later with same | behind
    · rw [(Prod.mk.inj same).1]
    · exact Nat.le_of_lt
        ((List.pairwise_cons.1 (List.pairwise_append.1 ascending).2.1).1 (j, b) behind)

/-- If no entry passes a test, what stands at a key does not. -/
theorem find?_entries_eq_none {t : Table κ α} {p : α → Bool}
    (none : (t.entries.find? fun x => p x.2) = none) {k : κ} {a : α} (found : t.get? k = some a) :
    ¬ p a = true :=
  List.find?_eq_none.1 none (k, a) (t.mem_entries_iff.2 found)

/-- A key is listed exactly when it is found. -/
theorem mem_keys_iff (t : Table κ α) {k : κ} : k ∈ t.keys ↔ (t.get? k).isSome := by
  rw [keys, List.mem_map, Option.isSome_iff_exists]
  constructor
  · rintro ⟨⟨j, a⟩, stands, rfl⟩
    exact ⟨a, t.mem_entries_iff.1 stands⟩
  · rintro ⟨a, found⟩
    exact ⟨(k, a), t.mem_entries_iff.2 found, rfl⟩

/-- A value is listed exactly when some key is found with it. -/
theorem mem_values_iff (t : Table κ α) {a : α} : a ∈ t.values ↔ ∃ k, t.get? k = some a := by
  rw [values, List.mem_map]
  constructor
  · rintro ⟨⟨k, b⟩, stands, rfl⟩
    exact ⟨k, t.mem_entries_iff.1 stands⟩
  · rintro ⟨k, found⟩
    exact ⟨(k, a), t.mem_entries_iff.2 found, rfl⟩

/-- A table without values finds nothing. -/
theorem values_isEmpty_iff (t : Table κ α) : t.values.isEmpty = true ↔ ∀ k, t.get? k = none := by
  rw [List.isEmpty_iff, List.eq_nil_iff_forall_not_mem]
  constructor
  · intro empty k
    by_contra found
    obtain ⟨a, value⟩ := Option.ne_none_iff_exists'.1 found
    exact empty a (t.mem_values_iff.2 ⟨k, value⟩)
  · intro nowhere a listed
    obtain ⟨k, value⟩ := t.mem_values_iff.1 listed
    rw [nowhere k] at value
    cases value

/-- The number of entries is the number of keys that are found. -/
theorem size_eq_ncard (t : Table κ α) : t.size = {k | (t.get? k).isSome}.ncard := by
  classical
  have found : {k | (t.get? k).isSome} = (t.keys.toFinset : Set κ) := by
    ext k
    simp [t.mem_keys_iff]
  rw [found, Set.ncard_coe_finset, List.toFinset_card_of_nodup t.keys_nodup, keys, List.length_map,
    size]

/-- The entries of one key are what is found under it. -/
theorem filter_entries_eq [DecidableEq κ] (t : Table κ α) (k : κ) :
    t.entries.filter (fun x => x.1 = k) = ((t.get? k).map fun a => (k, a)).toList := by
  have distinct : (t.entries.filter fun x => x.1 = k).Nodup :=
    (List.Nodup.of_map _ t.keys_nodup).filter _
  cases found : t.get? k with
  | none =>
    refine List.filter_eq_nil_iff.2 fun x stands same => ?_
    obtain rfl : x.1 = k := of_decide_eq_true same
    rw [t.mem_entries_iff.1 (show (x.1, x.2) ∈ t.entries from stands)] at found
    cases found
  | some a =>
    refine List.perm_singleton.1
      ((List.perm_ext_iff_of_nodup distinct (List.nodup_singleton _)).2 fun x => ?_)
    rw [List.mem_filter, List.mem_singleton, decide_eq_true_eq]
    constructor
    · rintro ⟨stands, rfl⟩
      have value := t.mem_entries_iff.1 (show (x.1, x.2) ∈ t.entries from stands)
      exact Prod.ext rfl (Option.some.inj (value.symm.trans found))
    · rintro rfl
      exact ⟨t.mem_entries_iff.2 found, rfl⟩

/-- Tables that find the same under every key are the same. -/
theorem ext_get? {t u : Table κ α} (same : ∀ k, t.get? k = u.get? k) : t = u := by
  have members (x : κ × α) : x ∈ t.entries ↔ x ∈ u.entries := by
    obtain ⟨k, a⟩ := x
    rw [mem_entries_iff, mem_entries_iff, same]
  have distinct (v : Table κ α) : v.entries.Nodup := List.Nodup.of_map _ v.keys_nodup
  have perm : t.entries.Perm u.entries :=
    (List.perm_ext_iff_of_nodup (distinct t) (distinct u)).2 members
  -- both are ascending, and so there is one order only
  have entries : t.entries = u.entries := by
    refine List.Perm.eq_of_pairwise ?_ t.ascending u.ascending perm
    intro x y _ _ less more
    exact absurd more (Nat.lt_asymm less)
  obtain ⟨l, up⟩ := t
  obtain ⟨m, upToo⟩ := u
  obtain rfl : l = m := entries
  rfl

/-! ## Changes -/

/-- The entry of one key is found under that key alone. -/
theorem get?_set [DecidableEq κ] (t : Table κ α) (k j : κ) (a : α) :
    (t.set k a).get? j = if j = k then some a else t.get? j := by
  by_cases same : j = k
  · rw [if_pos same, same, get?_set_self]
  · rw [if_neg same, get?_set_of_ne t a same]

/-- A removed key is the only one that is no longer found. -/
theorem get?_erase [DecidableEq κ] (t : Table κ α) (k j : κ) :
    (t.erase k).get? j = if j = k then none else t.get? j := by
  by_cases same : j = k
  · rw [if_pos same, same, get?_erase_self]
  · rw [if_neg same, get?_erase_of_ne t same]

/-- Giving a key the value that it has changes nothing. -/
theorem set_of_get? [DecidableEq κ] {t : Table κ α} {k : κ} {a : α} (found : t.get? k = some a) :
    t.set k a = t := by
  refine ext_get? fun j => ?_
  rw [get?_set]
  split
  · rename_i same
    rw [same, found]
  · rfl

/-- What a key was given last does not matter once it is removed. -/
theorem erase_set_self [DecidableEq κ] (t : Table κ α) (k : κ) (a : α) :
    (t.set k a).erase k = t.erase k := by
  refine ext_get? fun j => ?_
  rw [get?_erase, get?_erase, get?_set]
  split <;> rfl

/-- Setting one key and erasing another may be done in either order. -/
theorem erase_set_of_ne [DecidableEq κ] (t : Table κ α) {k j : κ} (other : j ≠ k) (a : α) :
    (t.set j a).erase k = (t.erase k).set j a := by
  refine ext_get? fun i => ?_
  rw [get?_erase, get?_set, get?_set, get?_erase]
  by_cases here : i = k
  · rw [if_pos here, if_pos here, if_neg (here ▸ other.symm)]
  · rw [if_neg here, if_neg here]

/-- Erasing a key twice is erasing it once. -/
theorem erase_erase_self [DecidableEq κ] (t : Table κ α) (k : κ) :
    (t.erase k).erase k = t.erase k := by
  refine ext_get? fun j => ?_
  rw [get?_erase, get?_erase]
  split <;> rfl

/-- Two keys may be erased in either order. -/
theorem erase_comm [DecidableEq κ] (t : Table κ α) (k j : κ) :
    (t.erase j).erase k = (t.erase k).erase j := by
  refine ext_get? fun i => ?_
  rw [get?_erase, get?_erase, get?_erase, get?_erase]
  split <;> split <;> rfl

/-- There is nothing to erase in an empty table. -/
@[simp] theorem erase_empty [DecidableEq κ] (k : κ) : (empty : Table κ α).erase k = empty := by
  refine ext_get? fun j => ?_
  rw [get?_erase]
  split <;> rfl

/-- Erasing a key may be done before or after the values are changed. -/
theorem erase_mapEntries [DecidableEq κ] {β : Type} (f : κ → α → β) (t : Table κ α) (k : κ) :
    (t.mapEntries f).erase k = (t.erase k).mapEntries f := by
  refine ext_get? fun j => ?_
  rw [get?_erase, get?_mapEntries, get?_mapEntries, get?_erase]
  split <;> rfl

/-- Values made from the old ones are the same if they are so for every key that is found. -/
theorem mapEntries_congr {β : Type} {f g : κ → α → β} {t : Table κ α}
    (same : ∀ k a, t.get? k = some a → f k a = g k a) : t.mapEntries f = t.mapEntries g := by
  refine ext_get? fun k => ?_
  rw [get?_mapEntries, get?_mapEntries]
  cases found : t.get? k with
  | none => rfl
  | some a => exact congrArg some (same k a found)

/-! ## Values that are picked -/

/-- The values that `f` makes of the old ones, where it makes one. -/
def filterMap {β : Type} (f : α → Option β) (t : Table κ α) : Table κ β where
  entries := t.entries.filterMap fun x => (f x.2).map (Prod.mk x.1)
  ascending := by
    refine List.Pairwise.filterMap _ ?_ t.ascending
    intro x y less z madeX w madeY
    obtain ⟨b, -, rfl⟩ := Option.map_eq_some_iff.1 madeX
    obtain ⟨c, -, rfl⟩ := Option.map_eq_some_iff.1 madeY
    exact less

/-- A lookup in the filtered table is a filtered lookup. -/
theorem get?_filterMap {β : Type} (f : α → Option β) (t : Table κ α) (k : κ) :
    (t.filterMap f).get? k = (t.get? k).bind f := by
  refine Option.ext fun b => ?_
  show (t.filterMap f).get? k = some b ↔ (t.get? k).bind f = some b
  rw [← mem_entries_iff, filterMap, List.mem_filterMap, Option.bind_eq_some_iff]
  constructor
  · rintro ⟨⟨j, a⟩, stands, made⟩
    obtain ⟨c, value, same⟩ := Option.map_eq_some_iff.1 made
    obtain ⟨rfl, rfl⟩ := Prod.mk.inj same
    exact ⟨a, t.mem_entries_iff.1 stands, value⟩
  · rintro ⟨a, found, value⟩
    exact ⟨(k, a), t.mem_entries_iff.2 found, congrArg (Option.map (Prod.mk k)) value⟩

/-- The values of the filtered table are the filtered values. -/
theorem values_filterMap {β : Type} (f : α → Option β) (t : Table κ α) :
    (t.filterMap f).values = t.values.filterMap f := by
  unfold values filterMap
  rw [List.map_filterMap, List.filterMap_map]
  refine List.filterMap_congr fun x _ => ?_
  rw [Option.map_map]
  exact Option.map_id'

/-- What is picked from the values, in their order, depends on what is picked under each key
alone. -/
theorem filterMap_values_congr {β : Type} {f : α → Option β} {t u : Table κ α}
    (same : ∀ k, (t.get? k).bind f = (u.get? k).bind f) :
    t.values.filterMap f = u.values.filterMap f := by
  have picked : t.filterMap f = u.filterMap f := by
    refine ext_get? fun k => ?_
    rw [get?_filterMap, get?_filterMap, same]
  rw [← values_filterMap, ← values_filterMap, picked]

end Table

end AccessStatus
