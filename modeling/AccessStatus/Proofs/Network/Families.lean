import AccessStatus.Network.Basic
import Mathlib.Data.Nat.Bitwise
import Mathlib.Order.Lattice

/-!
# What the addresses of a link make usable

Which addresses count is decided byte by byte and with masks on the first group; said here in the
usual way, by blocks of addresses. A mask of leading ones rounds a number down, so that it singles
out a block (`and_leadingOnes_eq_iff`). Protocols are ordered by the versions they have, and those
of a link are the least that have what its addresses have. The main statement is
`ofAddresses_by_blocks`.
-/

namespace AccessStatus

/-! ## Masks of leading ones -/

/-- Masking with `m` ones above `k` zeros rounds a number of so many bits down to a multiple of `2 ^
k`. -/
theorem and_leadingOnes {x m k : Nat} (fits : x < 2 ^ (m + k)) :
    x &&& ((2 ^ m - 1) * 2 ^ k) = x / 2 ^ k * 2 ^ k := by
  apply Nat.eq_of_testBit_eq
  intro i
  rw [Nat.testBit_and, Nat.testBit_mul_two_pow, Nat.testBit_mul_two_pow,
    Nat.testBit_two_pow_sub_one,
    Nat.testBit_div_two_pow]
  by_cases low : k ≤ i
  · rw [Nat.sub_add_cancel low]
    by_cases high : i - k < m
    · simp [low, high]
    · -- above the mask the number has no ones either
      have none : x.testBit i = false := by
        apply Nat.testBit_lt_two_pow
        exact lt_of_lt_of_le fits (Nat.pow_le_pow_right (by decide) (by omega))
      simp [none]
  · simp [low]

/-- What is rounded down to `q * w` are the `w` numbers from there on. -/
theorem div_mul_eq_iff {x q w : Nat} (positive : 0 < w) :
    x / w * w = q * w ↔ q * w ≤ x ∧ x < q * w + w := by
  rw [Nat.mul_left_inj (Nat.ne_of_gt positive), Nat.div_eq_iff positive]
  constructor
  · rintro ⟨low, high⟩
    exact ⟨low, by omega⟩
  · rintro ⟨low, high⟩
    exact ⟨low, by omega⟩

/-- A group masked with `m` leading ones is `first` exactly if it is in the block of groups that
begins with `first`. -/
theorem and_leadingOnes_eq_iff (group : UInt16) {mask first : UInt16} (m k q : Nat)
    (width : m + k = 16) (ones : mask.toNat = (2 ^ m - 1) * 2 ^ k)
    (aligned : first.toNat = q * 2 ^ k) :
    group &&& mask = first ↔ first.toNat ≤ group.toNat ∧ group.toNat < first.toNat + 2 ^ k := by
  have fits : group.toNat < 2 ^ (m + k) := by
    rw [width]
    exact group.toNat_lt
  rw [← UInt16.toNat_inj, UInt16.toNat_and, ones, and_leadingOnes fits, aligned,
    div_mul_eq_iff (Nat.two_pow_pos k)]

/-! ## Addresses that count -/

namespace Address

/-- An address as one number, its first byte or group the most significant. -/
def number : Address → Nat
  | v4 a b c d => [a, b, c, d].foldl (fun n byte => n * 256 + byte.toNat) 0
  | v6 a b c d e f g h => [a, b, c, d, e, f, g, h].foldl (fun n group => n * 65536 + group.toNat) 0

/-- A version 4 address outside 127.0.0.0/8, other than 0.0.0.0. -/
def CountsV4 : Address → Prop
  | v4 a b c d =>
    ¬ ((v4 127 0 0 0).number ≤ (v4 a b c d).number ∧
      (v4 a b c d).number ≤ (v4 127 255 255 255).number) ∧
      v4 a b c d ≠ v4 0 0 0 0
  | v6 .. => False

/-- A version 6 address other than `::` and `::1` whose first group is neither in fe80 to febf nor
in fc00 to fdff. -/
def CountsV6 : Address → Prop
  | v4 .. => False
  | v6 a b c d e f g h =>
    v6 a b c d e f g h ≠ v6 0 0 0 0 0 0 0 0 ∧ v6 a b c d e f g h ≠ v6 0 0 0 0 0 0 0 1 ∧
      ¬ (0xfe80 ≤ a ∧ a ≤ 0xfebf) ∧ ¬ (0xfc00 ≤ a ∧ a ≤ 0xfdff)

/-- The addresses of the block 127.0.0.0/8 are those with 127 as their first byte. -/
theorem loopback_iff (a b c d : UInt8) :
    (v4 127 0 0 0).number ≤ (v4 a b c d).number ∧
      (v4 a b c d).number ≤ (v4 127 255 255 255).number ↔ a = 127 := by
  have first : a = 127 ↔ a.toNat = 127 := UInt8.toNat_inj.symm
  have below (byte : UInt8) : byte.toNat < 256 := byte.toNat_lt
  have hb := below b
  have hc := below c
  have hd := below d
  have low : (v4 127 0 0 0).number = 127 * 16777216 := rfl
  have high : (v4 127 255 255 255).number = 127 * 16777216 + 16777215 := rfl
  rw [first, low, high]
  simp only [number, List.foldl_cons, List.foldl_nil]
  omega

/-- A version 4 address is usable exactly if it counts as one. -/
theorem isUsableV4_iff (x : Address) : x.isUsableV4 = true ↔ x.CountsV4 := by
  cases x with
  | v4 a b c d =>
    have zeros : (a == 0 && b == 0 && c == 0 && d == 0) = true ↔ v4 a b c d = v4 0 0 0 0 := by
      simp [and_assoc]
    rw [CountsV4, loopback_iff, isUsableV4, Bool.and_eq_true, bne_iff_ne, Bool.not_eq_true',
      ← Bool.not_eq_true, zeros]
  | v6 a b c d e f g h => simp [isUsableV4, CountsV4]

/-- The mask of ten ones singles out the link-local block. -/
theorem linkLocal_iff (group : UInt16) :
    group &&& 0xffc0 = 0xfe80 ↔ 0xfe80 ≤ group ∧ group ≤ 0xfebf := by
  rw [and_leadingOnes_eq_iff group 10 6 1018 rfl rfl rfl, UInt16.le_iff_toNat_le,
    UInt16.le_iff_toNat_le]
  refine and_congr Iff.rfl ?_
  exact Nat.lt_succ_iff

/-- The mask of seven ones singles out the unique local block. -/
theorem uniqueLocal_iff (group : UInt16) :
    group &&& 0xfe00 = 0xfc00 ↔ 0xfc00 ≤ group ∧ group ≤ 0xfdff := by
  rw [and_leadingOnes_eq_iff group 7 9 126 rfl rfl rfl, UInt16.le_iff_toNat_le,
    UInt16.le_iff_toNat_le]
  refine and_congr Iff.rfl ?_
  exact Nat.lt_succ_iff

/-- A version 4 address that is written as one of version 6. -/
def IsMapped (x : Address) : Prop := ∃ g h, x = v6 0 0 0 0 0 0xffff g h

/-- An address that is mapped into version 6 counts for version 6 only. -/
theorem IsMapped.counts {x : Address} (mapped : x.IsMapped) : x.CountsV6 ∧ ¬ x.CountsV4 := by
  obtain ⟨g, h, rfl⟩ := mapped
  refine ⟨?_, id⟩
  simp [CountsV6]

/-- A version 6 address is usable exactly if it counts as one. -/
theorem isUsableV6_iff (x : Address) : x.isUsableV6 = true ↔ x.CountsV6 := by
  cases x with
  | v4 a b c d => simp [isUsableV6, CountsV6]
  | v6 a b c d e f g h =>
    have zeros : (a == 0 && b == 0 && c == 0 && d == 0 && e == 0 && f == 0 && g == 0 && h == 0) =
      true ↔
        v6 a b c d e f g h = v6 0 0 0 0 0 0 0 0 := by simp [and_assoc]
    have one : (a == 0 && b == 0 && c == 0 && d == 0 && e == 0 && f == 0 && g == 0 && h == 1) =
      true ↔
        v6 a b c d e f g h = v6 0 0 0 0 0 0 0 1 := by simp [and_assoc]
    rw [CountsV6, ← linkLocal_iff, ← uniqueLocal_iff, isUsableV6]
    rw [Bool.and_eq_true, Bool.and_eq_true, Bool.and_eq_true, bne_iff_ne, bne_iff_ne,
      Bool.not_eq_true', Bool.not_eq_true', ← Bool.not_eq_true, ← Bool.not_eq_true, zeros, one,
      and_assoc, and_assoc]
    exact and_left_comm

end Address

/-! ## The protocols of a link -/

namespace LinkProtocol

/-- Version 4 is usable. -/
def HasIpv4 (p : LinkProtocol) : Prop := p = .ipv4 ∨ p = .ipv4v6

/-- Version 6 is usable. -/
def HasIpv6 (p : LinkProtocol) : Prop := p = .ipv6 ∨ p = .ipv4v6

/-- What does not lack version 4 has it. -/
theorem lacksIpv4_eq_false_iff (p : LinkProtocol) : p.lacksIpv4 = false ↔ p.HasIpv4 := by
  cases p <;> simp [lacksIpv4, HasIpv4]

/-- A protocol is known by the versions that it has. -/
theorem ext_versions {p q : LinkProtocol} (ipv4 : p.HasIpv4 ↔ q.HasIpv4)
    (ipv6 : p.HasIpv6 ↔ q.HasIpv6) : p = q := by
  cases p <;> cases q <;> simp_all [HasIpv4, HasIpv6]

/-- A protocol is below another if that has all its versions. -/
instance : PartialOrder LinkProtocol where
  le p q := (p.HasIpv4 → q.HasIpv4) ∧ (p.HasIpv6 → q.HasIpv6)
  le_refl p := ⟨id, id⟩
  le_trans p q r first second := ⟨second.1 ∘ first.1, second.2 ∘ first.2⟩
  le_antisymm p q first second := ext_versions ⟨first.1, second.1⟩ ⟨first.2, second.2⟩

/-- The protocol with the versions of two. -/
def join : LinkProtocol → LinkProtocol → LinkProtocol
  | unknown, q => q
  | p, unknown => p
  | ipv4, ipv4 => ipv4
  | ipv6, ipv6 => ipv6
  | _, _ => ipv4v6

/-- Two protocols together have version 4 if one of them has. -/
theorem hasIpv4_join (p q : LinkProtocol) : (p.join q).HasIpv4 ↔ p.HasIpv4 ∨ q.HasIpv4 := by
  cases p <;> cases q <;> simp [join, HasIpv4]

/-- So it is with version 6. -/
theorem hasIpv6_join (p q : LinkProtocol) : (p.join q).HasIpv6 ↔ p.HasIpv6 ∨ q.HasIpv6 := by
  cases p <;> cases q <;> simp [join, HasIpv6]

instance : SemilatticeSup LinkProtocol where
  sup := join
  le_sup_left p q :=
    ⟨fun has => (hasIpv4_join p q).2 (.inl has), fun has => (hasIpv6_join p q).2 (.inl has)⟩
  le_sup_right p q :=
    ⟨fun has => (hasIpv4_join p q).2 (.inr has), fun has => (hasIpv6_join p q).2 (.inr has)⟩
  sup_le p q _ left right :=
    ⟨fun has => ((hasIpv4_join p q).1 has).elim left.1 right.1,
      fun has => ((hasIpv6_join p q).1 has).elim left.2 right.2⟩

theorem hasIpv4_sup (p q : LinkProtocol) : (p ⊔ q).HasIpv4 ↔ p.HasIpv4 ∨ q.HasIpv4 :=
  hasIpv4_join p q

theorem hasIpv6_sup (p q : LinkProtocol) : (p ⊔ q).HasIpv6 ↔ p.HasIpv6 ∨ q.HasIpv6 :=
  hasIpv6_join p q

/-- Version 4 is usable on a link that has an address of version 4 that counts. -/
theorem hasIpv4_ofAddresses (l : List Address) : (ofAddresses l).HasIpv4 ↔ ∃ x ∈ l, x.CountsV4 := by
  have some : (∃ x ∈ l, x.CountsV4) ↔ l.any Address.isUsableV4 = true := by
    simp only [List.any_eq_true, Address.isUsableV4_iff]
  rw [some]
  unfold ofAddresses HasIpv4
  cases l.any Address.isUsableV4 <;> cases l.any Address.isUsableV6 <;> simp

/-- Version 6 is usable on a link that has an address of version 6 that counts. -/
theorem hasIpv6_ofAddresses (l : List Address) : (ofAddresses l).HasIpv6 ↔ ∃ x ∈ l, x.CountsV6 := by
  have some : (∃ x ∈ l, x.CountsV6) ↔ l.any Address.isUsableV6 = true := by
    simp only [List.any_eq_true, Address.isUsableV6_iff]
  rw [some]
  unfold ofAddresses HasIpv6
  cases l.any Address.isUsableV4 <;> cases l.any Address.isUsableV6 <;> simp

/-- Which addresses there are decides, not where or how often they are listed. -/
theorem ofAddresses_congr {l m : List Address} (same : ∀ x, x ∈ l ↔ x ∈ m) :
    ofAddresses l = ofAddresses m := by
  apply ext_versions
  · rw [hasIpv4_ofAddresses, hasIpv4_ofAddresses]
    simp only [same]
  · rw [hasIpv6_ofAddresses, hasIpv6_ofAddresses]
    simp only [same]

/-- The protocol of all addresses is the join of those of two parts. -/
theorem ofAddresses_append (l m : List Address) :
    ofAddresses (l ++ m) = ofAddresses l ⊔ ofAddresses m := by
  apply ext_versions
  · rw [hasIpv4_sup, hasIpv4_ofAddresses, hasIpv4_ofAddresses, hasIpv4_ofAddresses]
    simp only [List.mem_append, or_and_right, exists_or]
  · rw [hasIpv6_sup, hasIpv6_ofAddresses, hasIpv6_ofAddresses, hasIpv6_ofAddresses]
    simp only [List.mem_append, or_and_right, exists_or]

theorem lacksIpv4_sup (p q : LinkProtocol) : (p ⊔ q).lacksIpv4 = (p.lacksIpv4 && q.lacksIpv4) := by
  cases p <;> cases q <;> rfl

/-- What a list of addresses makes of a link. -/
structure ClassifiedByBlocks (l : List Address) : Prop where
  ipv4 : (ofAddresses l).HasIpv4 ↔ ∃ x ∈ l, x.CountsV4
  ipv6 : (ofAddresses l).HasIpv6 ↔ ∃ x ∈ l, x.CountsV6
  /-- Version 4 addresses that are written as ones of version 6 make version 6 usable, and not
  version 4. -/
  mapped : l ≠ [] → (∀ x ∈ l, x.IsMapped) → ofAddresses l = .ipv6
  /-- Order and repetition of the addresses do not matter. -/
  anyOrder : ∀ m, (∀ x, x ∈ l ↔ x ∈ m) → ofAddresses l = ofAddresses m
  /-- The protocol of two lists together is the least that has what both have. -/
  append : ∀ m, ofAddresses (l ++ m) = ofAddresses l ⊔ ofAddresses m
  /-- Version 4 is lacking in two lists together if it is in each. -/
  lacks : ∀ m, (ofAddresses (l ++ m)).lacksIpv4 =
    ((ofAddresses l).lacksIpv4 && (ofAddresses m).lacksIpv4)

/-- The versions usable on a link are those of its addresses outside the blocks that do not
count. -/
theorem ofAddresses_by_blocks (l : List Address) : ClassifiedByBlocks l where
  ipv4 := hasIpv4_ofAddresses l
  ipv6 := hasIpv6_ofAddresses l
  mapped := by
    intro some all
    obtain ⟨x, listed⟩ := List.exists_mem_of_ne_nil l some
    apply ext_versions
    · rw [hasIpv4_ofAddresses]
      constructor
      · rintro ⟨y, listed, counts⟩
        exact absurd counts (all y listed).counts.2
      · rintro (lacks | lacks) <;> cases lacks
    · rw [hasIpv6_ofAddresses]
      exact ⟨fun _ => .inl rfl, fun _ => ⟨x, listed, (all x listed).counts.1⟩⟩
  anyOrder m same := ofAddresses_congr same
  append m := ofAddresses_append l m
  lacks m := by rw [ofAddresses_append, lacksIpv4_sup]

/-- The link-local block ends right below fec0::, where version 6 begins to be usable. -/
example : ofAddresses [.v6 0xfebf 0xffff 0 0 0 0 0 1, .v4 127 255 255 255] = .unknown ∧
    ofAddresses [.v6 0xfec0 0 0 0 0 0 0 1, .v4 128 0 0 0] = .ipv4v6 := by decide

end LinkProtocol

end AccessStatus
