import AccessStatus.Json.Value

/-!
# JSON tokens

The smallest parts of a JSON text: the six marks, and the values that hold no others. Each reader
takes the longest beginning of a text that it can read and returns it with the rest, which is
shorter.
-/

namespace AccessStatus.Json

/-! ## Literals of text -/

/-- One element of a text literal: a character, or the number behind `\u`. -/
inductive Piece where
  | char (c : Char)
  | unit (n : Nat)

/-- The value of a hexadecimal digit. -/
def hexDigit? (c : Char) : Option Nat :=
  if '0' ≤ c ∧ c ≤ '9' then some (c.toNat - '0'.toNat)
  else if 'a' ≤ c ∧ c ≤ 'f' then some (c.toNat - 'a'.toNat + 10)
  else if 'A' ≤ c ∧ c ≤ 'F' then some (c.toNat - 'A'.toNat + 10)
  else none

/-- The number that four hexadecimal digits write. -/
def unit? (a b c d : Char) : Option Nat := do
  let a ← hexDigit? a
  let b ← hexDigit? b
  let c ← hexDigit? c
  let d ← hexDigit? d
  some (((a * 16 + b) * 16 + c) * 16 + d)

/-- The character that a letter behind a backslash stands for. -/
def escaped? (c : Char) : Option Char :=
  if c = '"' ∨ c = '\\' ∨ c = '/' then some c
  else if c = 'b' then some '\x08'
  else if c = 'f' then some '\x0c'
  else if c = 'n' then some '\n'
  else if c = 'r' then some '\r'
  else if c = 't' then some '\t'
  else none

/-- Reads a text literal behind its opening quote. A control character may not stand in it. -/
def pieces? : List Char → Option (List Piece × List Char)
  | [] => none
  | '"' :: rest => some ([], rest)
  | '\\' :: 'u' :: a :: b :: c :: d :: rest => do
    let n ← unit? a b c d
    let (pieces, rest) ← pieces? rest
    some (.unit n :: pieces, rest)
  | '\\' :: c :: rest => do
    let c ← escaped? c
    let (pieces, rest) ← pieces? rest
    some (.char c :: pieces, rest)
  | c :: rest =>
    if c = '\\' ∨ c.toNat < 0x20 then none
    else do
      let (pieces, rest) ← pieces? rest
      some (.char c :: pieces, rest)

/-- The characters that a literal stands for: a leading surrogate and the trailing one behind it are
one character, and neither may stand alone. -/
def characters? : List Piece → Option (List Char)
  | [] => some []
  | .char c :: rest => (c :: ·) <$> characters? rest
  | .unit n :: rest =>
    if 0xd800 ≤ n ∧ n < 0xdc00 then
      match rest with
      | .unit m :: rest =>
        if 0xdc00 ≤ m ∧ m < 0xe000 then
          (Char.ofNat (0x10000 + (n - 0xd800) * 0x400 + (m - 0xdc00)) :: ·) <$> characters? rest
        else none
      | _ => none
    else if 0xdc00 ≤ n ∧ n < 0xe000 then none
    else (Char.ofNat n :: ·) <$> characters? rest

/-- A literal leaves a shorter rest. -/
theorem length_pieces? {cs rest : List Char} {pieces : List Piece}
    (h : pieces? cs = some (pieces, rest)) :
    rest.length < cs.length := by
  fun_induction pieces? cs generalizing pieces with
  | case1 => simp at h
  | case2 => simp_all
  | case3 a b c d tail ih =>
    simp only [Option.bind_eq_bind, Option.bind_eq_some_iff, Option.some.injEq, Prod.mk.injEq] at h
    obtain ⟨_, _, ⟨later, rest'⟩, found, _, rfl⟩ := h
    have shorter : rest'.length < tail.length := ih found
    simp only [List.length_cons]
    omega
  | case4 c tail _ ih =>
    simp only [Option.bind_eq_bind, Option.bind_eq_some_iff, Option.some.injEq, Prod.mk.injEq] at h
    obtain ⟨_, _, ⟨later, rest'⟩, found, _, rfl⟩ := h
    have shorter : rest'.length < tail.length := ih found
    simp only [List.length_cons]
    omega
  | case5 => simp at h
  | case6 c tail _ _ _ _ ih =>
    simp only [Option.bind_eq_bind, Option.bind_eq_some_iff, Option.some.injEq, Prod.mk.injEq] at h
    obtain ⟨⟨later, rest'⟩, found, _, rfl⟩ := h
    have shorter : rest'.length < tail.length := ih found
    simp only [List.length_cons]
    omega

/-! ## Numbers -/

/-- What is left behind the digits at the beginning of a text. -/
def skipDigits (cs : List Char) : List Char := cs.dropWhile Char.isDigit

/-- Reads digits without a needless leading zero. -/
def magnitude? : List Char → Option (Nat × List Char)
  | [] => none
  | '0' :: rest => some (0, rest)
  | c :: rest =>
    if c.isDigit then some (Nat.ofDigitChars 10 (c :: rest.takeWhile Char.isDigit) 0,
      skipDigits rest)
    else none

/-- Reads a fraction, if there is one. -/
def fraction? : List Char → Option (Bool × List Char)
  | '.' :: c :: rest => if c.isDigit then some (true, skipDigits rest) else none
  | ['.'] => none
  | cs => some (false, cs)

/-- Reads an exponent's digits, of which there must be one. -/
def exponentDigits? : List Char → Option (List Char)
  | c :: rest => if c.isDigit then some (skipDigits rest) else none
  | [] => none

/-- Reads an exponent, if there is one. -/
def exponent? : List Char → Option (Bool × List Char)
  | [] => some (false, [])
  | c :: rest =>
    if c = 'e' ∨ c = 'E' then
      match rest with
      | '+' :: rest => (true, ·) <$> exponentDigits? rest
      | '-' :: rest => (true, ·) <$> exponentDigits? rest
      | rest => (true, ·) <$> exponentDigits? rest
    else some (false, c :: rest)

/-- Reads what follows the sign of a number. -/
def unsigned? (negative : Bool) (cs : List Char) : Option (Numeral × List Char) := do
  let (n, rest) ← magnitude? cs
  let (fractional, rest) ← fraction? rest
  let (scaled, rest) ← exponent? rest
  some (if fractional || scaled then .real else .whole negative n, rest)

/-- Reads a number. -/
def numeral? : List Char → Option (Numeral × List Char)
  | '-' :: rest => unsigned? true rest
  | cs => unsigned? false cs

theorem length_skipDigits_le (cs : List Char) : (skipDigits cs).length ≤ cs.length :=
  (List.dropWhile_suffix _).length_le

theorem length_magnitude? {cs rest : List Char} {n : Nat} (h : magnitude? cs = some (n, rest)) :
    rest.length < cs.length := by
  unfold magnitude? at h
  split at h
  · simp at h
  · simp_all
  · split at h
    · obtain ⟨_, rfl⟩ := Prod.mk.inj (Option.some.inj h)
      have shorter := length_skipDigits_le
      simp only [List.length_cons]
      exact Nat.lt_succ_of_le (shorter _)
    · simp at h

theorem length_fraction? {cs rest : List Char} {b : Bool} (h : fraction? cs = some (b, rest)) :
    rest.length ≤ cs.length := by
  unfold fraction? at h
  split at h
  · split at h
    · obtain ⟨_, rfl⟩ := Prod.mk.inj (Option.some.inj h)
      exact Nat.le_trans (length_skipDigits_le _) (Nat.le_add_right _ 2)
    · simp at h
  · simp at h
  · obtain ⟨_, rfl⟩ := Prod.mk.inj (Option.some.inj h)
    exact Nat.le_refl _

theorem length_exponentDigits? {cs rest : List Char} (h : exponentDigits? cs = some rest) :
    rest.length ≤ cs.length := by
  unfold exponentDigits? at h
  split at h
  · split at h
    · obtain rfl := Option.some.inj h
      exact Nat.le_trans (length_skipDigits_le _) (by simp)
    · simp at h
  · simp at h

theorem length_exponent? {cs rest : List Char} {b : Bool} (h : exponent? cs = some (b, rest)) :
    rest.length ≤ cs.length := by
  unfold exponent? at h
  split at h
  · simp_all
  · split at h
    · split at h <;>
      · obtain ⟨_, found, same⟩ := Option.map_eq_some_iff.1 h
        obtain ⟨_, rfl⟩ := Prod.mk.inj same
        have shorter := length_exponentDigits? found
        simp only [List.length_cons] at *
        omega
    · obtain ⟨_, rfl⟩ := Prod.mk.inj (Option.some.inj h)
      exact Nat.le_refl _

theorem length_unsigned? {cs rest : List Char} {negative : Bool} {n : Numeral}
    (h : unsigned? negative cs = some (n, rest)) : rest.length < cs.length := by
  simp only [unsigned?, Option.bind_eq_bind, Option.bind_eq_some_iff, Option.some.injEq,
    Prod.mk.injEq] at h
  obtain ⟨⟨_, afterWhole⟩, whole, ⟨_, afterFraction⟩, fraction, ⟨_, rest⟩, exponent, _, rfl⟩ := h
  have first : afterWhole.length < cs.length := length_magnitude? whole
  have second : afterFraction.length ≤ afterWhole.length := length_fraction? fraction
  have third : rest.length ≤ afterFraction.length := length_exponent? exponent
  exact Nat.lt_of_le_of_lt (Nat.le_trans third second) first

/-- A number leaves a shorter rest. -/
theorem length_numeral? {cs rest : List Char} {n : Numeral} (h : numeral? cs = some (n, rest)) :
    rest.length < cs.length := by
  unfold numeral? at h
  split at h
  · have shorter := length_unsigned? h
    simp only [List.length_cons]
    omega
  · exact length_unsigned? h

/-! ## Tokens -/

/-- The smallest parts of a JSON text. -/
inductive Token where
  | openObject | closeObject | openList | closeList | comma | colon
  /-- A value that holds no others. -/
  | scalar (v : Json)

/-- Reads one token, which begins at the first character. -/
def token? : List Char → Option (Token × List Char)
  | '\x7b' :: rest => some (.openObject, rest)
  | '\x7d' :: rest => some (.closeObject, rest)
  | '[' :: rest => some (.openList, rest)
  | ']' :: rest => some (.closeList, rest)
  | ',' :: rest => some (.comma, rest)
  | ':' :: rest => some (.colon, rest)
  | '"' :: rest => do
    let (pieces, rest) ← pieces? rest
    some (.scalar (.text ((characters? pieces).map String.ofList)), rest)
  | 'n' :: 'u' :: 'l' :: 'l' :: rest => some (.scalar .null, rest)
  | 't' :: 'r' :: 'u' :: 'e' :: rest => some (.scalar (.bool true), rest)
  | 'f' :: 'a' :: 'l' :: 's' :: 'e' :: rest => some (.scalar (.bool false), rest)
  | cs => do
    let (n, rest) ← numeral? cs
    some (.scalar (.number n), rest)

/-- A token leaves a shorter rest. -/
theorem length_token? {cs rest : List Char} {t : Token} (h : token? cs = some (t, rest)) :
    rest.length < cs.length := by
  unfold token? at h
  split at h
  case h_7 =>
    simp only [Option.bind_eq_bind, Option.bind_eq_some_iff, Option.some.injEq, Prod.mk.injEq] at h
    obtain ⟨⟨_, _⟩, found, _, rfl⟩ := h
    have shorter := length_pieces? found
    simp only [List.length_cons]
    omega
  case h_11 =>
    simp only [Option.bind_eq_bind, Option.bind_eq_some_iff, Option.some.injEq, Prod.mk.injEq] at h
    obtain ⟨⟨_, _⟩, found, _, rfl⟩ := h
    exact length_numeral? found
  all_goals
    obtain ⟨_, rfl⟩ := Prod.mk.inj (Option.some.inj h)
    simp only [List.length_cons]
    omega

end AccessStatus.Json
