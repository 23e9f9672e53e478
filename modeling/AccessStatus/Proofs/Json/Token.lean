import AccessStatus.Json.Printer
import AccessStatus.Json.Token
import Mathlib.Data.List.TakeWhile

/-!
# Tokens read back

A token that was written is read as what it was written from, and what stands behind it is left
(`token?_literal`, `token?_numeral`). A number ends only where no digit, point or exponent can
follow, which is so before every mark and at the end of a text.
-/

namespace AccessStatus.Json

/-! ## Literals of text -/

/-- The first thing read is this, and then what follows is read. -/
def reading (p : Piece) (read : Option (List Piece × List Char)) :
    Option (List Piece × List Char) :=
  read.map fun later => (p :: later.1, later.2)

/-- A hexadecimal digit is read back. -/
theorem hexDigit?_hexDigit {n : Nat} (small : n < 16) : hexDigit? (hexDigit n) = some n := by
  revert n
  decide

/-- Behind a backslash a letter is read as what it stands for. -/
theorem pieces?_escaped {letter c : Char} (stands : escaped? letter = some c) (rest : List Char) :
    pieces? ('\\' :: letter :: rest) = reading (.char c) (pieces? rest) := by
  have notNumber : letter ≠ 'u' := by
    rintro rfl
    cases stands
  rw [pieces?, stands]
  · cases pieces? rest <;> rfl
  · simp [notNumber]

/-- A control character that has no letter is read from its number. -/
theorem pieces?_control {c : Char} (control : c.toNat < 0x20) (rest : List Char) :
    pieces? ('\\' :: 'u' :: '0' :: '0' :: hexDigit (c.toNat / 16) :: hexDigit (c.toNat % 16) ::
        rest) =
      reading (.unit c.toNat) (pieces? rest) := by
  have zero : hexDigit? '0' = some 0 := by decide
  have number : unit? '0' '0' (hexDigit (c.toNat / 16)) (hexDigit (c.toNat % 16)) =
      some c.toNat := by
    rw [unit?, zero, hexDigit?_hexDigit (by omega), hexDigit?_hexDigit (by omega)]
    simp only [Option.bind_eq_bind, Option.bind_some, Option.some.injEq]
    omega
  rw [pieces?, number]
  cases pieces? rest <;> rfl

/-- Any other character stands for itself. -/
theorem pieces?_plain {c : Char} (notQuote : c ≠ '"') (notBackslash : c ≠ '\\')
    (printable : ¬ c.toNat < 0x20) (rest : List Char) :
    pieces? (c :: rest) = reading (.char c) (pieces? rest) := by
  rw [pieces?, if_neg (by simp [notBackslash, printable])]
  · cases pieces? rest <;> rfl
  · exact notQuote
  · simp [notBackslash]
  · simp [notBackslash]

/-- A control character that is spelled out is read as itself. -/
theorem characters?_control {c : Char} (control : c.toNat < 0x20) (pieces : List Piece) :
    characters? (.unit c.toNat :: pieces) = (c :: ·) <$> characters? pieces := by
  rw [characters?.eq_def (.unit c.toNat :: pieces)]
  dsimp only
  rw [if_neg (by omega), if_neg (by omega), Char.ofNat_toNat]

/-- A character is written with a letter behind a backslash, a control character that has no letter
with its number, and any other stands for itself. -/
theorem literalChar_cases (c : Char) :
    (∃ letter, literalChar c = ['\\', letter] ∧ escaped? letter = some c) ∨
      (c.toNat < 0x20 ∧ literalChar c =
        ['\\', 'u', '0', '0', hexDigit (c.toNat / 16), hexDigit (c.toNat % 16)]) ∨
        c ≠ '"' ∧ c ≠ '\\' ∧ ¬ c.toNat < 0x20 ∧ literalChar c = [c] := by
  by_cases named : c ∈ ['"', '\\', '\x08', '\x0c', '\n', '\r', '\t']
  · simp only [List.mem_cons, List.not_mem_nil, or_false] at named
    rcases named with rfl | rfl | rfl | rfl | rfl | rfl | rfl <;> exact .inl ⟨_, rfl, rfl⟩
  · simp only [List.mem_cons, List.not_mem_nil, or_false, not_or] at named
    obtain ⟨quote, backslash, b, f, n, r, t⟩ := named
    have written : literalChar c =
        if c.toNat < 0x20 then
          ['\\', 'u', '0', '0', hexDigit (c.toNat / 16), hexDigit (c.toNat % 16)] else [c] := by
      simp only [literalChar, quote, backslash, b, f, n, r, t, or_self, if_false]
    by_cases control : c.toNat < 0x20
    · exact .inr (.inl ⟨control, written.trans (if_pos control)⟩)
    · exact .inr (.inr ⟨quote, backslash, control, written.trans (if_neg control)⟩)

/-- What is written for a character is read as one element, which stands for that character. -/
theorem exists_piece (c : Char) :
    ∃ p, (∀ rest, pieces? (literalChar c ++ rest) = reading p (pieces? rest)) ∧
      ∀ pieces, characters? (p :: pieces) = (c :: ·) <$> characters? pieces := by
  rcases literalChar_cases c with ⟨letter, written, stands⟩ | ⟨control, written⟩ |
    ⟨quote, backslash, printable, written⟩
  · exact ⟨.char c, written ▸ pieces?_escaped stands, fun _ => rfl⟩
  · exact ⟨.unit c.toNat, written ▸ pieces?_control control, characters?_control control⟩
  · exact ⟨.char c, written ▸ pieces?_plain quote backslash printable, fun _ => rfl⟩

/-- A text in a literal is read back. -/
theorem exists_pieces (cs rest : List Char) :
    ∃ pieces, pieces? (cs.flatMap literalChar ++ '"' :: rest) = some (pieces, rest) ∧
      characters? pieces = some cs := by
  induction cs with
  | nil => exact ⟨[], by rw [List.flatMap_nil, List.nil_append, pieces?], rfl⟩
  | cons c cs ih =>
    obtain ⟨pieces, read, stand⟩ := ih
    obtain ⟨p, first, stands⟩ := exists_piece c
    refine ⟨p :: pieces, ?_, ?_⟩
    · rw [List.flatMap_cons, List.append_assoc, first, read]
      rfl
    · rw [stands, stand]
      rfl

/-- A literal is read as the text that it was written for, or as none. -/
theorem token?_literal (s : Option String) (rest : List Char) :
    token? (literal s ++ rest) = some (.scalar (.text s), rest) := by
  cases s with
  | none =>
    -- a surrogate that has no partner stands for no text
    have alone : unit? 'd' '8' '0' '0' = some 0xd800 := by decide
    simp [literal, token?, pieces?, alone, characters?]
  | some s =>
    obtain ⟨pieces, read, stand⟩ := exists_pieces s.toList rest
    have whole : literal (some s) ++ rest = '"' :: (s.toList.flatMap literalChar ++ '"' :: rest) :=
      by simp [literal]
    rw [whole, token?, read]
    simp [stand]

/-! ## Numbers -/

/-- No number goes on with this text. -/
def EndsNumber : List Char → Prop
  | [] => True
  | c :: _ => c.isDigit = false ∧ c ≠ '.' ∧ c ≠ 'e' ∧ c ≠ 'E'

section Numbers

variable {rest : List Char}

theorem EndsNumber.skipDigits (ends : EndsNumber rest) {digits : List Char}
    (all : ∀ c ∈ digits, c.isDigit = true) :
    skipDigits (digits ++ rest) = rest := by
  rw [Json.skipDigits, List.dropWhile_append_of_pos all]
  cases rest with
  | nil => rfl
  | cons c rest => exact List.dropWhile_cons_of_neg (by simp [ends.1])

/-- The digits of a number end where the number ends. -/
theorem EndsNumber.takeDigits (ends : EndsNumber rest) {digits : List Char}
    (all : ∀ c ∈ digits, c.isDigit = true) :
    (digits ++ rest).takeWhile Char.isDigit = digits := by
  rw [List.takeWhile_append_of_pos all]
  cases rest with
  | nil => exact List.append_nil digits
  | cons c rest => rw [List.takeWhile_cons_of_neg (by simp [ends.1]), List.append_nil]

/-- The digits of a number have no leading zero, unless the number is zero. -/
theorem head_naturalDigits {n : Nat} (positive : 0 < n) :
    (Text.naturalDigits n).head? ≠ some '0' := by
  induction n using Nat.strong_induction_on with
  | _ n ih =>
    unfold Text.naturalDigits at ih ⊢
    by_cases small : n < 10
    · have digit : ∀ d < 10, 0 < d → [Nat.digitChar d].head? ≠ some '0' := by decide
      rw [Nat.toDigits_of_lt_base small]
      exact digit n small positive
    · -- the first digit is that of a tenth of the number
      have tenth := ih (n / 10) (by omega) (by omega)
      rw [Nat.toDigits_of_base_le (by omega) (by omega)]
      cases digits : Nat.toDigits 10 (n / 10) with
      | nil => exact absurd digits Nat.toDigits_ne_nil
      | cons c later =>
        rw [digits] at tenth
        exact tenth

/-- A natural number is written in digits. -/
theorem isDigit_of_mem_naturalDigits {n : Nat} {c : Char} (there : c ∈ Text.naturalDigits n) :
    c.isDigit = true :=
  Nat.isDigit_of_mem_toDigits (by omega) (by omega) there

/-- A number's digits are read as the number. -/
theorem magnitude?_naturalDigits (ends : EndsNumber rest) (n : Nat) :
    magnitude? (Text.naturalDigits n ++ rest) = some (n, rest) := by
  have digits : ∀ c ∈ Text.naturalDigits n, c.isDigit = true :=
    fun _ => isDigit_of_mem_naturalDigits
  have value : Nat.ofDigitChars 10 (Text.naturalDigits n) 0 = n := Nat.ofDigitChars_ten_toDigits
  rcases Nat.eq_zero_or_pos n with rfl | positive
  · rfl
  · have first := head_naturalDigits positive
    cases written : Text.naturalDigits n with
    | nil => exact absurd written Nat.toDigits_ne_nil
    | cons c later =>
      rw [written] at digits value first
      have notZero : c ≠ '0' := fun zero => first (congrArg some zero)
      have laterDigits : ∀ d ∈ later, d.isDigit = true :=
        fun d there => digits d (List.mem_cons_of_mem c there)
      rw [List.cons_append, magnitude?, if_pos (digits c List.mem_cons_self),
        ends.takeDigits laterDigits,
        ends.skipDigits laterDigits, value]
      exact notZero

/-- A number that ends here has no fraction. -/
theorem EndsNumber.fraction? (ends : EndsNumber rest) : fraction? rest = some (false, rest) := by
  cases rest with
  | nil => rfl
  | cons c rest =>
    have noPoint : c ≠ '.' := ends.2.1
    unfold Json.fraction?
    split <;> simp_all

/-- Nor has it an exponent. -/
theorem EndsNumber.exponent? (ends : EndsNumber rest) : exponent? rest = some (false, rest) := by
  cases rest with
  | nil => rfl
  | cons c rest =>
    unfold Json.exponent?
    dsimp only
    rw [if_neg (by simp [ends.2.2])]

/-- The digits of a natural number are read back as that number. -/
theorem unsigned?_naturalDigits (ends : EndsNumber rest) (negative : Bool) (n : Nat) :
    unsigned? negative (Text.naturalDigits n ++ rest) = some (.whole negative n, rest) := by
  rw [unsigned?, magnitude?_naturalDigits ends]
  simp [ends.fraction?, ends.exponent?]

/-- What is written for a number is read back. -/
theorem numeral?_numeralChars (ends : EndsNumber rest) (n : Numeral) :
    numeral? (numeralChars n ++ rest) = some (n, rest) := by
  cases n with
  | whole negative n =>
    cases negative with
    | true => exact unsigned?_naturalDigits ends true n
    | false =>
      have digits : ∀ c ∈ Text.naturalDigits n, c.isDigit = true :=
        fun _ => isDigit_of_mem_naturalDigits
      show numeral? (Text.naturalDigits n ++ rest) = _
      have read := unsigned?_naturalDigits ends false n
      cases written : Text.naturalDigits n with
      | nil => exact absurd written Nat.toDigits_ne_nil
      | cons c later =>
        rw [written] at digits read
        have noSign : c ≠ '-' := by
          rintro rfl
          exact absurd (digits '-' List.mem_cons_self) (by decide)
        rw [List.cons_append] at read ⊢
        rw [numeral?, read]
        exact fun _ same => noSign (List.cons.inj same).1
  | real =>
    have zero : ∀ c ∈ ([] : List Char), c.isDigit = true := by simp
    have skipped : skipDigits rest = rest := ends.skipDigits zero
    show unsigned? false ('0' :: '.' :: '0' :: rest) = _
    rw [unsigned?, magnitude?]
    simp [Json.fraction?, skipped, ends.exponent?]

end Numbers

/-! ## Tokens -/

/-- A text that begins with a number begins with that token. -/
theorem token?_of_numeral {cs rest : List Char} {n : Numeral}
    (read : numeral? cs = some (n, rest)) :
    token? cs = some (.scalar (.number n), rest) := by
  unfold token?
  split
  case h_11 => simp [read]
  all_goals
    -- a mark, a quote or a letter begins no number
    simp [numeral?, unsigned?, magnitude?] at read

end AccessStatus.Json
