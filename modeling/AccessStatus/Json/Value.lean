/-!
# JSON values

A value as it is read from a text. A text value, and the name of a member, is `none` when its
literal holds a surrogate that has no partner: such a literal is allowed where nobody looks at it,
and stands for no text. Members are kept in order, repeated names included.
-/

namespace AccessStatus

/-- A number as it is written. -/
inductive Numeral where
  /-- Digits alone, behind a minus sign or not. -/
  | whole (negative : Bool) (magnitude : Nat)
  /-- A number with a fraction or an exponent; which one is not kept, since no record holds one. -/
  | real
  deriving DecidableEq

namespace Numeral

/-- The numeral of an integer. -/
def ofInt (i : Int) : Numeral := .whole (decide (i < 0)) i.natAbs

/-- The integer that a numeral stands for. A minus sign before zero makes it no integer. -/
def toInt? : Numeral → Option Int
  | .whole false n => some n
  | .whole true 0 => none
  | .whole true (n + 1) => some (-(n + 1 : Nat))
  | .real => none

/-- An integer's numeral stands for it. -/
@[simp] theorem toInt?_ofInt (i : Int) : (ofInt i).toInt? = some i := by
  cases i with
  | ofNat n => rfl
  | negSucc n =>
    have negative : decide (Int.negSucc n < 0) = true := decide_eq_true (Int.negSucc_lt_zero n)
    rw [ofInt, negative]
    rfl

end Numeral

/-- A JSON value. -/
inductive Json where
  | null
  | bool (b : Bool)
  | number (n : Numeral)
  | text (s : Option String)
  | list (items : List Json)
  | object (members : List (Option String × Json))

end AccessStatus
