/-!
# Numbers in text

Decimal and hexadecimal digits of whole numbers, without leading zeros; a negative number has a
minus sign in front.
-/

namespace AccessStatus.Text

/-- The decimal digits of a natural number. -/
def naturalDigits (n : Nat) : List Char := Nat.toDigits 10 n

/-- The decimal digits of a whole number, behind a minus sign when it is negative. -/
def integerDigits (i : Int) : List Char :=
  if i < 0 then '-' :: naturalDigits i.natAbs else naturalDigits i.natAbs

/-- A natural number in decimal. -/
def natural (n : Nat) : String := String.ofList (naturalDigits n)

/-- A whole number in decimal. -/
def integer (i : Int) : String := String.ofList (integerDigits i)

/-- A natural number in hexadecimal, marked as such. -/
def hexadecimal (n : Nat) : String := "0x" ++ String.ofList (Nat.toDigits 16 n)

end AccessStatus.Text
