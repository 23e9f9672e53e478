import AccessStatus.Json.Value
import AccessStatus.Text.Decimal

/-!
# Writing JSON

The compact form: no blanks, members in order, and in a text literal only those characters escaped
that must be.
-/

namespace AccessStatus.Json

/-- One hexadecimal digit. -/
def hexDigit (n : Nat) : Char := Nat.digitChar n

/-- How one character stands inside a text literal. -/
def literalChar (c : Char) : List Char :=
  if c = '"' ∨ c = '\\' then ['\\', c]
  else if c = '\x08' then ['\\', 'b']
  else if c = '\x0c' then ['\\', 'f']
  else if c = '\n' then ['\\', 'n']
  else if c = '\r' then ['\\', 'r']
  else if c = '\t' then ['\\', 't']
  else if c.toNat < 0x20 then
    ['\\', 'u', '0', '0', hexDigit (c.toNat / 16), hexDigit (c.toNat % 16)]
  else [c]

/-- A text literal. What stands for no text is written as a surrogate alone. -/
def literal : Option String → List Char
  | some s => '"' :: s.toList.flatMap literalChar ++ ['"']
  | none => ['"', '\\', 'u', 'd', '8', '0', '0', '"']

/-- A number. One that is not whole has lost its digits and is written as some such number. -/
def numeralChars : Numeral → List Char
  | .whole negative n => (if negative then ['-'] else []) ++ Text.naturalDigits n
  | .real => ['0', '.', '0']

mutual

/-- The compact form of a value. -/
def compactChars : Json → List Char
  | null => ['n', 'u', 'l', 'l']
  | bool true => ['t', 'r', 'u', 'e']
  | bool false => ['f', 'a', 'l', 's', 'e']
  | number n => numeralChars n
  | text s => literal s
  | list items => '[' :: itemChars items
  | object members => '\x7b' :: memberChars members

/-- The items of a list and its end. -/
def itemChars : List Json → List Char
  | [] => [']']
  | v :: rest => compactChars v ++ laterItemChars rest

/-- The items of a list behind the first, and its end. -/
def laterItemChars : List Json → List Char
  | [] => [']']
  | v :: rest => ',' :: (compactChars v ++ laterItemChars rest)

/-- The members of an object and its end. -/
def memberChars : List (Option String × Json) → List Char
  | [] => ['\x7d']
  | (name, v) :: rest => literal name ++ ':' :: (compactChars v ++ laterMemberChars rest)

/-- The members of an object behind the first, and its end. -/
def laterMemberChars : List (Option String × Json) → List Char
  | [] => ['\x7d']
  | (name, v) :: rest => ',' :: (literal name ++ ':' :: (compactChars v ++ laterMemberChars rest))

end

/-- The compact text of a value. -/
def compact (v : Json) : String := String.ofList (compactChars v)

end AccessStatus.Json
