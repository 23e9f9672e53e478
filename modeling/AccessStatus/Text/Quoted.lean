import AccessStatus.Text.Unprintable

/-!
# Quoted text

A text between double quotes. The quote and the backslash are escaped, the common controls have a
letter, and any other character that cannot be seen is written as its number in hexadecimal.
-/

namespace AccessStatus.Text

/-- The number of a character as an escape: its hexadecimal digits in braces after `u`. -/
def numberEscape (c : Char) : List Char :=
  ['\\', 'u', '\x7b'] ++ Nat.toDigits 16 c.toNat ++ ['\x7d']

/-- How one character stands inside a quoted text. -/
def quotedChar (c : Char) : List Char :=
  if c = '"' || c = '\\' then ['\\', c]
  else if c = '\n' then ['\\', 'n']
  else if c = '\r' then ['\\', 'r']
  else if c = '\t' then ['\\', 't']
  else if c = '\x00' then ['\\', '0']
  else if isUnprintable c then numberEscape c
  else [c]

/-- The text in quotes, each character as `quotedChar` writes it. -/
def quoted (s : String) : String := String.ofList (['"'] ++ s.toList.flatMap quotedChar ++ ['"'])

end AccessStatus.Text
