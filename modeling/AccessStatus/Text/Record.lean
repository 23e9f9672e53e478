import AccessStatus.Text.Quoted

/-!
# Inspection texts

The one-line text of a value for a human reader: a record is its name and its fields in braces, a
wrapped value its name and the value in parentheses, an optional value `None` or `Some`, a list its
items in brackets.
-/

namespace AccessStatus.Text

/-- `true` or `false`. -/
def bool (b : Bool) : String := if b then "true" else "false"

/-- A record with at least one field: its name, then each field's name and text, in order. -/
def record (name : String) (fields : List (String × String)) : String :=
  name ++ " \x7b " ++ ", ".intercalate (fields.map fun (field, text) => field ++ ": " ++ text) ++
    " \x7d"

/-- A value wrapped by a named constructor. -/
def wrapped (name text : String) : String := name ++ "(" ++ text ++ ")"

/-- An optional value, its text already made. -/
def optional : Option String → String
  | none => "None"
  | some text => wrapped "Some" text

/-- A list, the texts of its items already made. -/
def list (items : List String) : String := "[" ++ ", ".intercalate items ++ "]"

end AccessStatus.Text
