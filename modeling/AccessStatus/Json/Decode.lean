import AccessStatus.Json.Value
import AccessStatus.Named

/-!
# Values in JSON

How the simple values are written in JSON and read from it. A named alternative is its name, or an
object whose only member has that name and holds null. A record is an object, in which members with
other names are ignored, or a list of its fields in order, whose last fields may be left out.
-/

namespace AccessStatus.Json

/-- An integer. -/
def ofInt (i : Int) : Json := .number (.ofInt i)

/-- An integer between two limits, both included. -/
def toInt? (least greatest : Int) : Json → Option Int
  | .number n => do
    let i ← n.toInt?
    if least ≤ i ∧ i ≤ greatest then some i else none
  | _ => none

/-- A truth value. -/
def toBool? : Json → Option Bool
  | .bool b => some b
  | _ => none

/-- A named alternative, written as its name. -/
def ofNamed {α : Type} [Named α] (a : α) : Json := .text (some (Named.name a))

/-- A named alternative. -/
def toNamed? {α : Type} [Named α] : Json → Option α
  | .text (some s) => Named.ofName? s
  | .object [(some s, .null)] => Named.ofName? s
  | _ => none

/-- Null for nothing. -/
def ofOption {α : Type} (encode : α → Json) : Option α → Json
  | none => .null
  | some a => encode a

/-- Null, or a value. -/
def toOption? {α : Type} (decode : Json → Option α) : Json → Option (Option α)
  | .null => some none
  | v => some <$> decode v

/-- A list of values. -/
def toList? {α : Type} (decode : Json → Option α) : Json → Option (List α)
  | .list items => items.mapM decode
  | _ => none

/-- The value of the first member with a name. -/
def member? (members : List (Option String × Json)) (name : String) : Option Json :=
  (members.find? fun m => m.1 = some name).map Prod.snd

/-- The fields of a record with these names, in their order, each `none` where it is left out. Every
member's name must be a text, and none of the names may occur twice. -/
def fields? (names : List String) : Json → Option (List (Option Json))
  | .list items =>
    if items.length ≤ names.length then
      some (items.map some ++ List.replicate (names.length - items.length) none)
    else none
  | .object members =>
    if (members.all fun m => m.1.isSome) ∧
      (names.all fun name => members.countP (·.1 = some name) ≤ 1) then
      some (names.map (member? members))
    else none
  | _ => none

/-- A field that must be there. -/
def required {α : Type} (decode : Json → Option α) (field : Option Json) : Option α :=
  field.bind decode

/-- A field that may be left out. -/
def optional {α : Type} (decode : Json → Option α) (absent : α) : Option Json → Option α
  | none => some absent
  | some v => decode v

/-- A record with named fields. -/
def ofFields (fields : List (String × Json)) : Json :=
  .object (fields.map fun (name, v) => (some name, v))

end AccessStatus.Json
