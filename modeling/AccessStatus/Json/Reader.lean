import AccessStatus.Json.Token

/-!
# Reading JSON

A machine with a stack takes the tokens of a text one by one, so values nest to any depth. Its focus
says what may come next: in particular the first item of a list may be missing and a later one may
not, and nothing may follow the outermost value.
-/

namespace AccessStatus.Json

/-- A list or an object that is still open, with what it holds so far in reverse. -/
inductive Frame where
  /-- A list; one of its items is being read. -/
  | list (before : List Json)
  /-- An object; the value of the member with this name is being read. -/
  | object (before : List (Option String × Json)) (name : Option String)

/-- What may come next. -/
inductive Focus where
  /-- A value. -/
  | value
  /-- The first item of a list, or its end. -/
  | firstItem
  /-- The name of an object's first member, or the object's end. -/
  | firstName
  /-- The name of a further member, behind these. -/
  | name (before : List (Option String × Json))
  /-- The colon behind a member's name. -/
  | colon (before : List (Option String × Json)) (name : Option String)
  /-- Whatever may follow this complete value. -/
  | after (v : Json)

/-- The reader between two tokens. -/
structure Machine where
  stack : List Frame
  focus : Focus

namespace Machine

/-- Before the first token. -/
def start : Machine := ⟨[], .value⟩

/-- Begins a value with its first token. -/
def beginValue (stack : List Frame) : Token → Option Machine
  | .scalar v => some ⟨stack, .after v⟩
  | .openList => some ⟨.list [] :: stack, .firstItem⟩
  | .openObject => some ⟨stack, .firstName⟩
  | _ => none

/-- Takes one token. -/
def step (m : Machine) (t : Token) : Option Machine :=
  match m.focus, m.stack, t with
  | .value, stack, t => beginValue stack t
  | .firstItem, .list _ :: stack, .closeList => some ⟨stack, .after (.list [])⟩
  | .firstItem, stack, t => beginValue stack t
  | .firstName, stack, .closeObject => some ⟨stack, .after (.object [])⟩
  | .firstName, stack, .scalar (.text name) => some ⟨stack, .colon [] name⟩
  | .name before, stack, .scalar (.text name) => some ⟨stack, .colon before name⟩
  | .colon before name, stack, .colon => some ⟨.object before name :: stack, .value⟩
  | .after v, .list before :: stack, .comma => some ⟨.list (v :: before) :: stack, .value⟩
  | .after v, .list before :: stack, .closeList =>
    some ⟨stack, .after (.list (v :: before).reverse)⟩
  | .after v, .object before name :: stack, .comma => some ⟨stack, .name ((name, v) :: before)⟩
  | .after v, .object before name :: stack, .closeObject =>
    some ⟨stack, .after (.object ((name, v) :: before).reverse)⟩
  | _, _, _ => none

end Machine

/-- The four characters that may stand between tokens. -/
def isBlank (c : Char) : Bool := c = ' ' || c = '\n' || c = '\t' || c = '\r'

/-- What is left behind the blanks at the beginning of a text. -/
def skipBlanks (cs : List Char) : List Char := cs.dropWhile isBlank

theorem length_skipBlanks_le (cs : List Char) : (skipBlanks cs).length ≤ cs.length :=
  (List.dropWhile_suffix _).length_le

/-- Takes all tokens of a text. -/
def Machine.run (m : Machine) (cs : List Char) : Option Machine :=
  if (skipBlanks cs).isEmpty then some m
  else
    match _read : token? (skipBlanks cs) with
    | none => none
    | some (t, rest) =>
      match m.step t with
      | none => none
      | some next => next.run rest
termination_by cs.length
decreasing_by exact Nat.lt_of_lt_of_le (length_token? _read) (length_skipBlanks_le cs)

/-- The value that a text holds, with blanks around it and nothing else. -/
def read? (s : String) : Option Json := do
  match ← Machine.start.run s.toList with
  | ⟨[], .after v⟩ => some v
  | _ => none

end AccessStatus.Json
