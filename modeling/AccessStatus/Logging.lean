import AccessStatus.Text.Blank

/-!
# Setting up logging

A process installs a log subscriber at most once. Which one, and with which filter, follows from
settings that are texts; the set-up fails when the filter cannot be read, and then when a subscriber
is already there.

A filter is a list of directives between commas. A directive names a level, or a target with or
without a level, or a span in brackets, possibly with fields in braces, behind a target or not.
-/

namespace AccessStatus.Logging

/-- What kind of subscriber is wanted. -/
inductive Mode where
  | silent | development | debug | json
  deriving DecidableEq

/-- The mode that a setting names; without one, or with any other text, logging is silent. -/
def Mode.ofSetting : Option String → Mode
  | some "development" => .development
  | some "debug" => .debug
  | some "json" => .json
  | _ => .silent

/-- The filter of a mode when no setting gives one. -/
def Mode.defaultFilter : Mode → String
  | debug => "debug"
  | _ => "info"

/-! ## Filters -/

/-- The names of the levels. -/
def levelNames : List (List Char) :=
  [['o', 'f', 'f'], ['e', 'r', 'r', 'o', 'r'], ['w', 'a', 'r', 'n'], ['i', 'n', 'f', 'o'],
   ['d', 'e', 'b', 'u', 'g'], ['t', 'r', 'a', 'c', 'e']]

/-- A level: nothing, a name in letters of either case, or a number up to five. -/
def isLevel (cs : List Char) : Bool :=
  let digits := if cs.head? = some '+' then cs.tail else cs
  cs.isEmpty || levelNames.contains (cs.map Char.toLower) ||
    (!digits.isEmpty && digits.all Char.isDigit && Nat.ofDigitChars 10 digits 0 ≤ 5)

/-- Where a directive stands while it is read. -/
inductive Position where
  /-- In a level or the name of a target. -/
  | name
  /-- In the name of a span. -/
  | span
  /-- In a field, of which this much was read. -/
  | field (length : Nat)
  /-- Behind the fields of a span. -/
  | fields
  /-- Behind a span. -/
  | target
  /-- In a level, of which this was read, in reverse. -/
  | level (read : List Char)

/-- Whether a directive may begin with a character. -/
def startsName (c : Char) : Bool := c.isAlphanum || c = '-' || c = ':' || c = '_' || c.toNat ≥ 0x80

/-- Takes one character of a directive. -/
def Position.next : Position → Char → Option Position
  | .name, '=' => some (.level [])
  | .name, '[' => some .span
  | .name, _ => some .name
  | .span, ']' => some .target
  | .span, '\x7b' => some (.field 0)
  | .span, _ => some .span
  | .field n, '\x7d' => if n = 0 then none else some .fields
  | .field n, _ => some (.field (n + 1))
  | .fields, ']' => some .target
  | .fields, _ => none
  | .target, '=' => some (.level [])
  | .target, _ => none
  | .level read, c => some (.level (c :: read))

/-- Whether a directive may end at a position. -/
def Position.mayEnd : Position → Bool
  | .name => true
  | .target => true
  | .level read => isLevel read.reverse
  | .span => false
  | .field _ => false
  | .fields => false

/-- Whether the characters of a directive, blanks around it taken away, can be read. -/
def isDirective : List Char → Bool
  | [] => false
  | c :: rest =>
    let start := if c = '[' then some Position.span else if startsName c then some .name else none
    match start.bind fun p => rest.foldlM Position.next p with
    | some p => p.mayEnd
    | none => false

/-- Whether a filter can be read: each of its directives can, those of no characters left out. -/
def isFilter (s : String) : Bool :=
  ((s.toList.splitOn ',').filter fun part => !part.isEmpty).all fun part =>
    isDirective (Text.trimmed part)

/-! ## Set-up -/

/-- The settings of a process: the mode, the filter, and the filter that counts when there is
none. -/
structure Settings where
  mode : Option String
  filter : Option String
  fallbackFilter : Option String

/-- Why logging is not set up. -/
inductive LogError where
  | invalidFilter (filter : String)
  | alreadyInstalled
  deriving DecidableEq

/-- The filter for a mode. -/
def Settings.filterFor (s : Settings) (mode : Mode) : String :=
  (s.filter.or s.fallbackFilter).getD mode.defaultFilter

/-- Sets logging up in a mode; `installed` says whether a subscriber is there. -/
def setUp (s : Settings) (installed : Bool) (mode : Mode) : Except LogError Bool :=
  if mode = .silent then .ok installed
  else if !isFilter (s.filterFor mode) then .error (.invalidFilter (s.filterFor mode))
  else if installed then .error .alreadyInstalled
  else .ok true

/-- Sets logging up in the mode that the settings name. -/
def setUpFromSettings (s : Settings) (installed : Bool) : Except LogError Bool :=
  setUp s installed (.ofSetting s.mode)

end AccessStatus.Logging
