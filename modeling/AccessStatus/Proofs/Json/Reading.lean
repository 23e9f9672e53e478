import AccessStatus.Json.Reader
import AccessStatus.Proofs.Json.Token

/-!
# JSON values read back

The reader takes the tokens of a text one by one. Where it awaits a value, the compact form of one
leads it to where that value is complete, whatever is still open and whatever follows
(`run_compactChars`); so the compact text of a value is read as that value (`read?_compact`),
whatever it holds and however deep it is.
-/

namespace AccessStatus.Json

namespace Machine

/-! ## One token -/

/-- A text that begins with a token begins with no blank. -/
theorem skipBlanks_of_token? {cs rest : List Char} {t : Token} (read : token? cs = some (t, rest)) :
    skipBlanks cs = cs ∧ cs ≠ [] := by
  cases cs with
  | nil =>
    simp [token?, numeral?, unsigned?, magnitude?] at read
  | cons c tail =>
    refine ⟨?_, List.cons_ne_nil c tail⟩
    have notBlank : isBlank c = false := by
      rw [Bool.eq_false_iff]
      intro blank
      have one : c = ' ' ∨ c = '\n' ∨ c = '\t' ∨ c = '\r' := by
        simpa [isBlank, or_assoc] using blank
      rcases one with rfl | rfl | rfl | rfl <;>
        simp [token?, numeral?, unsigned?, magnitude?] at read
    exact List.dropWhile_cons_of_neg (by simp [notBlank])

/-- A token at the beginning of a text is taken, and the run goes on behind it. -/
theorem run_of_token? {m next : Machine} {cs rest : List Char} {t : Token}
    (read : token? cs = some (t, rest)) (step : m.step t = some next) :
    m.run cs = next.run rest := by
  obtain ⟨same, notEmpty⟩ := skipBlanks_of_token? read
  have goesOn : ¬ (skipBlanks cs).isEmpty = true := by simp [same, notEmpty]
  rw [run, if_neg goesOn]
  split
  · rename_i nothing
    rw [same] at nothing
    cases nothing.symm.trans read
  · rename_i found
    rw [same, read] at found
    obtain ⟨rfl, rfl⟩ := Prod.mk.inj (Option.some.inj found)
    rw [step]

/-! ## Values -/

/-- The machine goes on with a value as if it awaited one with this stack. -/
def Awaits (m : Machine) (stack : List Frame) : Prop :=
  ∀ t next, beginValue stack t = some next → m.step t = some next

theorem awaits_value (stack : List Frame) : Awaits ⟨stack, .value⟩ stack := fun _ _ begins => begins

/-- The first item of a list is awaited like any value. -/
theorem awaits_firstItem (stack : List Frame) (before : List Json) :
    Awaits ⟨.list before :: stack, .firstItem⟩ (.list before :: stack) := by
  intro t next begins
  cases t with
  | closeList => cases begins
  | _ => exact begins

/-- Behind an item of a list no number goes on. -/
theorem endsNumber_laterItemChars (items : List Json) (rest : List Char) :
    EndsNumber (laterItemChars items ++ rest) := by
  cases items <;> simp [laterItemChars, EndsNumber]

/-- Nor does one behind a member of an object. -/
theorem endsNumber_laterMemberChars (members : List (Option String × Json)) (rest : List Char) :
    EndsNumber (laterMemberChars members ++ rest) := by
  rcases members with _ | ⟨⟨name, v⟩, members⟩ <;> simp [laterMemberChars, EndsNumber]

section Scalar

variable {m : Machine} {stack : List Frame} {cs rest : List Char}

/-- A scalar that is awaited is read, and the machine is behind it. -/
theorem Awaits.run_scalar (awaits : m.Awaits stack) {v : Json}
    (read : token? cs = some (.scalar v, rest)) :
    m.run cs = run ⟨stack, .after v⟩ rest :=
  run_of_token? read (awaits _ _ rfl)

/-- Where a name is expected, a name and a colon lead to where the value of that member is
awaited. -/
theorem run_name {before : List (Option String × Json)} (name : Option String)
    (named : m.step (.scalar (.text name)) = some ⟨stack, .colon before name⟩) :
    m.run (literal name ++ ':' :: rest) = run ⟨.object before name :: stack, .value⟩ rest :=
  (run_of_token? (token?_literal name _) named).trans (run_of_token? (t := .colon) rfl rfl)

end Scalar

/-!
The recursion is that of the compact form, with one statement for each of its parts. The stack says
what is open, and what was read of the innermost list or object stands in it in reverse; so the
statements on later items and members hold of any such beginning.
-/

mutual

/-- Where a value is awaited, its compact form is read as it. -/
theorem Awaits.run_compactChars {m : Machine} {stack : List Frame} (awaits : m.Awaits stack)
    (v : Json) {rest : List Char} (ends : EndsNumber rest) :
    m.run (compactChars v ++ rest) = run ⟨stack, .after v⟩ rest := by
  cases v with
  | null => exact awaits.run_scalar rfl
  | bool b => cases b <;> exact awaits.run_scalar rfl
  | number n =>
    -- a number is the only value whose end is told by what follows
    exact awaits.run_scalar (token?_of_numeral (numeral?_numeralChars ends n))
  | text s => exact awaits.run_scalar (token?_literal s rest)
  | list items =>
    have begins : m.step .openList = some ⟨.list [] :: stack, .firstItem⟩ := awaits _ _ rfl
    exact (run_of_token? rfl begins).trans (run_itemChars stack items rest)
  | object members =>
    have begins : m.step .openObject = some ⟨stack, .firstName⟩ := awaits _ _ rfl
    exact (run_of_token? rfl begins).trans (run_memberChars stack members rest)

/-- The items of a list are read one by one. -/
theorem run_itemChars (stack : List Frame) (items : List Json) (rest : List Char) :
    run ⟨.list [] :: stack, .firstItem⟩ (itemChars items ++ rest) =
      run ⟨stack, .after (.list items)⟩ rest := by
  cases items with
  | nil => exact run_of_token? (t := .closeList) rfl rfl
  | cons v items =>
    rw [itemChars, List.append_assoc,
      (awaits_firstItem stack []).run_compactChars v (endsNumber_laterItemChars items rest)]
    exact run_laterItemChars stack [] v items rest

/-- Behind some items the rest of a list is read. -/
theorem run_laterItemChars (stack : List Frame) (before : List Json) (v : Json)
    (items : List Json) (rest : List Char) :
    run ⟨.list before :: stack, .after v⟩ (laterItemChars items ++ rest) =
      run ⟨stack, .after (.list ((v :: before).reverse ++ items))⟩ rest := by
  cases items with
  | nil =>
    rw [List.append_nil]
    exact run_of_token? (t := .closeList) rfl rfl
  | cons next items =>
    have comma : run ⟨.list before :: stack, .after v⟩ (laterItemChars (next :: items) ++ rest) =
        run ⟨.list (v :: before) :: stack, .value⟩
          (compactChars next ++ laterItemChars items ++ rest) :=
      run_of_token? (t := .comma) rfl rfl
    rw [comma, List.append_assoc,
      (awaits_value _).run_compactChars next (endsNumber_laterItemChars items rest),
      run_laterItemChars stack (v :: before) next items rest]
    simp

/-- The members of an object are read one by one. -/
theorem run_memberChars (stack : List Frame) (members : List (Option String × Json))
    (rest : List Char) :
    run ⟨stack, .firstName⟩ (memberChars members ++ rest) =
      run ⟨stack, .after (.object members)⟩ rest := by
  rcases members with _ | ⟨⟨name, v⟩, members⟩
  · exact run_of_token? (t := .closeObject) rfl rfl
  · rw [memberChars, List.append_assoc, List.cons_append, run_name name rfl, List.append_assoc,
      (awaits_value _).run_compactChars v (endsNumber_laterMemberChars members rest)]
    exact run_laterMemberChars stack [] name v members rest

/-- Behind some members the rest of an object is read. -/
theorem run_laterMemberChars (stack : List Frame) (before : List (Option String × Json))
    (name : Option String) (v : Json) (members : List (Option String × Json)) (rest : List Char) :
    run ⟨.object before name :: stack, .after v⟩ (laterMemberChars members ++ rest) =
      run ⟨stack, .after (.object (((name, v) :: before).reverse ++ members))⟩ rest := by
  rcases members with _ | ⟨⟨other, next⟩, members⟩
  · rw [List.append_nil]
    exact run_of_token? (t := .closeObject) rfl rfl
  · have comma : run ⟨.object before name :: stack, .after v⟩
      (laterMemberChars ((other, next) :: members) ++ rest) =
        run ⟨stack, .name ((name, v) :: before)⟩
          (literal other ++ ':' :: (compactChars next ++ laterMemberChars members) ++ rest) :=
      run_of_token? (t := .comma) rfl rfl
    rw [comma, List.append_assoc, List.cons_append, run_name other rfl, List.append_assoc,
      (awaits_value _).run_compactChars next (endsNumber_laterMemberChars members rest),
      run_laterMemberChars stack ((name, v) :: before) other next members rest]
    simp

end

end Machine

/-- The compact text of a value is read as that value. -/
theorem read?_compact (v : Json) : read? v.compact = some v := by
  have atEnd : EndsNumber [] := trivial
  have whole := (Machine.awaits_value []).run_compactChars v atEnd
  rw [List.append_nil] at whole
  have ended : Machine.run ⟨[], .after v⟩ [] = some ⟨[], .after v⟩ := by
    rw [Machine.run]
    rfl
  have taken : Machine.start.run v.compact.toList = some ⟨[], .after v⟩ := by
    rw [compact, String.toList_ofList]
    exact whole.trans ended
  rw [read?, taken]
  rfl

end AccessStatus.Json
