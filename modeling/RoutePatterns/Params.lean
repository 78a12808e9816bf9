/-!
The values of parameters. `Params` maps names to values. Main statement: `get?_insert`, a value that
was set is found under its name and every other name keeps its value.
-/

set_option autoImplicit false

namespace RoutePatterns

/-- The value of a parameter. -/
inductive ParamValue
  /-- One value. -/
  | single (value : String)
  /-- The values of a repeating parameter. -/
  | list (values : List String)
  deriving DecidableEq, Repr

namespace ParamValue

/-- The value, if it is a single one. -/
def single? : ParamValue → Option String
  | single value => some value
  | list _ => none

/-- The values, if they are those of a repeating parameter. -/
def list? : ParamValue → Option (List String)
  | single _ => none
  | list values => some values

end ParamValue

/-- Values by parameter name; a name occurs once. -/
abbrev Params := List (String × ParamValue)

namespace Params

/-- The value of a name. -/
def get? (params : Params) (name : String) : Option ParamValue :=
  (params.find? fun entry => entry.1 == name).map (·.2)

/-- Sets the value of a name, in place of any that it had. -/
def insert (name : String) (value : ParamValue) : Params → Params
  | [] => [(name, value)]
  | entry :: params =>
    if entry.1 = name then (name, value) :: params else entry :: insert name value params

/-- Values by name from a list in which a name may occur again; the last value counts. -/
def ofList (entries : List (String × ParamValue)) : Params :=
  entries.foldl (fun params entry => params.insert entry.1 entry.2) []

@[simp]
theorem get?_nil (name : String) : get? [] name = none :=
  rfl

theorem get?_cons (entry : String × ParamValue) (params : Params) (name : String) :
    get? (entry :: params) name = if entry.1 = name then some entry.2 else get? params name := by
  unfold get?
  rw [List.find?_cons]
  by_cases h : entry.1 = name
  · simp [h]
  · have hbeq : (entry.1 == name) = false := beq_eq_false_iff_ne.mpr h
    simp [h, hbeq]

/-- What is set is found under its name, and nothing else changes. -/
theorem get?_insert (params : Params) (name other : String) (value : ParamValue) :
    (params.insert name value).get? other =
      if name = other then some value else params.get? other := by
  induction params with
  | nil => simp [insert, get?_cons]
  | cons entry params ih =>
    unfold insert
    by_cases hname : entry.1 = name
    · simp only [hname, if_true, get?_cons]
      by_cases hother : name = other <;> simp [hother]
    · simp only [hname, if_false, get?_cons, ih]
      by_cases hentry : entry.1 = other
      · have hne : name ≠ other := fun heq => hname (hentry.trans heq.symm)
        simp [hentry, hne]
      · simp [hentry]

end Params

end RoutePatterns
