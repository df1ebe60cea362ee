import Stencil.Json.Basic

/-!
# Filters on truth
-/

namespace Stencil.Filter

/-- The argument as a string, `null` without one. -/
def argumentValue (argument : Option String) : Json :=
  match argument with
  | some text => .string text
  | none => .null

/-- A true value, or else the argument. -/
def orElse (argument : Option String) (v : Json) : Json :=
  if v.truthy then v else argumentValue argument

/-- The argument for a true value; a false one stays as it is. -/
def whenTrue (argument : Option String) (v : Json) : Json :=
  if v.truthy then argumentValue argument else v

def negation (v : Json) : Json := .bool (!v.truthy)

end Stencil.Filter
