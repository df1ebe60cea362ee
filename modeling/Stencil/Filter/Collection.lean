import Stencil.Json.Printer

/-!
# Filters on collections
-/

namespace Stencil.Filter

/-- Items of an array, characters of a string, members of an object. -/
def sizeOf : Json → Nat
  | .array items => items.length
  | .string s => s.length
  | .object members => members.length
  | _ => 0

/-- The first item of an array. -/
def firstOf : Json → Json
  | .array items => items.head?.getD .null
  | _ => .null

/-- The last item of an array. -/
def lastOf : Json → Json
  | .array items => items.getLast?.getD .null
  | _ => .null

def defaultSeparator : String := ", "

/-- The displayed items of an array with a separator between them. -/
def joinWith (argument : Option String) : Json → Json
  | .array items =>
    .string (String.ofList (Text.join (argument.getD defaultSeparator).toList
      (items.map (·.display.toList))))
  | v => v

end Stencil.Filter
