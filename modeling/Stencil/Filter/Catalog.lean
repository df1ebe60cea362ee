/-!
# The catalog of filters

The filters are a closed list. `Filter.ofName?` finds one by a name as written in a template; every
filter is found by its own name, and one of them by a second name.
-/

namespace Stencil

inductive Filter where
  | default
  | size
  | truncate
  | escape
  | upcase
  | downcase
  | json
  | not
  | ifTrue
  | duration
  | first
  | last
  | join
  | append
  | prepend
  | date
  deriving DecidableEq, Inhabited

namespace Filter

/-- All filters, in the order in which they are listed to a user. -/
def all : List Filter :=
  [.default, .size, .truncate, .escape, .upcase, .downcase, .json, .not, .ifTrue, .duration,
    .first, .last, .join, .append, .prepend, .date]

def name : Filter → String
  | .default => "default"
  | .size => "size"
  | .truncate => "truncate"
  | .escape => "escape"
  | .upcase => "upcase"
  | .downcase => "downcase"
  | .json => "json"
  | .not => "not"
  | .ifTrue => "if_true"
  | .duration => "duration"
  | .first => "first"
  | .last => "last"
  | .join => "join"
  | .append => "append"
  | .prepend => "prepend"
  | .date => "date"

/-- The filter that a template means by a name. -/
def ofName? (name : String) : Option Filter :=
  if name = "negate" then some .not else all.find? (·.name == name)

def documentation : Filter → String
  | .default => "Returns the input if truthy, otherwise the argument (or null)."
  | .size => "Length of an array or string, key count of an object, otherwise 0."
  | .truncate => "Cuts a string to N characters and appends \"...\" when longer."
  | .escape => "HTML-escapes a string."
  | .upcase => "Converts a string to upper case."
  | .downcase => "Converts a string to lower case."
  | .json => "Serializes the input to compact JSON text."
  | .not => "Boolean negation of the input's truthiness (alias: negate)."
  | .ifTrue => "Returns the argument if the input is truthy, otherwise the input."
  | .duration => "Formats milliseconds as HH:MM:SS."
  | .first => "First element of an array, otherwise null."
  | .last => "Last element of an array, otherwise null."
  | .join => "Joins array elements with the argument (default \", \")."
  | .append => "Appends the argument to the stringified input."
  | .prepend => "Prepends the argument to the stringified input."
  | .date => "Formats an epoch number or date string with strftime tokens."

theorem mem_all (f : Filter) : f ∈ all := by cases f <;> decide

theorem ofName?_name (f : Filter) : ofName? f.name = some f := by cases f <;> decide

end Filter
end Stencil
