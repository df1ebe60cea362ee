import Stencil.Filter.Catalog
import Stencil.Filter.Collection
import Stencil.Filter.Logic
import Stencil.Filter.Text
import Stencil.Filter.Time

/-!
# Applying a filter

Every filter is a function of a value and of an argument that may be absent.
-/

namespace Stencil.Filter

def apply (f : Filter) (argument : Option String) (v : Json) : Json :=
  match f with
  | .default => orElse argument v
  | .size => .ofNat (sizeOf v)
  | .truncate => truncateTo argument v
  | .escape => onString escapeChars v
  | .upcase => onString Text.upper v
  | .downcase => onString Text.lower v
  | .json => .string v.compact
  | .not => negation v
  | .ifTrue => whenTrue argument v
  | .duration => durationOf v
  | .first => firstOf v
  | .last => lastOf v
  | .join => joinWith argument v
  | .append => appendTo argument v
  | .prepend => prependTo argument v
  | .date => dateOf argument v

end Stencil.Filter
