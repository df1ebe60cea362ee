import Stencil.Filter.Catalog
import Stencil.Path
import Stencil.Pipeline

/-!
# Placeholder expressions

The body of a placeholder is a path followed by filter calls. Reading never fails: a part without a
name is left out and remembered in `blanks`, and a name may be one that the catalog does not have.
-/

namespace Stencil

/-- One step of a filter chain. -/
structure FilterCall where
  name : String
  /-- What the catalog has under the name. -/
  filter? : Option Filter
  /-- A text that is never evaluated. -/
  argument : Option String
  deriving DecidableEq, Inhabited

/-- The call of a name, which is looked up in the catalog once and for all. -/
def FilterCall.new (name : String) (argument : Option String) : FilterCall :=
  ⟨name, Filter.ofName? name, argument⟩

structure Expression where
  path : Path
  calls : List FilterCall
  /-- The body without the blanks around it. -/
  source : String
  /-- Where the parts start that have no filter name. -/
  blanks : List Nat
  deriving DecidableEq, Inhabited

/-- The call that a part stands for, if the part has a name. -/
def Pipeline.Part.call? (p : Pipeline.Part) : Option FilterCall :=
  if p.name = [] then none
  else some (.new (String.ofList p.name) (p.argument?.map String.ofList))

namespace Expression

def ofChars (body : List Char) : Expression :=
  let parts := Pipeline.Part.scan body
  { path := Path.ofChars ((parts.head?.map (·.chars)).getD [])
    calls := parts.tail.filterMap (·.call?)
    source := String.ofList (Text.trim body)
    blanks := (parts.tail.filter (·.name = [])).map (·.start) }

def ofText (body : String) : Expression := ofChars body.toList

/-- The names in the chain that the catalog does not have. -/
def unknownNames (e : Expression) : List String :=
  (e.calls.filter (·.filter?.isNone)).map (·.name)

end Expression
end Stencil
