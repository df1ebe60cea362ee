import Stencil.Json.Basic
import Stencil.Numeric.Decimal
import Stencil.Text.Blank
import Stencil.Text.Pieces

/-!
# Paths

A path is a list of segments, written with points or brackets between them: `items[0].name` and
`items.0.name` are one path. Blanks around a segment do not count, and blank segments are dropped.
-/

namespace Stencil

structure Path where
  segments : List String
  deriving DecidableEq, Inhabited

namespace Path

def isSeparator (c : Char) : Bool := c == '.' || c == '[' || c == ']'

/-- The segments of a text: what stands between separators, trimmed, if anything is left of it. -/
def segmentsOf (cs : List Char) : List (List Char) :=
  ((Text.pieces isSeparator cs).map Text.trim).filter (· ≠ [])

def ofChars (cs : List Char) : Path := ⟨(segmentsOf cs).map String.ofList⟩

def ofText (text : String) : Path := ofChars text.toList

/-- The path with a point between segments. -/
def text (p : Path) : String := String.ofList (Text.join ['.'] (p.segments.map String.toList))

def isEmpty (p : Path) : Bool := p.segments.isEmpty

/-- The segments of two texts with a separator between them are those of the one and then those of
the other. -/
theorem segmentsOf_append_sep {d : Char} (h : isSeparator d = true) (a b : List Char) :
    segmentsOf (a ++ d :: b) = segmentsOf a ++ segmentsOf b := by
  simp [segmentsOf, Text.pieces_append_sep h]

/-- Without a separator there is one segment, or none if nothing but blanks is there. -/
theorem segmentsOf_of_no_sep {cs : List Char} (h : ∀ c ∈ cs, isSeparator c = false) :
    segmentsOf cs = if Text.trim cs = [] then [] else [Text.trim cs] := by
  by_cases hBlank : Text.trim cs = [] <;> simp [segmentsOf, Text.pieces_eq_singleton h, hBlank]

end Path

namespace Json

/-- One step of a path: a member of an object by its name, an item of an array by its index. -/
def child? : Json → String → Option Json
  | .object members, segment => members.lookup segment
  | .array items, segment => (Decimal.read64? segment.toList).bind (items[·]?)
  | _, _ => none

/-- The value at the end of some steps, if every step leads somewhere. -/
def walk? : Json → List String → Option Json
  | v, [] => some v
  | v, segment :: rest => (v.child? segment).bind (walk? · rest)

@[simp] theorem walk?_nil (v : Json) : v.walk? [] = some v := rfl

@[simp] theorem walk?_cons (v : Json) (segment : String) (rest : List String) :
    v.walk? (segment :: rest) = (v.child? segment).bind (walk? · rest) := rfl

theorem walk?_append (v : Json) (a b : List String) :
    v.walk? (a ++ b) = (v.walk? a).bind (walk? · b) := by
  induction a generalizing v with
  | nil => rfl
  | cons segment a ih => cases h : v.child? segment <;> simp [h, ih]

end Json
end Stencil
