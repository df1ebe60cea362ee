import Stencil.Json.Printer
import Stencil.Numeric.Decimal
import Stencil.Text.Blank
import Stencil.Text.Case

/-!
# Filters on text

The filters that work on strings leave every other value as it is; `append` and `prepend` work on
the displayed text of any value.
-/

namespace Stencil.Filter

/-- Applies a function to the characters of a string and leaves every other value alone. -/
def onString (f : List Char → List Char) : Json → Json
  | .string s => .string (String.ofList (f s.toList))
  | v => v

def ellipsis : List Char := ['.', '.', '.']

/-- The first characters and three points, when there are more of them. -/
def cutTo (limit : Nat) (cs : List Char) : List Char :=
  if cs.length ≤ limit then cs else cs.take limit ++ ellipsis

/-- Cuts a string to a number of characters; an argument that is no number changes nothing. -/
def truncateTo (argument : Option String) (v : Json) : Json :=
  match argument.bind fun a => Decimal.read64? (Text.trim a.toList) with
  | some limit => onString (cutTo limit) v
  | none => v

/-- The entity for a character that has a meaning in HTML, any other character itself. -/
def entity : Char → List Char
  | '&' => ['&', 'a', 'm', 'p', ';']
  | '<' => ['&', 'l', 't', ';']
  | '>' => ['&', 'g', 't', ';']
  | '"' => ['&', 'q', 'u', 'o', 't', ';']
  | '\x27' => ['&', '#', '3', '9', ';']
  | c => [c]

def escapeChars (cs : List Char) : List Char := cs.flatMap entity

theorem escapeChars_append (a b : List Char) :
    escapeChars (a ++ b) = escapeChars a ++ escapeChars b := by simp [escapeChars]

def appendTo (argument : Option String) (v : Json) : Json :=
  .string (v.display ++ argument.getD "")

def prependTo (argument : Option String) (v : Json) : Json :=
  .string (argument.getD "" ++ v.display)

end Stencil.Filter
