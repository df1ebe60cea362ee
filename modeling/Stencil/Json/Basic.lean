import Stencil.Bindings
import Stencil.Numeric.Binary64

/-!
# JSON values

A number is an integer or a binary64 number and keeps which of the two it is. An object keeps the
order of its members. `Json.truthy` is the one notion of truth that conditions and filters share.
-/

namespace Stencil

/-- A number as it was written: whole, or with a point or an exponent. -/
inductive Number where
  | int (n : Int)
  | float (x : Binary64)
  deriving DecidableEq, Inhabited

def Number.toBinary64 : Number → Binary64
  | .int n => Binary64.ofInt n
  | .float x => x

inductive Json where
  | null
  | bool (b : Bool)
  | number (n : Number)
  | string (s : String)
  | array (items : List Json)
  | object (members : List (String × Json))
  deriving Inhabited

namespace Json

def ofNat (n : Nat) : Json := .number (.int n)

/-- False are `null`, `false`, zero, and the empty string, array and object. -/
def truthy : Json → Bool
  | .null => false
  | .bool b => b
  | .number n => !n.toBinary64.isZero
  | .string s => s ≠ ""
  | .array items => !items.isEmpty
  | .object members => !members.isEmpty

/-- The name of the kind of value, for messages. -/
def kind : Json → String
  | .null => "null"
  | .bool _ => "boolean"
  | .number _ => "number"
  | .string _ => "string"
  | .array _ => "array"
  | .object _ => "object"

end Json
end Stencil
