import Stencil.Numeric.Binary64

/-!
# Reading numbers written in decimal

`Decimal.read64?` reads a bounded natural number, `Decimal.readReal?` a number with fraction and
exponent, correctly rounded. Both take the whole text or nothing.
-/

namespace Stencil.Decimal

def isDigit (c : Char) : Bool := '0' ≤ c && c ≤ '9'

def digitValue (c : Char) : Nat := c.toNat - '0'.toNat

/-- The value of a row of digits, continuing from `start`. -/
def valueFrom (start : Nat) (digits : List Char) : Nat :=
  digits.foldl (fun n c => 10 * n + digitValue c) start

def value (digits : List Char) : Nat := valueFrom 0 digits

@[simp] theorem valueFrom_nil (start : Nat) : valueFrom start [] = start := rfl

@[simp] theorem valueFrom_cons (start : Nat) (c : Char) (cs : List Char) :
    valueFrom start (c :: cs) = valueFrom (10 * start + digitValue c) cs := by
  simp only [valueFrom, List.foldl_cons]

theorem valueFrom_append (start : Nat) (a b : List Char) :
    valueFrom start (a ++ b) = valueFrom (valueFrom start a) b := by simp [valueFrom]

/-- The largest number of 64 bits. -/
def max64 : Nat := Nat.pow 2 64 - 1

/-- A natural number of 64 bits: one or more digits, after a plus sign or nothing. -/
def read64? (cs : List Char) : Option Nat :=
  let digits := match cs with
    | '+' :: rest => rest
    | _ => cs
  if digits ≠ [] ∧ digits.all isDigit ∧ value digits ≤ max64 then some (value digits) else none

/-- The number nearest to `digits * 10 ^ exponent`, `none` past the largest one.

The two early answers only keep the powers of ten small: with `n` digits after the leading zeros
the value lies between `10 ^ (n - 1 + exponent)` and `10 ^ (n + exponent)`. -/
def nearest? (negative : Bool) (digits : List Char) (exponent : Int) : Option Binary64 :=
  let digits := digits.dropWhile (· == '0')
  let top := digits.length + exponent
  if digits = [] ∨ top < -330 then some (.zero negative)
  else if 320 < top then none
  else
    Binary64.round negative (value digits * Nat.pow 10 exponent.toNat * Binary64.unit)
      (Nat.pow 10 (-exponent).toNat)

/-- An exponent: `e`, a sign or nothing, one or more digits. No text at all counts as zero. -/
def readExponent? : List Char → Option Int
  | [] => some 0
  | c :: rest =>
    if c = 'e' ∨ c = 'E' then
      let (negative, digits) := match rest with
        | '-' :: digits => (true, digits)
        | '+' :: digits => (false, digits)
        | _ => (false, rest)
      if digits ≠ [] ∧ digits.all isDigit then
        some (if negative then -(value digits : Int) else value digits)
      else none
    else none

/-- The names, in lower case, of what is written like a number and has no finite value. -/
def nonFiniteNames : List String := ["inf", "infinity", "nan"]

/-- A number written in decimal: a sign or nothing, digits with at most one point among or around
them, an exponent or nothing. `none` is a text that is no number, `some none` one whose value is
not finite. -/
def readReal? (cs : List Char) : Option (Option Binary64) :=
  let (negative, body) := match cs with
    | '-' :: rest => (true, rest)
    | '+' :: rest => (false, rest)
    | _ => (false, cs)
  let whole := body.takeWhile isDigit
  let (fraction, rest) := match body.dropWhile isDigit with
    | '.' :: tail => (tail.takeWhile isDigit, tail.dropWhile isDigit)
    | tail => ([], tail)
  if whole = [] ∧ fraction = [] then
    if nonFiniteNames.contains (String.ofList (body.map Char.toLower)) then some none else none
  else
    (readExponent? rest).map fun exponent =>
      nearest? negative (whole ++ fraction) (exponent - fraction.length)

end Stencil.Decimal
