import Stencil.Json.Basic
import Stencil.Json.Rest
import Stencil.Numeric.Decimal

/-!
# Reading JSON numbers

An integer that fits 64 bits is kept as it is. Every other number has a significand of 64 bits, made
of as many leading digits as fit, and a power of ten; its value is the significand, rounded to
binary64, multiplied or divided by that power in one rounded operation. This is not always the
nearest number to the decimal, and it is the value that the format gives.
-/

namespace Stencil.Json

open Decimal

/-- Continues a significand with digits as long as 64 bits hold it. Answers the significand and how
many of the digits it took. -/
def extend : Nat → List Char → Nat × Nat
  | n, [] => (n, 0)
  | n, c :: cs =>
    let next := 10 * n + digitValue c
    if next ≤ max64 then
      let (whole, taken) := extend next cs
      (whole, taken + 1)
    else (n, 0)

/-- Divides by `10 ^ e`, by `10 ^ 308` at a time while the power of ten has no binary64 value. -/
def divideByPower (x : Binary64) (e : Nat) : Binary64 :=
  if e ≤ 308 then (x.div? (.ofNat (Nat.pow 10 e))).getD x
  else if x.isZero then x
  else divideByPower ((x.div? (.ofNat (Nat.pow 10 308))).getD x) (e - 308)
  termination_by e
  decreasing_by omega

/-- The significand times a power of ten; `none` when that is past the largest number. -/
def scale? (significand : Nat) (exponent : Int) : Option Binary64 :=
  let x := Binary64.ofNat significand
  if exponent < 0 then some (divideByPower x exponent.natAbs)
  else if exponent ≤ 308 then x.mul? (.ofNat (Nat.pow 10 exponent.natAbs))
  else if x.isZero then some x
  else none

def signed (negative : Bool) (x : Binary64) : Binary64 := if negative then x.neg else x

/-- The value of a numeral without point and exponent whose digits all fit. Negative zero and what
is below 64 bits are no integers. -/
def wholeNumber (negative : Bool) (n : Nat) : Number :=
  if !negative then .int n
  else if n = 0 ∨ Nat.pow 2 63 < n then .float (Binary64.ofNat n).neg
  else .int (-n)

/-- The largest exponent that is taken at its word. -/
def maxExponent : Nat := Nat.pow 2 31 - 1

/-- How many of the digits come after the one that carries the value past `maxExponent`, if there is
such a digit. -/
def digitsPastMax? : Nat → List Char → Option Nat
  | _, [] => none
  | n, c :: cs =>
    let next := 10 * n + digitValue c
    if maxExponent < next then some cs.length else digitsPastMax? next cs

/-- An exponent as written. -/
structure Exponent where
  negative : Bool
  digits : List Char

/-- The digits after a point, `none` when there is no point. -/
def readFraction (cs : List Char) : Except Fault (Option (List Char) × Tail cs) :=
  match cs with
  | '.' :: rest =>
    if rest.takeWhile isDigit ≠ [] then
      .ok (some (rest.takeWhile isDigit),
        ⟨rest.dropWhile isDigit, Nat.le_succ_of_le (length_dropWhile_le isDigit rest)⟩)
    else if rest = [] then .error (.ahead .eofValue rest)
    else .error (.ahead .invalidNumber rest)
  | cs => .ok (none, .whole cs)

/-- The digits of an exponent, of which there is at least one. -/
def readExponentDigits (cs : List Char) : Except Fault (List Char × Tail cs) :=
  match cs with
  | [] => .error (.behind .eofValue [])
  | c :: rest =>
    if isDigit c then
      .ok (c :: rest.takeWhile isDigit,
        ⟨rest.dropWhile isDigit, Nat.le_succ_of_le (length_dropWhile_le isDigit rest)⟩)
    else .error (.ahead .invalidNumber (c :: rest))

/-- The exponent, `none` when there is no `e`. -/
def readExponent (cs : List Char) : Except Fault (Option Exponent × Tail cs) :=
  match cs with
  | c :: rest =>
    if c = 'e' ∨ c = 'E' then
      match rest with
      | '+' :: digits =>
        (readExponentDigits digits).map fun (ds, ⟨tail, h⟩) =>
          (some ⟨false, ds⟩, ⟨tail, Nat.le_succ_of_le (Nat.le_succ_of_le h)⟩)
      | '-' :: digits =>
        (readExponentDigits digits).map fun (ds, ⟨tail, h⟩) =>
          (some ⟨true, ds⟩, ⟨tail, Nat.le_succ_of_le (Nat.le_succ_of_le h)⟩)
      | digits =>
        (readExponentDigits digits).map fun (ds, ⟨tail, h⟩) =>
          (some ⟨false, ds⟩, ⟨tail, Nat.le_succ_of_le h⟩)
    else .ok (none, .whole (c :: rest))
  | [] => .ok (none, .whole [])

/-- The value of a numeral given by its parts, where `rest` follows it. -/
def numeralValue (negative : Bool) (whole : List Char) (fraction : Option (List Char))
    (exponent : Option Exponent) (rest : List Char) : Except Fault Number :=
  let (start, taken) := extend 0 whole
  let dropped := whole.length - taken
  if fraction.isNone ∧ exponent.isNone ∧ dropped = 0 then .ok (wholeNumber negative start)
  else
    let (significand, used) := extend start (fraction.getD [])
    let base : Int := dropped - used
    let scaled (e : Int) : Except Fault Number :=
      match scale? significand e with
      | some x => .ok (.float (signed negative x))
      | none => .error (.behind .numberOutOfRange rest)
    match exponent with
    | none => scaled base
    | some e =>
      match digitsPastMax? 0 e.digits with
      | some behind =>
        if significand ≠ 0 ∧ !e.negative then
          .error ⟨.numberOutOfRange, behind + Text.byteLength rest⟩
        else .ok (.float (.zero negative))
      | none => scaled (if e.negative then base - value e.digits else base + value e.digits)

/-- A number after its sign: digits with no needless zero in front, a fraction and an exponent where
there is one. -/
def readNumber (negative : Bool) : Reader Number
  | [] => .error (.behind .eofValue [])
  | c :: cs =>
    if isDigit c then
      if c = '0' ∧ cs.takeWhile isDigit ≠ [] then .error (.ahead .invalidNumber cs)
      else do
        let (fraction, ⟨afterFraction, h⟩) ← readFraction (cs.dropWhile isDigit)
        let (exponent, ⟨rest, h'⟩) ← readExponent afterFraction
        let n ← numeralValue negative (c :: cs.takeWhile isDigit) fraction exponent rest
        have hCs := length_dropWhile_le isDigit cs
        .ok (n, ⟨rest, Nat.lt_succ_of_le (Nat.le_trans h' (Nat.le_trans h hCs))⟩)
    else .error (.ahead .invalidNumber (c :: cs))

end Stencil.Json
