import Stencil.Calendar.Names
import Stencil.Numeric.Decimal
import Stencil.Text.Blank

/-!
# Steps of reading a date

Each step takes something off the front of a text, or fails.
-/

namespace Stencil.Calendar

/-- A step of reading: what was read and what is left. -/
abbrev Step (α : Type) := List Char → Option (α × List Char)

/-- The largest number that is read. -/
def maxNumber : Nat := Nat.pow 2 63 - 1

/-- A row of at least `least` digits; of a longer row the first `most` are taken. -/
def takeNumber (least : Nat) (most : Option Nat) : Step Nat := fun cs =>
  let row := cs.takeWhile Decimal.isDigit
  let taken := (most.map row.take).getD row
  if least ≤ taken.length ∧ Decimal.value taken ≤ maxNumber then
    some (Decimal.value taken, cs.drop taken.length)
  else none

/-- A given character. -/
def takeChar (c : Char) : Step Unit
  | [] => none
  | d :: rest => if d = c then some ((), rest) else none

/-- One blank or more. -/
def takeBlanks : Step Unit := fun cs =>
  let rest := Text.trimStart cs
  if rest.length < cs.length then some ((), rest) else none

/-- A point and the digits of a fraction. The fraction of a second is read and dropped. -/
def takeFraction : Step Unit
  | '.' :: cs => (takeNumber 1 (some 9) cs).map fun (_, rest) => ((), rest.dropWhile Decimal.isDigit)
  | cs => some ((), cs)

/-- Three letters that abbreviate one of the names; answers the place of that name. -/
def takeAbbreviation (names : List String) : Step Nat := fun cs =>
  if cs.length < 3 then none
  else (indexOfAbbreviation? names (cs.take 3)).map fun i => (i, cs.drop 3)

/-- Two digits of hours, as many of minutes, and what stands between them, in seconds. -/
def takeHoursMinutes (between : Step Unit) : Step Nat := fun cs => do
  let (hours, cs) ← takeNumber 2 (some 2) cs
  let (_, cs) ← between cs
  let (minutes, cs) ← takeNumber 2 (some 2) cs
  if minutes ≤ 59 then some (hours * 3600 + minutes * 60, cs) else none

/-- A sign and a distance from UTC, in seconds; local time is ahead after a plus sign. `minus` are
the characters that count as a minus sign. -/
def takeOffset (minus : List Char) (between : Step Unit) : Step Int
  | [] => none
  | sign :: cs =>
    if sign = '+' then (takeHoursMinutes between cs).map fun (n, rest) => ((n : Int), rest)
    else if sign ∈ minus then
      (takeHoursMinutes between cs).map fun (n, rest) => (-(n : Int), rest)
    else none

end Stencil.Calendar
