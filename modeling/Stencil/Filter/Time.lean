import Stencil.Calendar.Format
import Stencil.Calendar.Plain
import Stencil.Calendar.Rfc2822
import Stencil.Calendar.Rfc3339
import Stencil.Json.Basic

/-!
# Filters on time

`duration` writes milliseconds as hours, minutes and seconds. `date` writes an instant, which may be
given as a number since the epoch or as a text in one of several forms. Numbers are binary64 numbers
here, whatever they were before. What cannot be read stays as it is.
-/

namespace Stencil.Filter

open Calendar

/-- Hours, minutes and seconds; the hours are not limited. -/
def clockChars (seconds : Nat) : List Char :=
  padded 2 (seconds / 3600) ++ ':' :: padded 2 (seconds % 3600 / 60) ++
    ':' :: padded 2 (seconds % 60)

/-- Two to the power of 64. -/
def durationLimit : Binary64 := Binary64.ofNat (Nat.pow 2 64)

def thousand : Binary64 := Binary64.ofNat 1000

/-- The whole seconds in a number of milliseconds between zero and `durationLimit`. -/
def wholeSeconds? (millis : Binary64) : Option Nat :=
  if (Binary64.zero false).le millis && millis.le durationLimit then
    (millis.div? thousand).map (·.truncate.toNat)
  else none

def durationOf : Json → Json
  | .number n =>
    match wholeSeconds? n.toBinary64 with
    | some seconds => .string (String.ofList (clockChars seconds))
    | none => .number n
  | v => v

/-- From this magnitude on a number counts milliseconds since the epoch, below it seconds. -/
def millisThreshold : Binary64 := Binary64.ofNat 10000000000

/-- The whole number nearest to an integer among those of 64 bits with a sign. -/
def clamp64 (n : Int) : Int := max Int64.minValue.toInt (min n Int64.maxValue.toInt)

def instantOfNumber? (x : Binary64) : Option Instant :=
  let millis := if millisThreshold.magnitude ≤ x.magnitude then some x else x.mul? thousand
  millis.bind fun m => Instant.ofMillis? (clamp64 m.truncate)

/-- The instant that a text means: a number, or one of the forms of a date. A text that is a number
is never taken for a date. -/
def instantOfChars? (cs : List Char) : Option Instant :=
  match Decimal.readReal? cs with
  | some x => x.bind instantOfNumber?
  | none => (Rfc3339.read? cs).or ((Rfc2822.read? cs).or (Plain.read? cs))

def instantOf? : Json → Option Instant
  | .number n => instantOfNumber? n.toBinary64
  | .string s => instantOfChars? (Text.trim s.toList)
  | _ => none

def dateOf (argument : Option String) (v : Json) : Json :=
  match instantOf? v with
  | some t => .string (String.ofList (t.format ((argument.map String.toList).getD defaultFormat)))
  | none => v

end Stencil.Filter
