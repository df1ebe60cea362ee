import Stencil.Calendar.Instant
import Stencil.Calendar.Names

/-!
# Writing instants

A format is a text in which a percent sign and a letter stand for a part of an instant. A percent
sign with anything else behind it, or with nothing, stands for itself, and what is behind it is
never taken for the start of another part.

A format is first turned into a pattern, and the pattern is then written. In a pattern every percent
sign begins a specifier, and a specifier that is not known cannot be written at all. So the pattern
of a format doubles the percent signs that stand for themselves.
-/

namespace Stencil.Calendar

def digits (n : Nat) : List Char := Nat.toDigits 10 n

/-- A number with at least so many digits, filled up with zeros. -/
def padded (width n : Nat) : List Char :=
  List.replicate (width - (digits n).length) '0' ++ digits n

/-- Four digits at least; years outside 0 to 9999 carry a sign. -/
def yearChars (year : Int) : List Char :=
  if year < 0 then '-' :: padded 4 year.natAbs
  else if 9999 < year then '+' :: padded 4 year.natAbs
  else padded 4 year.natAbs

/-- The hour on a clock face. -/
def hour12 (hour : Nat) : Nat := if hour % 12 = 0 then 12 else hour % 12

/-- What a letter behind a percent sign stands for, if it stands for a part of an instant. -/
def fieldChars? (t : Instant) : Char → Option (List Char)
  | 'Y' => some (yearChars t.date.year)
  | 'm' => some (padded 2 t.date.month)
  | 'd' => some (padded 2 t.date.day)
  | 'H' => some (padded 2 t.hour)
  | 'I' => some (padded 2 (hour12 t.hour))
  | 'M' => some (padded 2 t.minute)
  | 'S' => some (padded 2 t.second)
  | 'p' => some (if t.hour < 12 then ['A', 'M'] else ['P', 'M'])
  | 'b' => some (abbreviated (monthName t.date.month))
  | 'B' => some (monthName t.date.month)
  | 'a' => some (abbreviated (weekdayName t.weekday))
  | 'A' => some (weekdayName t.weekday)
  | _ => none

/-- The letters that stand for a part of an instant. -/
def fieldLetters : List Char := ['Y', 'm', 'd', 'H', 'I', 'M', 'S', 'p', 'b', 'B', 'a', 'A']

/-- The pattern of a format. The zone is always the same, so its name is put there at once. -/
def patternOf : List Char → List Char
  | [] => []
  | '%' :: letter :: rest =>
    (if letter ∈ fieldLetters then ['%', letter]
      else if letter = 'Z' then ['U', 'T', 'C']
      else if letter = '%' then ['%', '%']
      else ['%', '%', letter]) ++ patternOf rest
  | ['%'] => ['%', '%']
  | c :: rest => c :: patternOf rest

/-- What a specifier is written as, given the letter behind its percent sign. -/
def specifierChars? (t : Instant) (letter : Char) : Option (List Char) :=
  if letter = '%' then some ['%'] else fieldChars? t letter

/-- The instant written in a pattern, `none` when it has an unknown specifier. -/
def writePattern? (t : Instant) : List Char → Option (List Char)
  | [] => some []
  | '%' :: letter :: rest =>
    (specifierChars? t letter).bind fun written => (writePattern? t rest).map (written ++ ·)
  | ['%'] => none
  | c :: rest => (writePattern? t rest).map (c :: ·)

/-- Date and time of day down to the second. -/
def defaultFormat : List Char := "%Y-%m-%d %H:%M:%S".toList

/-- The instant written in a format. The pattern of a format can always be written. -/
def Instant.format (t : Instant) (format : List Char) : List Char :=
  (writePattern? t (patternOf format)).getD []

end Stencil.Calendar
