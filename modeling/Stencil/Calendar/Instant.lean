import Stencil.Calendar.Civil

/-!
# Instants

An instant is a second of the civil calendar in UTC. A leap second shares its count of seconds with
the second before it and shows as second 60. The calendar runs from the year -262143 to the year
262142; no instant lies outside it.
-/

namespace Stencil.Calendar

structure Instant where
  /-- Seconds since 1970-01-01T00:00:00. -/
  seconds : Int
  leap : Bool
  deriving DecidableEq, Inhabited

def firstDay : Int := Civil.days ⟨-262143, 1, 1⟩

def lastDay : Int := Civil.days ⟨262142, 12, 31⟩

def inCalendar (days : Int) : Bool := firstDay ≤ days && days ≤ lastDay

namespace Instant

/-- The instant so many seconds after the epoch. -/
def ofSeconds? (seconds : Int) : Option Instant :=
  if inCalendar (seconds / 86400) then some ⟨seconds, false⟩ else none

/-- The instant so many milliseconds after the epoch, rounded down to the second. -/
def ofMillis? (millis : Int) : Option Instant := ofSeconds? (millis / 1000)

/-- The instant of a local date and time of day; `offset` is by how many seconds local time is
ahead of UTC. Second 60 is a leap second. -/
def ofLocal? (date : Civil) (hour minute second : Nat) (offset : Int) : Option Instant :=
  if date.exists? ∧ inCalendar date.days ∧ hour ≤ 23 ∧ minute ≤ 59 ∧ second ≤ 60 ∧
      offset.natAbs < 86400 then
    let clock : Int := hour * 3600 + minute * 60 + min second 59
    let seconds := date.days * 86400 + clock - offset
    if inCalendar (seconds / 86400) then some ⟨seconds, second = 60⟩ else none
  else none

def days (t : Instant) : Int := t.seconds / 86400

def date (t : Instant) : Civil := Civil.ofDays t.days

/-- Seconds since midnight. -/
def clock (t : Instant) : Nat := (t.seconds % 86400).toNat

def hour (t : Instant) : Nat := t.clock / 3600

def minute (t : Instant) : Nat := t.clock / 60 % 60

def second (t : Instant) : Nat := t.clock % 60 + if t.leap then 1 else 0

def weekday (t : Instant) : Nat := Civil.weekday t.days

end Instant
end Stencil.Calendar
