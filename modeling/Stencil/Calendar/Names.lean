/-!
# Names of months and weekdays

The English names, and the three letters that stand for them.
-/

namespace Stencil.Calendar

/-- The months from January. -/
def monthNames : List String :=
  ["January", "February", "March", "April", "May", "June", "July", "August", "September",
    "October", "November", "December"]

/-- The weekdays from Sunday. -/
def weekdayNames : List String :=
  ["Sunday", "Monday", "Tuesday", "Wednesday", "Thursday", "Friday", "Saturday"]

/-- The name of a month, counted from one. -/
def monthName (month : Nat) : List Char := ((monthNames[month - 1]?).getD "").toList

/-- The name of a weekday, Sunday being zero. -/
def weekdayName (weekday : Nat) : List Char := ((weekdayNames[weekday]?).getD "").toList

def abbreviated (name : List Char) : List Char := name.take 3

/-- The place in a list of the name that a text abbreviates, in capital or small letters. -/
def indexOfAbbreviation? (names : List String) (cs : List Char) : Option Nat :=
  names.findIdx? fun name =>
    (abbreviated name.toList).map Char.toLower == cs.map Char.toLower

end Stencil.Calendar
