import Stencil.Calendar.Instant
import Stencil.Calendar.Scan

/-!
# Dates without a zone

`2024-02-29`, `2024-02-29 12:30`, `2024-02-29T12:30:00.5`, all taken to be in UTC. The formats are
tried one after another. Fields need not have their full width, blanks may stand before a field, and
a year beyond four digits has a sign.
-/

namespace Stencil.Calendar.Plain

/-- The formats of a date with a time of day, in the order in which they are tried. -/
def clockFormats : List String :=
  ["%Y-%m-%dT%H:%M:%S", "%Y-%m-%d %H:%M:%S", "%Y-%m-%dT%H:%M:%S%.f", "%Y-%m-%d %H:%M:%S%.f",
    "%Y-%m-%dT%H:%M", "%Y-%m-%d %H:%M"]

/-- The format of a date alone, which is tried last. -/
def dateFormat : String := "%Y-%m-%d"

/-- What a format asks for, one after another. -/
inductive Item
  | char (c : Char)
  /-- Blanks, even none. -/
  | blanks
  | year
  | month
  | day
  | hour
  | minute
  | second
  /-- The fraction of a second, which may be absent. -/
  | fraction
  deriving DecidableEq

def itemsOf : List Char → List Item
  | '%' :: 'Y' :: rest => .year :: itemsOf rest
  | '%' :: 'm' :: rest => .month :: itemsOf rest
  | '%' :: 'd' :: rest => .day :: itemsOf rest
  | '%' :: 'H' :: rest => .hour :: itemsOf rest
  | '%' :: 'M' :: rest => .minute :: itemsOf rest
  | '%' :: 'S' :: rest => .second :: itemsOf rest
  | '%' :: '.' :: 'f' :: rest => .fraction :: itemsOf rest
  | ' ' :: rest => .blanks :: itemsOf rest
  | c :: rest => .char c :: itemsOf rest
  | [] => []

/-- A field of one or two digits with blanks before it. -/
def takeField : Step Nat := fun cs => takeNumber 1 (some 2) (Text.trimStart cs)

/-- A year of at most four digits, or of any number of digits after a sign. -/
def takeYear : Step Int := fun cs =>
  match Text.trimStart cs with
  | '-' :: rest => (takeNumber 1 none rest).map fun (n, rest) => (-(n : Int), rest)
  | '+' :: rest => (takeNumber 1 none rest).map fun (n, rest) => ((n : Int), rest)
  | rest => (takeNumber 1 (some 4) rest).map fun (n, rest) => ((n : Int), rest)

/-- What has been read. A time of day that no item asks for is midnight. -/
structure Fields where
  date : Civil := ⟨0, 0, 0⟩
  hour : Nat := 0
  minute : Nat := 0
  second : Nat := 0

def Item.take (f : Fields) : Item → Step Fields
  | .char c, cs => (takeChar c cs).map fun (_, rest) => (f, rest)
  | .blanks, cs => some (f, Text.trimStart cs)
  | .year, cs => (takeYear cs).map fun (n, rest) => ({ f with date.year := n }, rest)
  | .month, cs => (takeField cs).map fun (n, rest) => ({ f with date.month := n }, rest)
  | .day, cs => (takeField cs).map fun (n, rest) => ({ f with date.day := n }, rest)
  | .hour, cs => (takeField cs).map fun (n, rest) => ({ f with hour := n }, rest)
  | .minute, cs => (takeField cs).map fun (n, rest) => ({ f with minute := n }, rest)
  | .second, cs => (takeField cs).map fun (n, rest) => ({ f with second := n }, rest)
  | .fraction, cs => (takeFraction cs).map fun (_, rest) => (f, rest)

/-- The fields of a text that has the items one after another and nothing behind them. -/
def readItems? : Fields → List Item → List Char → Option Fields
  | f, [], cs => if cs = [] then some f else none
  | f, item :: items, cs => (item.take f cs).bind fun (g, rest) => readItems? g items rest

def Fields.instant? (f : Fields) : Option Instant :=
  Instant.ofLocal? f.date f.hour f.minute f.second 0

def readFormat? (cs : List Char) (format : String) : Option Instant :=
  (readItems? {} (itemsOf format.toList) cs).bind Fields.instant?

def read? (cs : List Char) : Option Instant :=
  (clockFormats.findSome? (readFormat? cs)).or (readFormat? cs dateFormat)

end Stencil.Calendar.Plain
