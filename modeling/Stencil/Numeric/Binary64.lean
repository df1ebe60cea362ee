/-!
# Finite binary64 numbers

A finite number of the binary64 format is `± significand * 2 ^ shift / 2 ^ 1074`, so every value is
a whole number of units of `2 ^ -1074`, the smallest step of the format. All arithmetic is exact
arithmetic on natural numbers followed by one rounding, `round`, to the nearest number, ties to the
even significand. Infinity is not a value: `round` answers `none` past the largest number.
-/

namespace Stencil

/-- A finite number of the binary64 format, in its one normal form. -/
structure Binary64 where
  negative : Bool
  significand : Nat
  shift : Nat
  significand_lt : significand < Nat.pow 2 53
  normal : Nat.pow 2 52 ≤ significand ∨ shift = 0
  shift_le : shift ≤ 2045
  deriving DecidableEq

namespace Binary64

/-- One, counted in the smallest step of the format. -/
def unit : Nat := Nat.pow 2 1074

/-- The absolute value, counted in units of `2 ^ -1074`. -/
def magnitude (x : Binary64) : Nat := x.significand * Nat.pow 2 x.shift

/-- The signed value, counted in units of `2 ^ -1074`. -/
def scaled (x : Binary64) : Int := if x.negative then -(x.magnitude : Int) else x.magnitude

def zero (negative : Bool) : Binary64 := ⟨negative, 0, 0, by decide, .inr rfl, by decide⟩

instance : Inhabited Binary64 := ⟨zero false⟩

/-- The parts as a number, if they are in normal form. -/
def ofParts? (negative : Bool) (significand shift : Nat) : Option Binary64 :=
  if h : significand < Nat.pow 2 53 ∧ (Nat.pow 2 52 ≤ significand ∨ shift = 0) ∧ shift ≤ 2045 then
    some ⟨negative, significand, shift, h.1, h.2.1, h.2.2⟩
  else none

/-- The whole number nearest to `num / den`; a tie goes to the even one. -/
def nearestEven (num den : Nat) : Nat :=
  let q := num / den
  let r := num % den
  if 2 * r < den then q
  else if den < 2 * r then q + 1
  else if q % 2 = 0 then q else q + 1

/-- The number nearest to `num / den` units; `none` when that lies past the largest one.

The shift is the least one for which the quotient takes at most 53 bits; rounding may carry it to
`2 ^ 53`, which is then halved. -/
def round (negative : Bool) (num den : Nat) : Option Binary64 :=
  let shift := (num / den).log2 - 52
  let significand := nearestEven num (den * Nat.pow 2 shift)
  if significand = Nat.pow 2 53 then ofParts? negative (Nat.pow 2 52) (shift + 1)
  else ofParts? negative significand shift

/-- The number nearest to an integer. Zero stands in past the largest number, which is beyond
every integer that is read or counted here. -/
def ofInt (n : Int) : Binary64 := (round (n < 0) (n.natAbs * unit) 1).getD (zero false)

def ofNat (n : Nat) : Binary64 := ofInt n

def neg (x : Binary64) : Binary64 := { x with negative := !x.negative }

/-- The nearest number to the product. -/
def mul? (x y : Binary64) : Option Binary64 :=
  round (x.negative != y.negative) (x.magnitude * y.magnitude) unit

/-- The nearest number to the quotient. The divisor is not zero where this is used; a quotient by
zero counts as zero. -/
def div? (x y : Binary64) : Option Binary64 :=
  round (x.negative != y.negative) (x.magnitude * unit) y.magnitude

def isZero (x : Binary64) : Bool := x.significand == 0

def le (x y : Binary64) : Bool := x.scaled ≤ y.scaled

/-- The integer part: the fraction is dropped, whatever the sign. -/
def truncate (x : Binary64) : Int :=
  let whole : Int := (x.magnitude / unit : Nat)
  if x.negative then -whole else whole

@[simp] theorem magnitude_zero (b : Bool) : (zero b).magnitude = 0 := by simp [zero, magnitude]

end Binary64
end Stencil
