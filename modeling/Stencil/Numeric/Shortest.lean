import Stencil.Numeric.Binary64

/-!
# The shortest decimal that reads back

`Binary64.shortest` is the decimal with the fewest digits among those that round to the given
number, and of several with that many digits the nearest. `Binary64.text` writes it: positional
from `0.00001` up to sixteen digits before the point, always with a point, and with an exponent
outside that range.
-/

namespace Stencil.Binary64

/-- The number of decimal digits of a natural number. -/
def decimalLength (n : Nat) : Nat := (Nat.toDigits 10 n).length

/-- The factors `(a, b)` for which `d * 10 ^ k` and `m` units compare as `d * a` and `m * b`. -/
def gridFactors (k : Int) : Nat × Nat := (Nat.pow 10 k.toNat * unit, Nat.pow 10 (-k).toNat)

/-- The exponent of the first decimal digit: the largest `p` with `10 ^ p ≤ x`, for `x` not zero.
Scaled by `10 ^ 340` every number has a whole part, whose length tells. -/
def leadingExponent (x : Binary64) : Int :=
  (decimalLength (x.magnitude * Nat.pow 10 340 / unit) : Int) - 341

/-- Four times the ends of the interval of reals that round to `x`, in units. Below a power of two
the numbers lie twice as dense, so there the lower end is half as far away. -/
def roundingInterval (x : Binary64) : Nat × Nat :=
  let gap := Nat.pow 2 x.shift
  let below := if x.significand = Nat.pow 2 52 ∧ x.shift ≠ 0 then gap else 2 * gap
  (4 * x.magnitude - below, 4 * x.magnitude + 2 * gap)

/-- Whether `d * 10 ^ k` rounds to `x`. The ends of the interval do so when `x` is even. -/
def roundsTo (x : Binary64) (d : Nat) (k : Int) : Bool :=
  let (a, b) := gridFactors k
  let (low, high) := x.roundingInterval
  let point := 4 * d * a
  if x.significand % 2 = 0 then low * b ≤ point && point ≤ high * b
  else low * b < point && point < high * b

/-- The point of the grid `10 ^ k` that rounds to `x`, the nearer of two, the even one of two that
are equally near. Only the two neighbours of `x` on the grid can do so first. -/
def gridPoint? (x : Binary64) (k : Int) : Option Nat :=
  let (a, b) := gridFactors k
  let d := x.magnitude * b / a
  let twice := 2 * (x.magnitude * b)
  let middle := (2 * d + 1) * a
  match x.roundsTo d k, x.roundsTo (d + 1) k with
  | true, true =>
    if twice < middle then some d
    else if middle < twice then some (d + 1)
    else if d % 2 = 0 then some d else some (d + 1)
  | true, false => some d
  | false, true => some (d + 1)
  | false, false => none

/-- The digits of the shortest decimal and the exponent of the last of them; `x` is not zero.
Seventeen digits always suffice. -/
def shortest (x : Binary64) : Nat × Int :=
  let lead := x.leadingExponent
  let hit := (List.range 17).findSome? fun (n : Nat) =>
    (x.gridPoint? (lead - n)).map fun d => (d, lead - n)
  hit.getD (0, 0)

/-- The digits without the zeros at the end. -/
def significantDigits (d : Nat) : List Char :=
  ((Nat.toDigits 10 d).reverse.dropWhile (· == '0')).reverse

/-- Lays out digits whose first one stands at `10 ^ lead`. -/
def layout (digits : List Char) (lead : Int) : List Char :=
  if -5 ≤ lead ∧ lead < 0 then
    ['0', '.'] ++ List.replicate (-lead - 1).toNat '0' ++ digits
  else if 0 ≤ lead ∧ lead ≤ 15 then
    let whole := digits.take (lead.toNat + 1)
    let fraction := digits.drop (lead.toNat + 1)
    whole ++ List.replicate (lead.toNat + 1 - whole.length) '0' ++
      '.' :: (if fraction = [] then ['0'] else fraction)
  else
    let fraction := digits.drop 1
    digits.take 1 ++ (if fraction = [] then [] else '.' :: fraction) ++
      'e' :: (if lead < 0 then '-' else '+') :: Nat.toDigits 10 lead.natAbs

/-- The shortest decimal text that reads back as the number. -/
def text (x : Binary64) : List Char :=
  let sign := if x.negative then ['-'] else []
  if x.isZero then sign ++ ['0', '.', '0']
  else
    let (d, k) := x.shortest
    sign ++ layout (significantDigits d) (k + decimalLength d - 1)

end Stencil.Binary64
