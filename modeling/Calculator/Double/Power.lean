import Calculator.Double.Basic
import Calculator.Double.FixedPoint

/-!
# Powers of doubles

The power of two doubles is the exact power rounded once, with a rule for every special operand:
the power zero of anything is one, one to any power but an infinite one is one, a unit base with an
infinite exponent has no numeric result, and neither has a negative base with a fractional exponent.

A power of magnitudes that a double or a tie between two doubles can equal is computed exactly:
such a power has a base that is a perfect root of the needed order, and either that root is a
power of two or the power is small. Every other power goes through the logarithm in fixed point.
-/

namespace Calculator

namespace Magnitude

/-- A positive number as an odd number times a power of two. -/
structure OddForm where
  /-- The odd factor. -/
  odd : Nat
  /-- The exponent of the power of two. -/
  twos : Int

/-- The odd form of a positive magnitude. The power of two in a number of units is its greatest
common divisor with a power of two that is large enough. -/
def oddForm (magnitude : Magnitude) : OddForm :=
  let low := Nat.gcd magnitude.units (Nat.pow 2 magnitude.units.log2)
  ⟨magnitude.units / low, (low.log2 : Int) - 1074⟩

/-- The greatest number that adds the given number of lower bits to `root` and whose square is at
most `n`. -/
def squareRootBits (n : Nat) : (bits root : Nat) → Nat
  | 0, root => root
  | bits + 1, root =>
    let next := root + Nat.pow 2 bits
    squareRootBits n bits (if next * next ≤ n then next else root)

/-- The square root, rounded down, of a number below 2^54. -/
def squareRoot (n : Nat) : Nat := squareRootBits n 27 0

/-- The square root taken the given number of times, if every root is exact. -/
def exactRoot? : (times : Nat) → OddForm → Option OddForm
  | 0, form => some form
  | times + 1, form =>
    let root := squareRoot form.odd
    if root * root = form.odd ∧ form.twos % 2 = 0 then exactRoot? times ⟨root, form.twos / 2⟩
    else none

/-- The magnitude nearest to `numerator / denominator * 2^twos`, or none where it overflows. The
quotient lies between 2^-70000 and 2^70000, so that a power of two beyond 2^80000 decides alone. -/
def nearestScaled? (numerator denominator : Nat) (twos : Int) : Option Magnitude :=
  if twos > 80000 then none
  else if twos < -80000 then some zero
  else
    let shift := twos + 1074
    nearest? (numerator * Nat.pow 2 shift.toNat) (denominator * Nat.pow 2 (-shift).toNat)

/-- The power of a positive magnitude through its logarithm: `base ^ exponent`, or one divided by
it. -/
def powerByLogarithm (base exponent : Magnitude) (reciprocal : Bool) : Option Magnitude :=
  let scaled := FixedPoint.log base.units 1074 * exponent.units
  let logarithm := (if reciprocal then -scaled else scaled) / (unitsPerOne : Int)
  nearestScaled? (FixedPoint.exp (logarithm % FixedPoint.logTwo).toNat) FixedPoint.one
    (logarithm / FixedPoint.logTwo)

/-- The power `base ^ exponent` of positive magnitudes, or one divided by it, rounded to the
nearest magnitude; none where it overflows. An odd factor of three or more taken to a power above
64 has too many bits to be a double or a tie. -/
def power (base exponent : Magnitude) (reciprocal : Bool) : Option Magnitude :=
  let form := exponent.oddForm
  match exactRoot? (-form.twos).toNat base.oddForm with
  | none => powerByLogarithm base exponent reciprocal
  | some root =>
    let times := form.odd * Nat.pow 2 form.twos.toNat
    let twos := root.twos * times
    if root.odd = 1 then nearestScaled? 1 1 (if reciprocal then -twos else twos)
    else if times > 64 then powerByLogarithm base exponent reciprocal
    else if reciprocal then nearestScaled? 1 (Nat.pow root.odd times) (-twos)
    else nearestScaled? (Nat.pow root.odd times) 1 twos

end Magnitude

namespace Double

/-- The power of a base and an infinite exponent, which depends on the size of the base alone: the
limit where there is one, and a unit base has none. -/
def infinitePower (base : Double) (negative : Bool) : Double :=
  let size := if base.isNegative then base.neg else base
  if size = one then nan
  else if one.less size then
    if negative then zero false else infinite false
  else
    if negative then infinite false else zero false

/-- The power of two doubles. A result that would be too large for a double is an infinity; its
sign, like that of every result, is negative only for a negative base and an odd exponent. -/
def power (base exponent : Double) : Double :=
  if exponent.isZero then one
  else
    match base, exponent with
    | nan, _ => nan
    | base, nan => if base = one then one else nan
    | base, infinite negative => infinitePower base negative
    | infinite negative, finite reciprocal n =>
      if reciprocal then zero (negative && n.isOdd) else infinite (negative && n.isOdd)
    | finite negative m, finite reciprocal n =>
      if m.index = 0 then
        if reciprocal then infinite (negative && n.isOdd) else zero (negative && n.isOdd)
      else if negative && !n.isWhole then nan
      else ofMagnitude? (negative && n.isOdd) (m.power n reciprocal)

end Double

end Calculator
