import Calculator.Decimal.Basic

/-!
# The shortest decimal of a magnitude

Of the decimals whose nearest magnitude is the given one, the shortest has the fewest digits, and
of several as short it is the one nearest to the magnitude. It is found on the coarsest grid of
powers of ten that holds such a decimal at all. There one of the two grid points next to the
magnitude reads back, because the decimals that read back have no gap.
-/

namespace Calculator.Magnitude

/-- The decimal reads back as the magnitude. -/
def isReadFrom (magnitude : Magnitude) (decimal : Decimal) : Bool :=
  decimal.nearestIndex == magnitude.index

/-- Of the two multiples of a power of ten next to a magnitude, the nearer one that reads back as
it. A tie goes to the even multiple. -/
def onGrid? (magnitude : Magnitude) (exponent : Int) : Option Decimal :=
  let numerator := magnitude.units * Nat.pow 10 (-exponent).toNat
  let denominator := unitsPerOne * Nat.pow 10 exponent.toNat
  let below := numerator / denominator
  let nearer := divideEven numerator denominator
  let farther := if nearer = below then below + 1 else below
  if magnitude.isReadFrom ⟨nearer, exponent⟩ then some ⟨nearer, exponent⟩
  else if magnitude.isReadFrom ⟨farther, exponent⟩ then some ⟨farther, exponent⟩
  else none

/-- The first decimal that reads back as the magnitude on the grids of 10^(place - 1074) and
below. The last grid, of 10^-1074, holds every magnitude exactly, since a unit is 2^-1074. -/
def shortestFrom (magnitude : Magnitude) : (place : Nat) → Decimal
  | 0 => ⟨magnitude.units * Nat.pow 5 1074, -1074⟩
  | place + 1 =>
    (magnitude.onGrid? ((place + 1 : Nat) - 1074)).getD (magnitude.shortestFrom place)

/-- The least power of ten that is sure to be greater than a magnitude: its logarithm to the base
two times 0.30103, which is the logarithm of two to the base ten. -/
def decimalTop (magnitude : Magnitude) : Int :=
  ((magnitude.units.log2 : Int) - 1073) * 30103 / 100000 + 1

/-- The shortest decimal that reads back as the magnitude, and of those the nearest. -/
def shortest (magnitude : Magnitude) : Decimal :=
  magnitude.shortestFrom (magnitude.decimalTop + 1074).toNat

end Calculator.Magnitude
