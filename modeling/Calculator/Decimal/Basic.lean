import Calculator.Double.Basic

/-!
# Decimals and the doubles nearest to them

A decimal is a natural number of some power of ten. The double nearest to it comes from its exact
value, in one rounding, however many digits it has.
-/

namespace Calculator

/-- The number `digits * 10 ^ exponent`. -/
structure Decimal where
  /-- The digits of the decimal as a natural number. -/
  digits : Nat
  /-- The power of ten that the last digit counts. -/
  exponent : Int
deriving DecidableEq

namespace Decimal

/-- The numerator of the decimal's exact value in units. -/
def numerator (decimal : Decimal) : Nat :=
  decimal.digits * Nat.pow 10 decimal.exponent.toNat * Magnitude.unitsPerOne

/-- The denominator of the decimal's exact value in units. -/
def denominator (decimal : Decimal) : Nat := Nat.pow 10 (-decimal.exponent).toNat

/-- The place of the magnitude nearest to the decimal. -/
def nearestIndex (decimal : Decimal) : Nat :=
  Magnitude.nearestIndex decimal.numerator decimal.denominator

/-- The magnitude nearest to the decimal, or none where it overflows. -/
def nearest? (decimal : Decimal) : Option Magnitude :=
  Magnitude.nearest? decimal.numerator decimal.denominator

/-- The magnitude nearest to the decimal times a power of ten. A power far beyond the doubles is
never computed: a decimal of at least 10^400 overflows, and one below 10^-399 is zero. -/
def nearestScaled? (decimal : Decimal) (power : Int) : Option Magnitude :=
  let exponent := decimal.exponent + power
  if decimal.digits = 0 then some .zero
  else if exponent > 400 then none
  else if exponent < -400 - (decimal.digits.log2 : Int) then some .zero
  else nearest? ⟨decimal.digits, exponent⟩

end Decimal

end Calculator
