/-!
# Finite magnitudes

The absolute values of the finite doubles, listed in ascending order. A magnitude is its place in
that list, and its exact value is a natural number of *units*, one unit being the smallest
positive double, 2^-1074. All rounding in this library is the one function `nearestIndex`, which
finds the place of the magnitude nearest to a quotient of units.
-/

namespace Calculator

/-- The number of finite magnitudes: 2^52 of them for each of the 2047 exponents. -/
def magnitudeCount : Nat := 2047 * Nat.pow 2 52

/-- The absolute value of a finite double, given by its place among the finite magnitudes in
ascending order. -/
structure Magnitude where
  /-- The place of the magnitude; zero has place 0. -/
  index : Nat
  index_lt : index < magnitudeCount
deriving DecidableEq

namespace Magnitude

/-- The magnitude zero. -/
def zero : Magnitude := ⟨0, by decide⟩

/-- The magnitude one. -/
def one : Magnitude := ⟨1023 * Nat.pow 2 52, by decide⟩

/-- The number of units in the number one. -/
def unitsPerOne : Nat := Nat.pow 2 1074

/-- The exact value of the magnitude at a place, in units. The first 2^53 magnitudes are the
first 2^53 numbers of units; after that the spacing doubles every 2^52 places. -/
def unitsAt (index : Nat) : Nat :=
  if index < Nat.pow 2 52 then index
  else (Nat.pow 2 52 + index % Nat.pow 2 52) * Nat.pow 2 (index / Nat.pow 2 52 - 1)

/-- The exact value of a magnitude, in units. -/
def units (magnitude : Magnitude) : Nat := unitsAt magnitude.index

/-- The natural number nearest to a quotient; a half goes to the even neighbour. -/
def divideEven (numerator denominator : Nat) : Nat :=
  let below := numerator / denominator
  let rest := numerator % denominator
  if 2 * rest < denominator ∨ 2 * rest = denominator ∧ below % 2 = 0 then below else below + 1

/-- How many bits of a number of units do not fit into the 53 bits of a significand. -/
def excessBits (units : Nat) : Nat := units.log2 - 52

/-- The place of the magnitude nearest to a quotient of units; a half goes to the even place. The
significand is cut to 53 bits, and one that rounds up to 2^53 names the next exponent's first
place by itself. The place is not bounded: one at or past `magnitudeCount` means an overflow. -/
def nearestIndex (numerator denominator : Nat) : Nat :=
  let excess := excessBits (numerator / denominator)
  excess * Nat.pow 2 52 + divideEven numerator (denominator * Nat.pow 2 excess)

/-- The magnitude nearest to a quotient of units, or none where it overflows. -/
def nearest? (numerator denominator : Nat) : Option Magnitude :=
  let index := nearestIndex numerator denominator
  if index_lt : index < magnitudeCount then some ⟨index, index_lt⟩ else none

/-- The magnitude is a whole number. -/
def isWhole (magnitude : Magnitude) : Bool := magnitude.units % unitsPerOne == 0

/-- The magnitude is an odd whole number: divided by two it leaves exactly one. -/
def isOdd (magnitude : Magnitude) : Bool := magnitude.units % (2 * unitsPerOne) == unitsPerOne

end Magnitude

end Calculator
