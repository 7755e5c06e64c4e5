import Calculator.Double.Magnitude

/-!
# Double-precision numbers

A double is not a number, an infinity of either sign, or a finite number: a sign and a magnitude.
There is one value that is not a number, since nothing that this library computes or prints can
tell two of them apart. Zero keeps its sign.
-/

namespace Calculator

/-- A double-precision floating-point number. -/
inductive Double where
  /-- The result of an operation that has no numeric result. -/
  | nan
  /-- An infinity; the flag tells whether it is the negative one. -/
  | infinite (negative : Bool)
  /-- A finite number; the flag tells whether its sign is negative, for zero too. -/
  | finite (negative : Bool) (magnitude : Magnitude)
deriving DecidableEq

namespace Double

/-- A zero of the given sign. -/
def zero (negative : Bool) : Double := finite negative .zero

/-- The number one. -/
def one : Double := finite false .one

/-- The number is not a number. -/
def isNaN : Double → Bool
  | nan => true
  | _ => false

/-- The number is a zero of either sign. -/
def isZero : Double → Bool
  | finite _ magnitude => magnitude.index == 0
  | _ => false

/-- The sign of the number is negative. What is not a number has no sign and counts as not
negative. -/
def isNegative : Double → Bool
  | nan => false
  | infinite negative => negative
  | finite negative _ => negative

/-- The number is a finite odd whole number. -/
def isOddInteger : Double → Bool
  | finite _ magnitude => magnitude.isOdd
  | _ => false

/-- The number with the opposite sign. -/
def neg : Double → Double
  | nan => nan
  | infinite negative => infinite !negative
  | finite negative magnitude => finite (!negative) magnitude

instance : Neg Double := ⟨neg⟩

/-- A finite number of the given sign, or the infinity of that sign where there is no magnitude
because it would be too large. -/
def ofMagnitude? (negative : Bool) : Option Magnitude → Double
  | none => infinite negative
  | some magnitude => finite negative magnitude

/-- The double of the given sign nearest to a quotient of units. -/
def ofQuotient (negative : Bool) (numerator denominator : Nat) : Double :=
  ofMagnitude? negative (Magnitude.nearest? numerator denominator)

/-- The exact value of a finite number as a signed number of units. -/
def signedUnits (negative : Bool) (magnitude : Magnitude) : Int :=
  if negative then -(magnitude.units : Int) else magnitude.units

/-- The first number is less than the second. The two zeros are equal, and what is not a number
is neither less nor greater than anything. -/
def less : Double → Double → Bool
  | nan, _ => false
  | _, nan => false
  | infinite left, infinite right => left && !right
  | infinite left, finite _ _ => left
  | finite _ _, infinite right => !right
  | finite left m, finite right n => decide (signedUnits left m < signedUnits right n)

/-- The two numbers are equal as numbers. The two zeros are equal, and what is not a number is
equal to nothing, itself included. -/
def equal : Double → Double → Bool
  | infinite left, infinite right => left == right
  | finite left m, finite right n => decide (signedUnits left m = signedUnits right n)
  | _, _ => false

end Double

end Calculator
