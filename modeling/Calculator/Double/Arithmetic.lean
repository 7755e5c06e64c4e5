import Calculator.Double.Basic

/-!
# Arithmetic on doubles

Sum, difference, product and quotient are the exact result rounded once. Dividing a nonzero number
by zero gives an infinity; zero by zero, like every other operation without a numeric result,
gives what is not a number. No operation fails.
-/

namespace Calculator.Double

/-- The double nearest to a signed number of units that is not zero. -/
def ofSignedUnits (units : Int) : Double := ofQuotient (decide (units < 0)) units.natAbs 1

/-- The sum. An exact sum of zero is the negative zero only if both terms are negative. -/
def add : Double → Double → Double
  | nan, _ => nan
  | _, nan => nan
  | infinite left, infinite right => if left = right then infinite left else nan
  | infinite left, finite _ _ => infinite left
  | finite _ _, infinite right => infinite right
  | finite left m, finite right n =>
    let sum := signedUnits left m + signedUnits right n
    if sum = 0 then zero (left && right) else ofSignedUnits sum

/-- The difference: the sum with the opposite of the second number. -/
def sub (x y : Double) : Double := add x (neg y)

/-- The product. Zero times an infinity is not a number. -/
def mul : Double → Double → Double
  | nan, _ => nan
  | _, nan => nan
  | infinite left, infinite right => infinite (left != right)
  | infinite left, finite right n =>
    if n.index = 0 then nan else infinite (left != right)
  | finite left m, infinite right =>
    if m.index = 0 then nan else infinite (left != right)
  | finite left m, finite right n =>
    ofQuotient (left != right) (m.units * n.units) Magnitude.unitsPerOne

/-- The quotient. A number divided by an infinity is zero, and an infinity divided by an infinity
is not a number. -/
def div : Double → Double → Double
  | nan, _ => nan
  | _, nan => nan
  | infinite _, infinite _ => nan
  | infinite left, finite right _ => infinite (left != right)
  | finite left _, infinite right => zero (left != right)
  | finite left m, finite right n =>
    if n.index = 0 then
      if m.index = 0 then nan else infinite (left != right)
    else ofQuotient (left != right) (m.units * Magnitude.unitsPerOne) n.units

/-- The greater of two numbers. Of two zeros a positive one is the greater, and if either is not a
number, neither is the result. -/
def maximum (x y : Double) : Double :=
  if x.isNaN || y.isNaN then nan
  else if x.isZero && y.isZero then
    if x.isNegative then y else x
  else if y.less x then x else y

end Calculator.Double
