/-!
# Logarithm and exponential in fixed point

Natural logarithms and exponentials of fixed-point numbers with 256 fractional bits. The series
are cut where their terms fall below the last bit, so a result is off by less than 2^-230. The
rounding of a double shows that only where the exact value all but meets a tie.
-/

namespace Calculator.FixedPoint

/-- The number one in fixed point. -/
def one : Nat := Nat.pow 2 256

/-- The given number of terms of `power / odd + power * square / (odd + 2) + …`. -/
def artanhTerms (square : Nat) : (terms odd power : Nat) → Nat
  | 0, _, _ => 0
  | terms + 1, odd, power =>
    power / odd + artanhTerms square terms (odd + 2) (power * square / one)

/-- The logarithm of `(1 + x) / (1 - x)` for `x` at most one third, as twice the series
`x + x^3 / 3 + x^5 / 5 + …`. -/
def logOfRatio (x : Nat) : Nat := 2 * artanhTerms (x * x / one) 90 1 x

/-- The logarithm of two. -/
def logTwo : Nat := logOfRatio (one / 3)

/-- The logarithm of `units / 2^scale` for a positive `units`. The number is a power of two times
a number from one up to two. -/
def log (units scale : Nat) : Int :=
  let top := units.log2
  let power := Nat.pow 2 top
  ((top : Int) - scale) * logTwo + logOfRatio ((units - power) * one / (units + power))

/-- The given number of terms of `term + term * x / k + term * x^2 / (k * (k + 1)) + …`. -/
def expTerms (x : Nat) : (terms k term : Nat) → Nat
  | 0, _, _ => 0
  | terms + 1, k, term => term + expTerms x terms (k + 1) (term * x / one / k)

/-- The exponential of `x` from zero up to one. -/
def exp (x : Nat) : Nat := expTerms x 70 1 one

end Calculator.FixedPoint
