import Calculator.Decimal.Shortest

/-!
# The text of a double

A double is written as the shortest decimal that reads back as it. A number whose first digit
counts 10^-4 up to 10^15 is written positionally, always with a point and a digit on either side
of it: `0.0001`, `7.0`, `1234567.5`. Any other number has one digit before the point, no point if
there is no other digit, and an exponent with its sign and at least two digits: `1.5e-05`, `1e+16`.
-/

namespace Calculator

/-- The decimal digits of a number without the zeros at its end. -/
def Decimal.significantDigits (number : Nat) : List Char :=
  ((Nat.toDigits 10 number).reverse.dropWhile (· == '0')).reverse

/-- The exponent of a number in scientific notation, with its sign and at least two digits. -/
def Decimal.exponentText (exponent : Int) : List Char :=
  let digits := Nat.toDigits 10 exponent.natAbs
  (if exponent < 0 then '-' else '+') :: (if digits.length < 2 then '0' :: digits else digits)

/-- Digits written with the point after the given number of them; the number may be negative or
past the end, and zeros fill the gap. -/
def Decimal.positionalText (digits : List Char) (point : Int) : List Char :=
  if point ≤ 0 then '0' :: '.' :: List.replicate (-point).toNat '0' ++ digits
  else
    let whole := digits.take point.toNat ++ List.replicate (point.toNat - digits.length) '0'
    let fraction := digits.drop point.toNat
    whole ++ '.' :: (if fraction.isEmpty then ['0'] else fraction)

/-- Digits written with the point after the first of them and an exponent. -/
def Decimal.scientificText (digits : List Char) (exponent : Int) : List Char :=
  let fraction := digits.drop 1
  digits.take 1 ++ (if fraction.isEmpty then [] else '.' :: fraction) ++
    'e' :: Decimal.exponentText exponent

/-- The text of a positive decimal. -/
def Decimal.text (decimal : Decimal) : List Char :=
  let digits := Decimal.significantDigits decimal.digits
  let point := (Nat.toDigits 10 decimal.digits).length + decimal.exponent
  if -4 < point ∧ point ≤ 16 then Decimal.positionalText digits point
  else Decimal.scientificText digits (point - 1)

/-- The text of a magnitude. -/
def Magnitude.text (magnitude : Magnitude) : List Char :=
  if magnitude.index = 0 then ['0', '.', '0'] else magnitude.shortest.text

/-- The text of a double. -/
def Double.text : Double → String
  | nan => "nan"
  | infinite negative => if negative then "-inf" else "inf"
  | finite negative magnitude =>
    String.ofList (if negative then '-' :: magnitude.text else magnitude.text)

end Calculator
