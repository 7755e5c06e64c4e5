import Calculator.Proofs.Guards
import Calculator.Proofs.Rounding
import Mathlib.Algebra.Ring.Int.Parity

/-!
# Exact values of doubles

A finite double is exactly one rational number. Whether the double is a whole number, whether it is
an odd one and whether it is less than zero is asked of its units and its sign, and the main
statements are that the answers are those for the rational number.
-/

namespace Calculator

namespace Magnitude

/-- A magnitude is a natural number exactly if it has the units of as many ones. -/
theorem value_eq_natCast_iff (magnitude : Magnitude) (number : Nat) :
    magnitude.value = number ↔ magnitude.units = number * unitsPerOne := by
  have scale : (unitsPerOne : ℚ) ≠ 0 := Nat.cast_ne_zero.mpr (Nat.ne_of_gt unitsPerOne_pos)
  rw [value, valueAt, ratio, Nat.cast_one, div_one, div_eq_iff scale, ← Nat.cast_mul,
    Nat.cast_inj]
  rfl

/-- No magnitude is less than zero. -/
theorem value_nonneg (magnitude : Magnitude) : 0 ≤ magnitude.value := by
  have scale : (0 : ℚ) ≤ unitsPerOne := Nat.cast_nonneg _
  rw [value, valueAt, ratio, Nat.cast_one, div_one]
  exact div_nonneg (Nat.cast_nonneg _) scale

/-- Every magnitude but zero is greater than zero. -/
theorem value_pos_iff (magnitude : Magnitude) : 0 < magnitude.value ↔ magnitude.index ≠ 0 := by
  have noUnits := magnitude.value_eq_natCast_iff 0
  rw [Nat.cast_zero, Nat.zero_mul, units_eq_zero_iff] at noUnits
  rw [magnitude.value_nonneg.lt_iff_ne', ne_eq, noUnits]

/-- A magnitude is whole exactly if its value is a natural number. -/
theorem isWhole_iff (magnitude : Magnitude) :
    magnitude.isWhole = true ↔ ∃ number : Nat, magnitude.value = number := by
  simp only [isWhole, beq_iff_eq, value_eq_natCast_iff, ← Nat.dvd_iff_mod_eq_zero]
  constructor
  · rintro ⟨number, units⟩
    exact ⟨number, by rw [units, Nat.mul_comm]⟩
  · rintro ⟨number, units⟩
    exact ⟨number, by rw [units, Nat.mul_comm]⟩

/-- A magnitude that is a natural number is odd exactly if the natural number is. -/
theorem isOdd_iff_of_value {magnitude : Magnitude} {number : Nat}
    (isNumber : magnitude.value = number) : magnitude.isOdd = true ↔ Odd number := by
  have units := (magnitude.value_eq_natCast_iff number).mp isNumber
  rw [isOdd, beq_iff_eq, mod_two_mul_eq_iff _ unitsPerOne_pos, units, Nat.mul_mod_left,
    Nat.mul_div_cancel _ unitsPerOne_pos, Nat.odd_iff]
  simp only [true_and]

end Magnitude

namespace Double

/-- The exact value of a finite number. -/
def value? : Double → Option ℚ
  | finite negative magnitude => some (if negative then -magnitude.value else magnitude.value)
  | _ => none

/-- A double has a value exactly if it is finite. -/
theorem exists_value?_iff (x : Double) : (∃ value, x.value? = some value) ↔ x.isFinite = true := by
  cases x with
  | finite negative magnitude => exact ⟨fun _ => rfl, fun _ => ⟨_, rfl⟩⟩
  | _ => simp [value?, isFinite]

/-- An infinity has no value. -/
theorem isInfinite_of_value? {x : Double} {value : ℚ} (hasValue : x.value? = some value) :
    x.isInfinite = false := by
  cases x with
  | infinite negative => cases hasValue
  | _ => rfl

/-- A number with a whole value has the magnitude of that value without its sign. -/
theorem value_of_value? {negative : Bool} {magnitude : Magnitude} {whole : Int}
    (hasValue : (finite negative magnitude).value? = some (whole : ℚ)) :
    magnitude.value = whole.natAbs := by
  have notNegative := magnitude.value_nonneg
  rw [value?, Option.some.injEq] at hasValue
  rw [Nat.cast_natAbs, Int.cast_abs, ← hasValue]
  cases negative with
  | false => rw [if_neg (by decide), abs_of_nonneg notNegative]
  | true => rw [if_pos rfl, abs_neg, abs_of_nonneg notNegative]

/-- A double is a whole number exactly if its value is an integer. -/
theorem isWhole_iff (x : Double) :
    x.isWhole = true ↔ ∃ whole : Int, x.value? = some (whole : ℚ) := by
  cases x with
  | nan => simp [isWhole, value?]
  | infinite negative => simp [isWhole, value?]
  | finite negative magnitude =>
    rw [isWhole, Magnitude.isWhole_iff]
    constructor
    · rintro ⟨number, isNumber⟩
      rw [value?, isNumber]
      cases negative with
      | false => exact ⟨number, by simp⟩
      | true => exact ⟨-number, by simp⟩
    · rintro ⟨whole, hasValue⟩
      exact ⟨whole.natAbs, value_of_value? hasValue⟩

/-- A double whose value is an integer is odd exactly if the integer is. -/
theorem isOddInteger_iff_of_value? {x : Double} {whole : Int}
    (hasValue : x.value? = some (whole : ℚ)) : x.isOddInteger = true ↔ Odd whole := by
  cases x with
  | nan => cases hasValue
  | infinite negative => cases hasValue
  | finite negative magnitude =>
    rw [isOddInteger, Magnitude.isOdd_iff_of_value (value_of_value? hasValue), Int.natAbs_odd]

/-- A finite number is less than zero exactly if its value is. -/
theorem less_zero_iff_of_value? {x : Double} {value : ℚ} (hasValue : x.value? = some value) :
    x.less (zero false) = true ↔ value < 0 := by
  cases x with
  | nan => cases hasValue
  | infinite negative => cases hasValue
  | finite negative magnitude =>
    obtain rfl := Option.some.inj hasValue
    have notNegative := magnitude.value_nonneg
    have positive := magnitude.value_pos_iff
    rw [less_zero, Bool.and_eq_true, Bool.not_eq_true']
    cases negative with
    | false => simp [isNegative, notNegative]
    | true => simp [isNegative, Double.isZero, positive]

end Double

end Calculator
