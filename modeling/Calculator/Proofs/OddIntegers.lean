import Calculator.Proofs.PowerSigns
import Mathlib.Data.Rat.Floor

/-!
# Odd doubles

A double is asked whether it is odd in three steps: whether it is finite, whether it is a whole
number, and what its whole part leaves when it is divided by two. The main statement is that the
answer is that for the exact rational value, for every sign, significand and exponent. It follows
that opposite numbers have the same answer, and that no number below one and none from 2^53 on is
odd.
-/

namespace Calculator

namespace Double

/-! ## Sign, significand and exponent -/

/-- The factor that a sign stands for. -/
def signFactor (negative : Bool) : Int := if negative then -1 else 1

/-- The number is finite, with a sign, a significand of at most 53 bits and an exponent of two. -/
structure HasParts (y : Double) (negative : Bool) (significand : Nat) (exponent : Int) : Prop where
  /-- The sign, which a zero has as well. -/
  sign : y.isNegative = negative
  /-- The significand has at most 53 bits. -/
  fits : significand < 2 ^ 53
  /-- The least exponent is that of the smallest positive double. -/
  least : -1074 ≤ exponent
  /-- The greatest exponent is that of the greatest double. -/
  greatest : exponent ≤ 971
  /-- The exact value. -/
  value : y.value? = some (signFactor negative * (significand * (2 : ℚ) ^ exponent))

/-- The exact value of a finite number is its magnitude's value with its sign. -/
theorem value?_finite (negative : Bool) (magnitude : Magnitude) :
    (finite negative magnitude).value? = some (signFactor negative * magnitude.value) := by
  cases negative <;> simp [value?, signFactor]

/-- Exactly the finite numbers have parts. -/
theorem exists_parts_iff (y : Double) :
    (∃ negative significand exponent, y.HasParts negative significand exponent) ↔
      y.isFinite = true := by
  constructor
  · rintro ⟨negative, significand, exponent, parts⟩
    exact y.exists_value?_iff.mp ⟨_, parts.value⟩
  · intro isFinite
    cases y with
    | nan => cases isFinite
    | infinite negative => cases isFinite
    | finite negative magnitude =>
      obtain ⟨significand, exponent, fits, least, greatest, isValue⟩ :=
        Magnitude.exists_value_iff.mp ⟨magnitude, rfl⟩
      exact ⟨negative, significand, exponent, rfl, fits, least, greatest,
        by rw [value?_finite, isValue]⟩

/-- Every sign, significand and exponent in range are the parts of some number. -/
theorem exists_hasParts (negative : Bool) {significand : Nat} {exponent : Int}
    (fits : significand < 2 ^ 53) (least : -1074 ≤ exponent) (greatest : exponent ≤ 971) :
    ∃ y : Double, y.HasParts negative significand exponent := by
  obtain ⟨magnitude, isValue⟩ :=
    Magnitude.exists_value_iff.mpr ⟨significand, exponent, fits, least, greatest, rfl⟩
  exact ⟨finite negative magnitude, rfl, fits, least, greatest, by rw [value?_finite, isValue]⟩

/-! ## The steps of the question -/

/-- A rational number rounded towards zero. -/
def truncate (value : ℚ) : Int := if value < 0 then ⌈value⌉ else ⌊value⌋

/-- The units of a magnitude, divided by those of the number one, are its value rounded down. -/
theorem floor_value (magnitude : Magnitude) :
    ⌊magnitude.value⌋ = (magnitude.units / Magnitude.unitsPerOne : Nat) := by
  rw [Magnitude.value, Magnitude.valueAt, Magnitude.ratio, Nat.cast_one, div_one]
  exact Rat.floor_natCast_div_natCast _ _

/-- The whole part of a finite number is its value rounded towards zero. -/
theorem wholePart_eq {y : Double} {value : ℚ} (hasValue : y.value? = some value) :
    y.wholePart = .ok (truncate value) := by
  cases y with
  | nan => cases hasValue
  | infinite negative => cases hasValue
  | finite negative magnitude =>
    obtain rfl := Option.some.inj hasValue
    have notNegative := magnitude.value_nonneg
    have whole := floor_value magnitude
    rw [wholePart, truncate, ← whole]
    cases negative with
    | false => simp only [Bool.false_eq_true, if_false, notNegative.not_gt]
    | true =>
      simp only [if_true, Int.ceil_neg]
      split
      · rfl
      · -- A negative zero is not below zero, but its two roundings agree.
        next notBelow =>
        have noValue : magnitude.value = 0 := by linarith
        rw [noValue, neg_zero, Int.floor_zero, neg_zero]

/-- To be odd by the whole part is to leave one when divided by two and rounded to the floor. -/
theorem oddByWholePart_eq_fmod (y : Double) :
    y.oddByWholePart = if y.isFinite && y.isWhole then
      y.wholePart.map fun whole => whole.fmod 2 == 1 else .ok false := by
  have remainder : ∀ whole : Int, whole.fmod 2 = whole % 2 :=
    fun whole => Int.fmod_eq_emod_of_nonneg whole (by decide)
  simp only [oddByWholePart, remainder]

/-! ## Exactness -/

/-- A double is odd exactly if its value is twice an integer and one more. -/
theorem isOddInteger_iff (y : Double) :
    y.isOddInteger = true ↔ ∃ half : Int, y.value? = some (2 * (half : ℚ) + 1) := by
  constructor
  · intro odd
    have isWhole : y.isWhole = true := by
      have told := y.oddByWholePart_eq
      rw [odd, oddByWholePart] at told
      split at told
      · next both => exact (Bool.and_eq_true_iff.mp both).2
      · cases told
    obtain ⟨whole, hasValue⟩ := y.isWhole_iff.mp isWhole
    obtain ⟨half, rfl⟩ := (isOddInteger_iff_of_value? hasValue).mp odd
    exact ⟨half, by rw [hasValue, Int.cast_add, Int.cast_mul, Int.cast_ofNat, Int.cast_one]⟩
  · rintro ⟨half, hasValue⟩
    have isInteger : y.value? = some ((2 * half + 1 : Int) : ℚ) := by
      rw [hasValue, Int.cast_add, Int.cast_mul, Int.cast_ofNat, Int.cast_one]
    exact (isOddInteger_iff_of_value? isInteger).mpr ⟨half, rfl⟩

/-- The opposite number is odd exactly if the number is. -/
theorem isOddInteger_neg (y : Double) : (-y).isOddInteger = y.isOddInteger := by
  cases y <;> rfl

/-- A number below one is not odd. -/
theorem isOddInteger_of_small {y : Double} {value : ℚ} (hasValue : y.value? = some value)
    (small : |value| < 1) : y.isOddInteger = false := by
  rw [← Bool.not_eq_true, isOddInteger_iff]
  rintro ⟨half, isOdd⟩
  obtain rfl := Option.some.inj (hasValue.symm.trans isOdd)
  have below : |2 * half + 1| < 1 := by exact_mod_cast small
  rw [abs_lt] at below
  omega

/-- From 2^53 on the exponent is positive, so that every number is even. -/
theorem isOddInteger_of_large {y : Double} {value : ℚ} (hasValue : y.value? = some value)
    (large : 2 ^ 53 ≤ |value|) : y.isOddInteger = false := by
  have isFinite : y.isFinite = true := y.exists_value?_iff.mp ⟨value, hasValue⟩
  obtain ⟨negative, significand, exponent, parts⟩ := y.exists_parts_iff.mpr isFinite
  obtain rfl := Option.some.inj (hasValue.symm.trans parts.value)
  have size : |(signFactor negative : ℚ) * (significand * 2 ^ exponent)| =
      significand * 2 ^ exponent := by
    have notNegative : (0 : ℚ) ≤ significand * 2 ^ exponent :=
      mul_nonneg (Nat.cast_nonneg _) (zpow_nonneg zero_le_two _)
    rw [abs_mul, abs_of_nonneg notNegative]
    cases negative <;> simp [signFactor]
  have positive : 0 < exponent := by
    by_contra notPositive
    have atMostOne : (2 : ℚ) ^ exponent ≤ 1 :=
      zpow_le_one_of_nonpos₀ one_le_two (not_lt.mp notPositive)
    have fits : (significand : ℚ) < 2 ^ 53 := by exact_mod_cast parts.fits
    have notLarger : (significand : ℚ) * 2 ^ exponent ≤ significand :=
      mul_le_of_le_one_right (Nat.cast_nonneg _) atMostOne
    rw [size] at large
    linarith
  obtain ⟨further, rfl⟩ := Int.exists_add_of_le positive
  -- The value is an integer with a factor of two from the exponent.
  have isEven : y.value? =
      some ((signFactor negative * (significand * 2 ^ further) * 2 : Int) : ℚ) := by
    rw [hasValue, zero_add, add_comm, zpow_add_one₀ two_ne_zero, zpow_natCast]
    exact congrArg some (by push_cast; ring)
  rw [← Bool.not_eq_true, isOddInteger_iff_of_value? isEven, Int.not_odd_iff_even]
  exact even_two.mul_left _

/-- Infinities and what is not a number are not odd. -/
theorem isOddInteger_of_not_finite {y : Double} (notFinite : y.isFinite = false) :
    y.isOddInteger = false := by
  cases y with
  | finite negative magnitude => cases notFinite
  | _ => rfl

end Double

/-- Whether a double is odd is told by its exact value. The three steps of the question always have
an answer, and it is that the number is twice an integer and one more. The steps are exact, too: the
number is whole if its value is an integer, and its whole part is its value rounded towards zero.
Opposite numbers have the same answer, and it is no for all numbers from 2^53 on, the infinities
among them, and for all below one. All this is said of every sign, every significand of 53 bits and
every exponent of a double: the finite numbers are what these are the parts of. -/
theorem odd_doubles_are_odd_integers :
    (∀ y : Double,
      ((if y.isFinite && y.isWhole then y.wholePart.map fun whole => whole.fmod 2 == 1
        else .ok false) = .ok y.isOddInteger) ∧
      (y.isWhole = true ↔ ∃ whole : Int, y.value? = some (whole : ℚ)) ∧
      (y.isOddInteger = true ↔ ∃ half : Int, y.value? = some (2 * (half : ℚ) + 1)) ∧
      (-y).isOddInteger = y.isOddInteger ∧
      (y.isFinite = false → y.isOddInteger = false) ∧
      ∀ value, y.value? = some value →
        y.wholePart = .ok (Double.truncate value) ∧
        (2 ^ 53 ≤ |value| → y.isOddInteger = false) ∧
        (|value| < 1 → y.isOddInteger = false)) ∧
    (∀ y : Double, (∃ negative significand exponent, y.HasParts negative significand exponent) ↔
      y.isFinite = true) ∧
    ∀ negative significand exponent, significand < 2 ^ 53 → -1074 ≤ exponent → exponent ≤ 971 →
      ∃ y : Double, y.HasParts negative significand exponent := by
  refine ⟨fun y => ⟨?steps, y.isWhole_iff, y.isOddInteger_iff, y.isOddInteger_neg,
    Double.isOddInteger_of_not_finite, fun value hasValue => ?finite⟩, Double.exists_parts_iff,
    fun negative _ _ => Double.exists_hasParts negative⟩
  case steps => rw [← y.oddByWholePart_eq_fmod, y.oddByWholePart_eq]
  case finite =>
    exact ⟨Double.wholePart_eq hasValue, Double.isOddInteger_of_large hasValue,
      Double.isOddInteger_of_small hasValue⟩

/-- The greatest significand makes an odd number with the exponent zero, just below 2^53, and an
even one with the exponent one. -/
theorem odd_doubles_are_odd_integers_boundary :
    ∃ odd even : Double, odd.HasParts true (2 ^ 53 - 1) 0 ∧ even.HasParts false (2 ^ 53 - 1) 1 ∧
      odd.isOddInteger = true ∧ (-odd).isOddInteger = true ∧ even.isOddInteger = false := by
  obtain ⟨exact, _, parts⟩ := odd_doubles_are_odd_integers
  obtain ⟨odd, oddParts⟩ := parts true (2 ^ 53 - 1) 0 (by decide) (by decide) (by decide)
  obtain ⟨even, evenParts⟩ := parts false (2 ^ 53 - 1) 1 (by decide) (by decide) (by decide)
  obtain ⟨_, _, isOdd, opposite, _⟩ := exact odd
  obtain ⟨_, _, _, _, _, bounds⟩ := exact even
  have odd53 : odd.isOddInteger = true :=
    isOdd.mpr ⟨-2 ^ 52, by rw [oddParts.value]; norm_num [Double.signFactor]⟩
  have large := (bounds _ evenParts.value).2.1 (by norm_num [Double.signFactor])
  exact ⟨odd, even, oddParts, evenParts, odd53, opposite.trans odd53, large⟩

end Calculator
