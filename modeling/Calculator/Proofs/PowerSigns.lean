import Calculator.Proofs.ExactValues

/-!
# Powers of opposite bases

Where the exponent is a whole number, the power of a base and that of the opposite base differ by
the sign that the exponent gives them, if at all: an odd exponent gives opposite powers, and an even
one the same power. The main statement is that the guards and handlers around a power keep this law,
whichever of them answers: it holds of the guarded power over every arithmetic whose own power has
it wherever it returns, and so of the power of expressions.
-/

namespace Calculator

namespace Double

/-- The power of the opposite base as the law of signs has it, for a whole exponent: the opposite of
the power if the exponent is odd, and the power itself if it is even. -/
def Mirrors (whole : Int) (power mirrored : Double) : Prop :=
  (Odd whole → mirrored = -power) ∧ (Even whole → mirrored = power)

/-- Zero is not odd. -/
theorem isOddInteger_of_isZero {y : Double} (isZero : y.isZero = true) :
    y.isOddInteger = false := by
  have notOdd : Magnitude.zero.isOdd = false := by decide +kernel
  rw [eq_zero_of_isZero isZero]
  exact notOdd

/-- The law of signs asks whether the exponent is odd. -/
theorem mirrors_iff {y power mirrored : Double} {whole : Int}
    (hasValue : y.value? = some (whole : ℚ)) :
    Mirrors whole power mirrored ↔ mirrored = if y.isOddInteger then -power else power := by
  have odd := isOddInteger_iff_of_value? hasValue
  unfold Mirrors
  cases isOdd : y.isOddInteger with
  | false =>
    rw [isOdd, Bool.false_eq_true, false_iff, Int.not_odd_iff_even] at odd
    simp [odd]
  | true =>
    rw [isOdd, eq_self, true_iff] at odd
    simp [odd]

/-- Two numbers whose signs follow those of opposite bases keep to the law. -/
theorem mirrors_infinite {y : Double} {whole : Int} (hasValue : y.value? = some (whole : ℚ))
    (negative : Bool) :
    Mirrors whole (infinite (negative && y.isOddInteger))
      (infinite (!negative && y.isOddInteger)) := by
  rw [mirrors_iff hasValue]
  cases negative <;> cases y.isOddInteger <;> rfl

/-- The opposite of a zero is a zero. -/
@[simp] theorem isZero_neg (x : Double) : (-x).isZero = x.isZero := by
  cases x <;> rfl

/-- The opposite of a finite number is finite. -/
@[simp] theorem isFinite_neg (x : Double) : (-x).isFinite = x.isFinite := by
  cases x <;> rfl

/-- The opposite of an infinity is an infinity. -/
@[simp] theorem isInfinite_neg (x : Double) : (-x).isInfinite = x.isInfinite := by
  cases x <;> rfl

/-- The opposite of the opposite is the number. -/
@[simp] theorem neg_neg (x : Double) : - -x = x := by
  change neg (neg x) = x
  cases x <;> simp [neg]

/-- The opposite number has the opposite sign. -/
theorem isNegative_neg {x : Double} (isNumber : x ≠ nan) : (-x).isNegative = !x.isNegative := by
  cases x with
  | nan => exact absurd rfl isNumber
  | _ => rfl

/-- The power of the opposite base has the opposite sign if the exponent is odd, and is the same if
the exponent is even. -/
theorem power_neg {x y : Double} (isNumber : x ≠ nan) (whole : y.isWhole = true) :
    (-x).power y = if y.isOddInteger then -x.power y else x.power y := by
  cases y with
  | nan => cases whole
  | infinite reciprocal => cases whole
  | finite reciprocal n =>
    cases isZero : (finite reciprocal n).isZero with
    | true => simp only [power, isZero, isOddInteger_of_isZero isZero, if_true, Bool.false_eq_true,
        if_false]
    | false =>
      have wholeMagnitude : n.isWhole = true := whole
      have notFractional : ∀ negative : Bool, (negative && !n.isWhole) = false := by
        simp [wholeMagnitude]
      change (neg x).power _ = if n.isOdd then neg (x.power _) else x.power _
      cases x with
      | nan => exact absurd rfl isNumber
      | infinite negative =>
        simp only [power, neg, isZero, Bool.false_eq_true, if_false]
        cases reciprocal <;> cases negative <;> cases n.isOdd <;> rfl
      | finite negative m =>
        simp only [power, neg, isZero, notFractional, Bool.false_eq_true, if_false]
        by_cases noUnits : m.index = 0
        · simp only [if_pos noUnits]
          cases reciprocal <;> cases negative <;> cases n.isOdd <;> rfl
        · simp only [if_neg noUnits]
          cases m.power n reciprocal <;> cases negative <;> cases n.isOdd <;> rfl

end Double

namespace Arithmetic

/-- The power of an arithmetic keeps the law of signs for whole exponents wherever it returns. It
overflows for a base and its opposite alike, and it fails otherwise only for a zero base with an
exponent below zero or for a negative base with a fractional exponent. -/
structure MirrorsPowers (arithmetic : Arithmetic) : Prop where
  /-- Where the powers of a base and of its opposite are returned, the law holds. -/
  returned : ∀ {x y : Double} {whole : Int} {value mirrored : Double}, x ≠ .nan →
    y.value? = some (whole : ℚ) → arithmetic.power x y = .ok value →
      arithmetic.power (-x) y = .ok mirrored → Double.Mirrors whole value mirrored
  /-- The power overflows for finite bases that are not zero, whatever their sign. -/
  overflow : ∀ {x y : Double} {whole : Int}, y.value? = some (whole : ℚ) →
    arithmetic.power x y = .error .overflow →
      x.isFinite = true ∧ x.isZero = false ∧ arithmetic.power (-x) y = .error .overflow
  /-- The power has no real value for a zero base with an exponent below zero, and for a negative
  base with a fractional exponent. -/
  domain : ∀ {x y : Double}, arithmetic.power x y = .error .domain →
    x.isZero = true ∧ y.less (.zero false) = true ∨
      x.less (.zero false) = true ∧ y.isFinite = true ∧ y.isWhole = false
  /-- The power does not fail for another reason. -/
  fault : ∀ {x y : Double} {fault : ArithmeticFault}, arithmetic.power x y = .error fault →
    fault = .overflow ∨ fault = .domain

/-- The guarded power keeps the law of signs if the power itself does. -/
theorem MirrorsPowers.guardedPower {arithmetic : Arithmetic} (mirrors : arithmetic.MirrorsPowers)
    {x y : Double} {whole : Int} (isNumber : x ≠ .nan) (hasValue : y.value? = some (whole : ℚ)) :
    ∃ value mirrored, arithmetic.guardedPower x y = .ok value ∧
      arithmetic.guardedPower (-x) y = .ok mirrored ∧ Double.Mirrors whole value mirrored := by
  have isWhole : y.isWhole = true := y.isWhole_iff.mpr ⟨whole, hasValue⟩
  have notUnit : ∀ base : Double, (decide (base.abs = .one) && y.isInfinite) = false := by
    simp [Double.isInfinite_of_value? hasValue]
  cases regular : x.isZero && y.less (.zero false) with
  | true =>
    have opposite : ((-x).isZero && y.less (.zero false)) = true := by simpa using regular
    refine ⟨_, _, arithmetic.guardedPower_of_zeroBase regular,
      arithmetic.guardedPower_of_zeroBase opposite, ?_⟩
    rw [Double.isNegative_neg isNumber]
    exact Double.mirrors_infinite hasValue x.isNegative
  | false =>
    have opposite : ((-x).isZero && y.less (.zero false)) = false := by simpa using regular
    have noDomain : ∀ base : Double, (base.isZero && y.less (.zero false)) = false →
        arithmetic.power base y ≠ .error .domain := by
      intro base isRegular failed
      obtain ⟨isZero, below⟩ | ⟨_, _, fractional⟩ := mirrors.domain failed
      · rw [isZero, below] at isRegular
        cases isRegular
      · rw [isWhole] at fractional
        cases fractional
    rw [arithmetic.guardedPower_of_regular regular (notUnit x),
      arithmetic.guardedPower_of_regular opposite (notUnit (-x))]
    cases found : arithmetic.power x y with
    | ok value =>
      cases foundOpposite : arithmetic.power (-x) y with
      | ok mirrored =>
        exact ⟨value, mirrored, rfl, rfl, mirrors.returned isNumber hasValue found foundOpposite⟩
      | error fault =>
        obtain rfl | rfl := mirrors.fault foundOpposite
        · -- The power of the base itself would overflow, too.
          obtain ⟨_, _, overflows⟩ := mirrors.overflow hasValue foundOpposite
          rw [Double.neg_neg, found] at overflows
          cases overflows
        · exact absurd foundOpposite (noDomain (-x) opposite)
    | error fault =>
      obtain rfl | rfl := mirrors.fault found
      · obtain ⟨_, notZero, overflows⟩ := mirrors.overflow hasValue found
        rw [overflows, Double.less_zero, Double.less_zero, Double.isZero_neg, notZero,
          Double.isNegative_neg isNumber, Bool.not_false, Bool.and_true, Bool.and_true]
        exact ⟨_, _, rfl, rfl, Double.mirrors_infinite hasValue x.isNegative⟩
      · exact absurd found (noDomain x regular)

/-- The power of the library keeps the law of signs. -/
theorem standard_mirrorsPowers : standard.MirrorsPowers where
  returned := by
    intro x y whole value mirrored isNumber hasValue found foundOpposite
    have isWhole : y.isWhole = true := y.isWhole_iff.mpr ⟨whole, hasValue⟩
    have isPower : ∀ {base result : Double}, libraryPower base y = .ok result →
        result = base.power y := by
      intro base result returned
      obtain isPower | ⟨_, infinite, _⟩ := libraryPower_ok_cases returned
      · exact isPower
      · rw [Double.isInfinite_of_value? hasValue] at infinite
        cases infinite
    rw [Double.mirrors_iff hasValue, isPower found, isPower foundOpposite,
      Double.power_neg isNumber isWhole]
  overflow := by
    intro x y whole hasValue failed
    have isWhole : y.isWhole = true := y.isWhole_iff.mpr ⟨whole, hasValue⟩
    obtain ⟨finite, finiteExponent, reason⟩ := libraryPower_error_cases failed
    obtain ⟨isDomain, _⟩ | ⟨isDomain, _⟩ | ⟨_, regular, overflow⟩ := reason
    · cases isDomain
    · cases isDomain
    · have notZero := (Double.power_of_overflow finite finiteExponent regular overflow).1
      have isNumber : x ≠ .nan := by
        rintro rfl
        cases finite
      have oppositeOverflow : ((-x).power y).isInfinite = true := by
        rw [Double.power_neg isNumber isWhole]
        split
        · rwa [Double.isInfinite_neg]
        · exact overflow
      have opposite := libraryPower_of_regular (x := -x) (y := y) (by simpa using finite)
        finiteExponent (by simpa using regular) (by simp [isWhole])
      rw [oppositeOverflow, if_pos rfl] at opposite
      exact ⟨finite, notZero, opposite⟩
  domain := by
    intro x y failed
    obtain ⟨_, finiteExponent, reason⟩ := libraryPower_error_cases failed
    obtain ⟨_, zeroBase⟩ | ⟨_, fractional⟩ | ⟨isOverflow, _⟩ := reason
    · exact .inl (Bool.and_eq_true_iff.mp zeroBase)
    · rw [Bool.and_eq_true, Bool.not_eq_true'] at fractional
      exact .inr ⟨fractional.1, finiteExponent, fractional.2⟩
    · cases isOverflow
  fault := by
    intro x y fault failed
    obtain ⟨_, _, ⟨rfl, _⟩ | ⟨rfl, _⟩ | ⟨rfl, _⟩⟩ := libraryPower_error_cases failed
    · exact .inr rfl
    · exact .inr rfl
    · exact .inl rfl

end Arithmetic

/-- The power of a number and that of its opposite, both with the same whole exponent, are opposite
if the exponent is odd and the same if it is even. That includes exponents of zero and below, zeros
and infinities as bases, and powers that are too large or too small. The same holds of the guarded
power over any arithmetic whose power has this law wherever it returns. -/
theorem opposite_bases_have_mirrored_powers (x y : Double) (whole : Int) (isNumber : x ≠ .nan)
    (hasValue : y.value? = some (whole : ℚ)) :
    Double.Mirrors whole (x.power y) ((-x).power y) ∧
    ∀ arithmetic : Arithmetic, arithmetic.MirrorsPowers →
      ∃ value mirrored, arithmetic.guardedPower x y = .ok value ∧
        arithmetic.guardedPower (-x) y = .ok mirrored ∧ Double.Mirrors whole value mirrored := by
  constructor
  · rw [Double.mirrors_iff hasValue]
    exact Double.power_neg isNumber (y.isWhole_iff.mpr ⟨whole, hasValue⟩)
  · intro arithmetic mirrors
    exact mirrors.guardedPower isNumber hasValue

/-- The power of ten that overflows and the one of its opposite are infinities of opposite signs,
since the exponent 401 is odd. -/
theorem opposite_bases_have_mirrored_powers_overflow :
    ∃ ten exponent : Double, ten.value? = some ((10 : Int) : ℚ) ∧
      exponent.value? = some ((401 : Int) : ℚ) ∧ ten.power exponent = .infinite false ∧
      (-ten).power exponent = .infinite true ∧ Arithmetic.standard.MirrorsPowers ∧
      ∃ value mirrored, Arithmetic.standard.guardedPower ten exponent = .ok value ∧
        Arithmetic.standard.guardedPower (-ten) exponent = .ok mirrored ∧ mirrored = -value := by
  have computed : ∃ ten exponent : Magnitude, ten.units = 10 * Magnitude.unitsPerOne ∧
      exponent.units = 401 * Magnitude.unitsPerOne ∧
        (Double.finite false ten).power (.finite false exponent) = .infinite false :=
    ⟨⟨1026 * 2 ^ 52 + 2 ^ 50, by decide⟩, ⟨1031 * 2 ^ 52 + 145 * 2 ^ 44, by decide⟩,
      by decide +kernel, by decide +kernel, by decide +kernel⟩
  obtain ⟨ten, exponent, tenUnits, exponentUnits, overflow⟩ := computed
  have tenValue : (Double.finite false ten).value? = some ((10 : Int) : ℚ) := by
    have value := (ten.value_eq_natCast_iff 10).mpr tenUnits
    simp [Double.value?, value]
  have exponentValue : (Double.finite false exponent).value? = some ((401 : Int) : ℚ) := by
    have value := (exponent.value_eq_natCast_iff 401).mpr exponentUnits
    simp [Double.value?, value]
  have isNumber : Double.finite false ten ≠ .nan := Double.noConfusion
  have odd : Odd (401 : Int) := by decide
  obtain ⟨powers, guarded⟩ :=
    opposite_bases_have_mirrored_powers _ _ 401 isNumber exponentValue
  have opposite := powers.1 odd
  rw [overflow] at opposite
  have standard := Arithmetic.standard_mirrorsPowers
  obtain ⟨value, mirrored, found, foundOpposite, mirrors⟩ := guarded _ standard
  exact ⟨_, _, tenValue, exponentValue, overflow, opposite, standard, value, mirrored, found,
    foundOpposite, mirrors.1 odd⟩

end Calculator
