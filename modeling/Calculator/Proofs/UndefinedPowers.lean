import Calculator.Proofs.ExactValues

/-!
# Powers that are not a number

A power is not a number if the exponent is none, if the base is none and the exponent is not zero,
if a unit base has an infinite exponent, or if a base below zero has a fractional exponent. The main
statement is that the guarded power is not a number for exactly these operands but one pair, over
any arithmetic whose own power keeps to the rules for special operands. The pair is the base one
with an exponent that is not a number: the guards leave it to those rules, which make it one.
-/

namespace Calculator

namespace Double

/-- The operands have no power. -/
inductive LacksPower (x y : Double) : Prop where
  /-- The exponent is not a number. -/
  | exponent (notNumber : y = nan)
  /-- The base is not a number, and the exponent is not zero. -/
  | base (notNumber : x = nan) (notZero : y.isZero = false)
  /-- A unit base has an infinite exponent. -/
  | limit (unit : x.abs = one) (infinite : y.isInfinite = true)
  /-- A base below zero has an exponent that is not whole. -/
  | root {value fraction : ℚ} (hasValue : x.value? = some value) (below : value < 0)
      (hasFraction : y.value? = some fraction) (notWhole : ∀ whole : Int, fraction ≠ whole)

/-- A unit is no zero. -/
theorem isZero_of_unit {x : Double} (unit : x.abs = one) : x.isZero = false := by
  rw [← Bool.not_eq_true]
  intro isZero
  rw [eq_zero_of_isZero isZero] at unit
  revert unit
  cases x.isNegative <;> decide

/-- Finite operands lack a power exactly if the base is below zero and the exponent is not whole. -/
theorem lacksPower_of_finite_iff {x y : Double} (finite : x.isFinite = true)
    (finiteExponent : y.isFinite = true) :
    x.LacksPower y ↔ (x.less (zero false) && !y.isWhole) = true := by
  obtain ⟨value, hasValue⟩ := x.exists_value?_iff.mpr finite
  obtain ⟨fraction, hasFraction⟩ := y.exists_value?_iff.mpr finiteExponent
  have isWhole : y.isWhole = true ↔ ∃ whole : Int, fraction = whole := by
    rw [y.isWhole_iff, hasFraction]
    simp only [Option.some.injEq]
  rw [Bool.and_eq_true, less_zero_iff_of_value? hasValue, Bool.not_eq_true', ← Bool.not_eq_true,
    isWhole, not_exists]
  constructor
  · intro lacks
    cases lacks with
    | exponent notNumber =>
      rw [notNumber] at finiteExponent
      cases finiteExponent
    | base notNumber =>
      rw [notNumber] at finite
      cases finite
    | limit _ infinite =>
      rw [isInfinite_of_value? hasFraction] at infinite
      cases infinite
    | root hasOtherValue below hasOtherFraction notWhole =>
      obtain rfl := Option.some.inj (hasValue.symm.trans hasOtherValue)
      obtain rfl := Option.some.inj (hasFraction.symm.trans hasOtherFraction)
      exact ⟨below, notWhole⟩
  · rintro ⟨below, notWhole⟩
    exact .root hasValue below hasFraction notWhole

/-- Finite operands with a whole exponent, or with a base that is not below zero, have a power that
is a number. -/
theorem power_ne_nan {x y : Double} (finite : x.isFinite = true)
    (finiteExponent : y.isFinite = true)
    (notFractional : (x.less (zero false) && !y.isWhole) = false) : x.power y ≠ nan := by
  cases x with
  | nan => cases finite
  | infinite negative => cases finite
  | finite negative m =>
    cases y with
    | nan => cases finiteExponent
    | infinite reciprocal => cases finiteExponent
    | finite reciprocal n =>
      cases exponent : (Double.finite reciprocal n).isZero with
      | true =>
        rw [power, if_pos exponent]
        exact Double.noConfusion
      | false =>
        simp only [power, exponent, Bool.false_eq_true, if_false]
        by_cases noUnits : m.index = 0
        · rw [if_pos noUnits]
          split <;> exact Double.noConfusion
        · have whole : (negative && !n.isWhole) = false := by
            simpa [less_zero, isNegative, isZero, noUnits, isWhole] using notFractional
          rw [if_neg noUnits, whole, if_neg (by decide)]
          cases m.power n reciprocal with
          | none => exact Double.noConfusion
          | some magnitude => exact Double.noConfusion

end Double

namespace Arithmetic

/-- The power of an arithmetic keeps to the rules of Annex F of C99 where an operand is infinite or
not a number. For finite operands it fails where there is no real value and where the power is too
large, and returns a finite number otherwise; of a zero base with an exponent below zero nothing is
said. -/
structure FollowsAnnexF (arithmetic : Arithmetic) : Prop where
  /-- One to any power is one, and any other base has no power here. -/
  exponent_nan : ∀ x, arithmetic.power x .nan = .ok (if x = .one then .one else .nan)
  /-- What is not a number has the power one for a zero exponent only. -/
  base_nan : ∀ y, y ≠ .nan → arithmetic.power .nan y = .ok (if y.isZero then .one else .nan)
  /-- The power for an infinite exponent is the limit, and one for a unit base. -/
  exponent_infinite : ∀ x negative, x ≠ .nan →
    arithmetic.power x (.infinite negative) =
      .ok (if x.abs = .one then .one
        else if Double.one.less x.abs = negative then .zero false
        else .infinite false)
  /-- The power of an infinity has the sign that an odd exponent gives it. -/
  base_infinite : ∀ negative y, y.isFinite = true →
    arithmetic.power (.infinite negative) y =
      .ok (if y.isZero then .one
        else if y.isNegative then .zero (negative && y.isOddInteger)
        else .infinite (negative && y.isOddInteger))
  /-- A base below zero with a fractional exponent has no real power. -/
  fractional : ∀ x y, x.isFinite = true → y.isFinite = true →
    (x.less (.zero false) && !y.isWhole) = true → arithmetic.power x y = .error .domain
  /-- All other finite operands overflow or have a finite power. -/
  regular : ∀ x y, x.isFinite = true → y.isFinite = true →
    (x.isZero && y.less (.zero false)) = false → (x.less (.zero false) && !y.isWhole) = false →
      arithmetic.power x y = .error .overflow ∨
        ∃ value, arithmetic.power x y = .ok value ∧ value.isFinite = true

namespace FollowsAnnexF

variable {arithmetic : Arithmetic} {x y : Double}

/-- The guarded power for an exponent that is not a number is the one that the rules give. -/
theorem guardedPower_nan (follows : arithmetic.FollowsAnnexF) (x : Double) :
    arithmetic.guardedPower x .nan = .ok (if x = .one then .one else .nan) := by
  have regular : (x.isZero && Double.nan.less (.zero false)) = false := Bool.and_false _
  have notUnit : (decide (x.abs = .one) && Double.nan.isInfinite) = false := Bool.and_false _
  rw [arithmetic.guardedPower_of_regular regular notUnit, follows.exponent_nan]

/-- The guarded power of a base that is not a number is the one that the rules give. -/
theorem nan_guardedPower (follows : arithmetic.FollowsAnnexF) (isNumber : y ≠ .nan) :
    arithmetic.guardedPower .nan y = .ok (if y.isZero then .one else .nan) := by
  have regular : (Double.nan.isZero && y.less (.zero false)) = false := rfl
  have notUnit : (decide (Double.nan.abs = .one) && y.isInfinite) = false := rfl
  rw [arithmetic.guardedPower_of_regular regular notUnit, follows.base_nan y isNumber]

/-- The guarded power is not a number for operands that lack a power, except for the base one with
an exponent that is not a number. -/
theorem guardedPower_of_lacksPower (follows : arithmetic.FollowsAnnexF) (lacks : x.LacksPower y)
    (regular : ¬(x = .one ∧ y = .nan)) : arithmetic.guardedPower x y = .ok .nan := by
  cases lacks with
  | exponent notNumber =>
    subst notNumber
    rw [follows.guardedPower_nan, if_neg fun isOne => regular ⟨isOne, rfl⟩]
  | base notNumber notZero =>
    subst notNumber
    by_cases isNumber : y = .nan
    · rw [isNumber, follows.guardedPower_nan, if_neg (by decide)]
    · rw [follows.nan_guardedPower isNumber, notZero, if_neg (by decide)]
  | limit unit infinite =>
    apply guardedPower_of_unitBase
    · rw [Double.isZero_of_unit unit, Bool.false_and]
    · rw [decide_eq_true unit, infinite, Bool.and_self]
  | root hasValue below hasFraction notWhole =>
    have finite : x.isFinite = true := x.exists_value?_iff.mp ⟨_, hasValue⟩
    have finiteExponent : y.isFinite = true := y.exists_value?_iff.mp ⟨_, hasFraction⟩
    have fractional := (Double.lacksPower_of_finite_iff finite finiteExponent).mp
      (.root hasValue below hasFraction notWhole)
    have notZero : x.isZero = false := by
      have isLess := (Bool.and_eq_true_iff.mp fractional).1
      rw [Double.less_zero, Bool.and_eq_true, Bool.not_eq_true'] at isLess
      exact isLess.2
    have zeroBase : (x.isZero && y.less (.zero false)) = false := by
      rw [notZero, Bool.false_and]
    have notUnit : (decide (x.abs = .one) && y.isInfinite) = false := by
      rw [Double.isInfinite_of_value? hasFraction, Bool.and_false]
    rw [arithmetic.guardedPower_of_regular zeroBase notUnit,
      follows.fractional x y finite finiteExponent fractional]

/-- The guarded power of other operands is a number. -/
theorem guardedPower_of_not_lacksPower (follows : arithmetic.FollowsAnnexF)
    (has : ¬x.LacksPower y) :
    ∃ value, arithmetic.guardedPower x y = .ok value ∧ value ≠ .nan := by
  cases zeroBase : x.isZero && y.less (.zero false) with
  | true => exact ⟨_, arithmetic.guardedPower_of_zeroBase zeroBase, Double.noConfusion⟩
  | false =>
    cases y with
    | nan => exact absurd (.exponent rfl) has
    | infinite negative =>
      have isNumber : x ≠ .nan := fun notNumber => has (.base notNumber rfl)
      have notOne : x.abs ≠ .one := fun unit => has (.limit unit rfl)
      have notUnit : (decide (x.abs = .one) && (Double.infinite negative).isInfinite) = false := by
        rw [decide_eq_false notOne, Bool.false_and]
      rw [arithmetic.guardedPower_of_regular zeroBase notUnit,
        follows.exponent_infinite x negative isNumber, if_neg notOne]
      refine ⟨_, rfl, ?_⟩
      split <;> exact Double.noConfusion
    | finite reciprocal n =>
      have notUnit : (decide (x.abs = .one) && (Double.finite reciprocal n).isInfinite) = false :=
        Bool.and_false _
      cases x with
      | nan =>
        have isZero : (Double.finite reciprocal n).isZero = true := by
          rw [← Bool.not_eq_false]
          exact fun notZero => has (.base rfl notZero)
        rw [follows.nan_guardedPower Double.noConfusion, isZero, if_pos rfl]
        exact ⟨_, rfl, Double.noConfusion⟩
      | infinite negative =>
        rw [arithmetic.guardedPower_of_regular zeroBase notUnit,
          follows.base_infinite negative _ rfl]
        refine ⟨_, rfl, ?_⟩
        split
        · exact Double.noConfusion
        · split <;> exact Double.noConfusion
      | finite negative m =>
        rw [Double.lacksPower_of_finite_iff rfl rfl, Bool.not_eq_true] at has
        rw [arithmetic.guardedPower_of_regular zeroBase notUnit]
        obtain overflow | ⟨value, returned, finite⟩ := follows.regular _ _ rfl rfl zeroBase has
        · rw [overflow]
          exact ⟨_, rfl, Double.noConfusion⟩
        · rw [returned]
          refine ⟨value, rfl, ?_⟩
          rintro rfl
          cases finite

/-- The guarded power has a value, which is not a number exactly if the operands lack a power and
are not the base one with an exponent that is not a number. -/
theorem exists_guardedPower (follows : arithmetic.FollowsAnnexF) (x y : Double) :
    ∃ value, arithmetic.guardedPower x y = .ok value ∧
      (value = .nan ↔ x.LacksPower y ∧ ¬(x = .one ∧ y = .nan)) := by
  by_cases lacks : x.LacksPower y
  · by_cases exceptional : x = .one ∧ y = .nan
    · obtain ⟨rfl, rfl⟩ := exceptional
      refine ⟨.one, follows.guardedPower_nan .one, ?_⟩
      simp [Double.one]
    · refine ⟨.nan, follows.guardedPower_of_lacksPower lacks exceptional, ?_⟩
      simp only [lacks, exceptional, not_false_eq_true, and_self]
  · obtain ⟨value, found, isNumber⟩ := follows.guardedPower_of_not_lacksPower lacks
    refine ⟨value, found, ?_⟩
    simp only [isNumber, lacks, false_and]

end FollowsAnnexF

/-- The power of the library keeps to the rules. -/
theorem standard_followsAnnexF : standard.FollowsAnnexF where
  exponent_nan := by
    intro x
    change libraryPower x .nan = _
    rw [libraryPower, if_neg (by simp [Double.isFinite]), if_neg (by simp [Double.isInfinite])]
    cases x <;> rfl
  base_nan := by
    intro y isNumber
    change libraryPower .nan y = _
    cases y with
    | nan => exact absurd rfl isNumber
    | infinite negative => rfl
    | finite negative n => rfl
  exponent_infinite := by
    intro x negative isNumber
    change libraryPower x (.infinite negative) = _
    have power : x.power (.infinite negative) = Double.infinitePower x negative := by
      cases x with
      | nan => exact absurd rfl isNumber
      | _ => rfl
    rw [libraryPower, if_neg (by simp [Double.isFinite]), power, Double.infinitePower]
    by_cases unit : x.abs = .one
    · rw [if_pos (by simp [unit, Double.isInfinite]), if_pos unit]
    · rw [if_neg (by simp [unit]), if_neg unit]
      have notOne : (if x.isNegative then x.neg else x) ≠ .one := unit
      simp only [if_neg notOne, Double.abs]
      cases negative with
      | true => rfl
      | false => simp only [← Bool.not_eq_true, ite_not, Bool.false_eq_true, if_false]
  base_infinite := by
    intro negative y finite
    change libraryPower (.infinite negative) y = _
    cases y with
    | nan => cases finite
    | infinite reciprocal => cases finite
    | finite reciprocal n =>
      rw [libraryPower, if_neg (by simp [Double.isFinite]), if_neg (by simp [Double.isInfinite])]
      rfl
  fractional := by
    intro x y finite finiteExponent fractional
    change libraryPower x y = _
    simp only [libraryPower, finite, finiteExponent, fractional, Bool.and_self, if_true, ite_self]
  regular := by
    intro x y finite finiteExponent regular notFractional
    change libraryPower x y = _ ∨ ∃ value, libraryPower x y = _ ∧ _
    rw [libraryPower_of_regular finite finiteExponent regular notFractional]
    cases overflow : (x.power y).isInfinite with
    | true => exact .inl rfl
    | false =>
      refine .inr ⟨x.power y, rfl, ?_⟩
      have isNumber := Double.power_ne_nan finite finiteExponent notFractional
      cases found : x.power y with
      | nan => exact absurd found isNumber
      | infinite negative =>
        rw [found] at overflow
        cases overflow
      | finite negative magnitude => rfl

end Arithmetic

/-- A power of expressions is not a number exactly if the operands lack a power and are not the base
one with an exponent that is not a number. The same holds of the guarded power over any arithmetic
that keeps to the rules of the library, and it always has a value. -/
theorem powers_that_are_no_numbers (x y : Double) :
    (x.power y = .nan ↔ x.LacksPower y ∧ ¬(x = .one ∧ y = .nan)) ∧
    ∀ arithmetic : Arithmetic, arithmetic.FollowsAnnexF →
      ∃ value, arithmetic.guardedPower x y = .ok value ∧
        (value = .nan ↔ x.LacksPower y ∧ ¬(x = .one ∧ y = .nan)) := by
  constructor
  · obtain ⟨value, found, isExact⟩ := Arithmetic.standard_followsAnnexF.exists_guardedPower x y
    rw [Arithmetic.standard_guardedPower, Except.ok.injEq] at found
    rw [found, isExact]
  · intro arithmetic follows
    exact follows.exists_guardedPower x y

/-- One has no power for an infinite exponent, though the library returns one there. -/
theorem powers_that_are_no_numbers_limit :
    Arithmetic.standard.FollowsAnnexF ∧ Double.one.LacksPower (.infinite false) ∧
      Arithmetic.standard.power .one (.infinite false) = .ok .one ∧
      ∃ value, Arithmetic.standard.guardedPower .one (.infinite false) = .ok value ∧
        value = .nan := by
  have follows := Arithmetic.standard_followsAnnexF
  have lacks : Double.one.LacksPower (.infinite false) := .limit (by decide) rfl
  obtain ⟨value, found, isExact⟩ := (powers_that_are_no_numbers .one (.infinite false)).2 _ follows
  exact ⟨follows, lacks, by decide +kernel, value, found,
    isExact.mpr ⟨lacks, fun exceptional => Double.noConfusion exceptional.2⟩⟩

/-- One to the power of what is not a number is one, though such operands lack a power. -/
theorem one_has_a_power_for_no_number :
    Double.one.LacksPower .nan ∧ Double.one.power .nan = .one ∧
      ¬∀ x y : Double, x.power y = .nan ↔ x.LacksPower y := by
  have lacks : Double.one.LacksPower .nan := .exponent rfl
  have isOne : Double.one.power .nan = .one := by decide +kernel
  refine ⟨lacks, isOne, fun exact => ?_⟩
  have isNaN := (exact .one .nan).mpr lacks
  rw [isOne] at isNaN
  cases isNaN

end Calculator
