import Calculator.Proofs.Literals
import Mathlib.Algebra.Order.Field.Basic
import Mathlib.Algebra.Order.Field.Rat
import Mathlib.Order.Monotone.Basic
import Mathlib.Tactic.Linarith
import Mathlib.Tactic.Ring

/-!
# Rounding to the nearest magnitude

The place found for a quotient is that of the magnitude nearest to it, the even one of two that are
as near. The places are those of the numbers that have 53 bits and an exponent in range, in
ascending order, so a quotient lies between two neighbours and only these matter. It overflows from
the middle between the last magnitude and 2^1024 on, which is the number 2^1024 - 2^970.
-/

namespace Calculator

namespace Magnitude

/-! ## Places -/

/-- A place is made of the excess bits and the significand of the magnitude there. The significand
may also be one too large, which is the first one of the next row. -/
theorem unitsAt_row {excess significand : Nat} (fits : significand ≤ 2 ^ 53)
    (normal : excess = 0 ∨ 2 ^ 52 ≤ significand) :
    unitsAt (excess * 2 ^ 52 + significand) = significand * 2 ^ excess := by
  unfold unitsAt
  simp only [Nat.pow_eq]
  by_cases small : significand < 2 ^ 52
  · obtain rfl : excess = 0 := by omega
    rw [if_pos (by omega)]
    omega
  · rw [if_neg (by omega)]
    by_cases full : significand = 2 ^ 53
    · have row : (excess * 2 ^ 52 + significand) / 2 ^ 52 = excess + 2 := by omega
      have first : (excess * 2 ^ 52 + significand) % 2 ^ 52 = 0 := by omega
      have doubled : 2 ^ (excess + 2 - 1) = 2 ^ excess * 2 := pow_succ 2 excess
      rw [row, first, doubled, full]
      omega
    · have row : (excess * 2 ^ 52 + significand) / 2 ^ 52 = excess + 1 := by omega
      have rest : (excess * 2 ^ 52 + significand) % 2 ^ 52 = significand - 2 ^ 52 := by omega
      have whole : 2 ^ 52 + (significand - 2 ^ 52) = significand := by omega
      rw [row, rest, whole, Nat.add_sub_cancel]

/-- Every place is of this form. -/
theorem exists_row (index : Nat) :
    ∃ excess significand, index = excess * 2 ^ 52 + significand ∧ significand < 2 ^ 53 ∧
      (excess = 0 ∨ 2 ^ 52 ≤ significand) := by
  by_cases small : index < 2 ^ 52
  · exact ⟨0, index, by omega, by omega, .inl rfl⟩
  · exact ⟨index / 2 ^ 52 - 1, 2 ^ 52 + index % 2 ^ 52, by omega, by omega, .inr (by omega)⟩

/-- The magnitudes stand in ascending order. -/
theorem strictMono_unitsAt : StrictMono unitsAt := by
  refine strictMono_nat_of_lt_succ fun index => ?_
  obtain ⟨excess, significand, rfl, fits, normal⟩ := exists_row index
  rw [Nat.add_assoc, unitsAt_row (by omega) normal, unitsAt_row (by omega) (by omega)]
  exact Nat.mul_lt_mul_of_pos_right (Nat.lt_succ_self significand) (Nat.two_pow_pos excess)

/-- Without its excess bits a number has at most 53 bits, and exactly as many if it has excess bits
at all. -/
theorem quotient_excessBits (units : Nat) :
    units / 2 ^ excessBits units < 2 ^ 53 ∧
      (excessBits units = 0 ∨ 2 ^ 52 ≤ units / 2 ^ excessBits units) := by
  by_cases zero : units = 0
  · rw [zero]
    exact ⟨by decide, .inl rfl⟩
  · have atLeast := Nat.log2_self_le zero
    have below : units < 2 ^ (units.log2 + 1) := Nat.lt_log2_self
    have power : 0 < 2 ^ excessBits units := Nat.two_pow_pos _
    constructor
    · rw [Nat.div_lt_iff_lt_mul power, ← Nat.pow_add]
      have bits : units.log2 + 1 ≤ 53 + excessBits units := by
        unfold excessBits
        omega
      exact Nat.lt_of_lt_of_le below (Nat.pow_le_pow_right (by decide) bits)
    · by_cases short : excessBits units = 0
      · exact .inl short
      · right
        have bits : 52 + excessBits units = units.log2 := by
          unfold excessBits at short ⊢
          omega
        rw [Nat.le_div_iff_mul_le power, ← Nat.pow_add, bits]
        exact atLeast

/-- Division to the nearest number takes the number below the quotient if that one is nearer, or as
near and even, and otherwise the number above it. -/
theorem divideEven_cases (numerator : Nat) {divisor : Nat} (positive : 0 < divisor) :
    ∃ below, below * divisor ≤ numerator ∧ numerator < (below + 1) * divisor ∧
      below = numerator / divisor ∧
      ((divideEven numerator divisor = below ∧
          (2 * numerator < (below + (below + 1)) * divisor ∨
            2 * numerator = (below + (below + 1)) * divisor ∧ below % 2 = 0)) ∨
        divideEven numerator divisor = below + 1 ∧
          ((below + (below + 1)) * divisor < 2 * numerator ∨
            (below + (below + 1)) * divisor = 2 * numerator ∧ below % 2 = 1)) := by
  have rest : numerator % divisor < divisor := Nat.mod_lt _ positive
  have apart : divisor * (numerator / divisor) + numerator % divisor = numerator :=
    Nat.div_add_mod numerator divisor
  have product : numerator / divisor * divisor = divisor * (numerator / divisor) :=
    Nat.mul_comm _ _
  have successor : (numerator / divisor + 1) * divisor =
      divisor * (numerator / divisor) + divisor := by
    rw [Nat.succ_mul, product]
  refine ⟨numerator / divisor, by omega, by omega, rfl, ?_⟩
  unfold divideEven
  rw [Nat.add_mul, successor, product]
  simp only
  split
  · exact .inl ⟨rfl, by omega⟩
  · exact .inr ⟨rfl, by omega⟩

/-- A quotient lies between two neighbouring places. The nearest place is the lower one if the
quotient is below the middle of the two, or in the middle and the lower place is even, and otherwise
the upper one. -/
theorem nearestIndex_cases (numerator : Nat) {denominator : Nat} (positive : 0 < denominator) :
    ∃ place, unitsAt place * denominator ≤ numerator ∧
      numerator < unitsAt (place + 1) * denominator ∧
      ((nearestIndex numerator denominator = place ∧
          (2 * numerator < (unitsAt place + unitsAt (place + 1)) * denominator ∨
            2 * numerator = (unitsAt place + unitsAt (place + 1)) * denominator ∧
              place % 2 = 0)) ∨
        nearestIndex numerator denominator = place + 1 ∧
          ((unitsAt place + unitsAt (place + 1)) * denominator < 2 * numerator ∨
            (unitsAt place + unitsAt (place + 1)) * denominator = 2 * numerator ∧
              place % 2 = 1)) := by
  obtain ⟨fits, normal⟩ := quotient_excessBits (numerator / denominator)
  have same : nearestIndex numerator denominator =
      excessBits (numerator / denominator) * 2 ^ 52 +
        divideEven numerator (denominator * 2 ^ excessBits (numerator / denominator)) := rfl
  generalize excessBits (numerator / denominator) = excess at fits normal same
  have divisor : 0 < denominator * 2 ^ excess := Nat.mul_pos positive (Nat.two_pow_pos excess)
  obtain ⟨below, atLeast, less, isQuotient, chosen⟩ := divideEven_cases numerator divisor
  rw [Nat.div_div_eq_div_mul, ← isQuotient] at fits normal
  -- The divisor of the significand is the spacing of the row.
  have regroup : ∀ count, count * 2 ^ excess * denominator = count * (denominator * 2 ^ excess) :=
    fun count => by rw [Nat.mul_assoc, Nat.mul_comm (2 ^ excess)]
  have lower : unitsAt (excess * 2 ^ 52 + below) = below * 2 ^ excess :=
    unitsAt_row (by omega) normal
  have upper : unitsAt (excess * 2 ^ 52 + below + 1) = (below + 1) * 2 ^ excess := by
    rw [Nat.add_assoc]
    exact unitsAt_row (by omega) (by omega)
  refine ⟨excess * 2 ^ 52 + below, ?_⟩
  rw [lower, upper, ← Nat.add_mul, regroup, regroup, regroup, same]
  refine ⟨atLeast, less, ?_⟩
  obtain ⟨isLower, near⟩ | ⟨isUpper, near⟩ := chosen
  · exact .inl ⟨by omega, near.imp_right fun tie => ⟨tie.1, by omega⟩⟩
  · exact .inr ⟨by omega, near.imp_right fun tie => ⟨tie.1, by omega⟩⟩

/-- The number of units in the middle between the last magnitude and the place behind it. -/
def overflowUnits : Nat := (2 ^ 1024 - 2 ^ 970) * unitsPerOne

/-- The last place is odd, and the middle between it and the next one is where numbers overflow. -/
theorem last_place : (magnitudeCount - 1) % 2 = 1 ∧
    unitsAt (magnitudeCount - 1) + unitsAt magnitudeCount = 2 * overflowUnits := by
  decide +kernel

/-- A quotient of units overflows if and only if it reaches the middle behind the last magnitude. -/
theorem nearest?_eq_none_iff_units (numerator : Nat) {denominator : Nat}
    (positive : 0 < denominator) :
    nearest? numerator denominator = none ↔ overflowUnits * denominator ≤ numerator := by
  obtain ⟨odd, middle⟩ := last_place
  have someLast : magnitudeCount - 1 + 1 = magnitudeCount := by decide
  have ascends : unitsAt (magnitudeCount - 1) < unitsAt magnitudeCount :=
    strictMono_unitsAt (by omega)
  have refused : nearest? numerator denominator = none ↔
      magnitudeCount ≤ nearestIndex numerator denominator := by
    unfold nearest?
    simp only [dite_eq_right_iff, reduceCtorEq, imp_false, Nat.not_lt]
  obtain ⟨place, atLeast, less, chosen⟩ := nearestIndex_cases numerator positive
  rw [refused]
  obtain before | rfl | behind := Nat.lt_trichotomy place (magnitudeCount - 1)
  · -- The quotient is below the last magnitude.
    have upTo : unitsAt (place + 1) ≤ unitsAt (magnitudeCount - 1) :=
      strictMono_unitsAt.monotone (by omega)
    have below := Nat.mul_le_mul_right denominator
      (show unitsAt (place + 1) ≤ overflowUnits by omega)
    omega
  · rw [someLast, middle, Nat.mul_assoc] at chosen
    omega
  · -- The quotient is at the place behind the last magnitude or farther.
    have onward : unitsAt magnitudeCount ≤ unitsAt place := strictMono_unitsAt.monotone (by omega)
    have above := Nat.mul_le_mul_right denominator (show overflowUnits ≤ unitsAt place by omega)
    omega

/-! ## Values -/

/-- The number that a quotient of units is. -/
def ratio (numerator denominator : Nat) : ℚ := numerator / denominator / unitsPerOne

/-- The value of the magnitude at a place. -/
def valueAt (index : Nat) : ℚ := ratio (unitsAt index) 1

/-- The exact value of a magnitude. -/
def value (magnitude : Magnitude) : ℚ := valueAt magnitude.index

/-- The magnitude is the one that a number is rounded to: no magnitude is nearer to the number, and
where another one is as near, this one has the even place. -/
structure IsNearest (magnitude : Magnitude) (number : ℚ) : Prop where
  /-- No magnitude is nearer. -/
  nearest : ∀ other : Magnitude, |number - magnitude.value| ≤ |number - other.value|
  /-- Of two magnitudes as near the even one is taken. -/
  even : ∀ other : Magnitude, other ≠ magnitude →
    |number - magnitude.value| = |number - other.value| → magnitude.index % 2 = 0

/-- The least number whose nearest double would be infinite: the middle between the last magnitude
and the power of two that would follow it. -/
def overflow : ℚ := 2 ^ 1024 - 2 ^ 970

/-- Quotients of units are compared by their cross products. -/
theorem ratio_le_ratio_iff {numerator denominator otherNumerator otherDenominator : Nat}
    (positive : 0 < denominator) (otherPositive : 0 < otherDenominator) :
    ratio numerator denominator ≤ ratio otherNumerator otherDenominator ↔
      numerator * otherDenominator ≤ otherNumerator * denominator := by
  have scale : (0 : ℚ) < unitsPerOne := Nat.cast_pos.mpr unitsPerOne_pos
  have divisor : (0 : ℚ) < denominator := Nat.cast_pos.mpr positive
  have otherDivisor : (0 : ℚ) < otherDenominator := Nat.cast_pos.mpr otherPositive
  unfold ratio
  rw [div_le_div_iff_of_pos_right scale, div_le_div_iff₀ divisor otherDivisor]
  exact_mod_cast Iff.rfl

/-- A sum of numbers of units is the sum of their values. -/
theorem ratio_add (first second denominator : Nat) :
    ratio (first + second) denominator = ratio first denominator + ratio second denominator := by
  unfold ratio
  rw [Nat.cast_add, add_div, add_div]

/-- The values of the places ascend. -/
theorem strictMono_valueAt : StrictMono valueAt := by
  intro first second less
  have units := strictMono_unitsAt less
  rw [valueAt, valueAt, ← not_le, ratio_le_ratio_iff Nat.one_pos Nat.one_pos]
  omega

/-- The value at a place, by the excess bits and the significand there. -/
theorem valueAt_row {excess significand : Nat} (fits : significand ≤ 2 ^ 53)
    (normal : excess = 0 ∨ 2 ^ 52 ≤ significand) :
    valueAt (excess * 2 ^ 52 + significand) = significand * 2 ^ ((excess : Int) - 1074) := by
  have natural : unitsPerOne = 2 ^ 1074 := by decide +kernel
  have perOne : (unitsPerOne : ℚ) = 2 ^ 1074 := by
    rw [natural, Nat.cast_pow, Nat.cast_ofNat]
  unfold valueAt ratio
  rw [unitsAt_row fits normal, perOne, Nat.cast_mul, Nat.cast_pow, Nat.cast_ofNat, Nat.cast_one,
    div_one, zpow_sub₀ two_ne_zero, zpow_natCast, zpow_ofNat, mul_div_assoc]

/-- Every number of 53 bits times a power of two in range is the value of a magnitude. -/
theorem exists_value_eq {excess significand : Nat} (inRange : excess ≤ 2045)
    (fits : significand < 2 ^ 53) :
    ∃ magnitude : Magnitude, magnitude.value = significand * 2 ^ ((excess : Int) - 1074) := by
  have count : magnitudeCount = 2047 * 2 ^ 52 := rfl
  induction excess generalizing significand with
  | zero =>
    have place : 0 * 2 ^ 52 + significand < magnitudeCount := by omega
    exact ⟨⟨_, place⟩, valueAt_row (Nat.le_of_lt fits) (.inl rfl)⟩
  | succ excess ih =>
    by_cases normal : 2 ^ 52 ≤ significand
    · have place : (excess + 1) * 2 ^ 52 + significand < magnitudeCount := by omega
      exact ⟨⟨_, place⟩, valueAt_row (Nat.le_of_lt fits) (.inr normal)⟩
    · -- A significand with less than 53 bits has room for one of the power's factors.
      have shorter : 2 * significand < 2 ^ 53 := by omega
      obtain ⟨magnitude, same⟩ := ih (by omega) shorter
      refine ⟨magnitude, same.trans ?_⟩
      have shift : ((excess + 1 : Nat) : Int) - 1074 = (excess : Int) - 1074 + 1 := by omega
      rw [shift, zpow_add_one₀ two_ne_zero, Nat.cast_mul, Nat.cast_ofNat]
      ring

/-- The values of the magnitudes are the numbers of 53 bits times the powers of two from 2^-1074 to
2^971. -/
theorem exists_value_iff {number : ℚ} :
    (∃ magnitude : Magnitude, magnitude.value = number) ↔
      ∃ (significand : Nat) (exponent : Int), significand < 2 ^ 53 ∧ -1074 ≤ exponent ∧
        exponent ≤ 971 ∧ number = significand * 2 ^ exponent := by
  constructor
  · rintro ⟨⟨index, inRange⟩, rfl⟩
    obtain ⟨excess, significand, rfl, fits, normal⟩ := exists_row index
    have count : magnitudeCount = 2047 * 2 ^ 52 := rfl
    exact ⟨significand, (excess : Int) - 1074, fits, by omega, by omega,
      valueAt_row (Nat.le_of_lt fits) normal⟩
  · rintro ⟨significand, exponent, fits, least, greatest, rfl⟩
    obtain ⟨excess, same⟩ := Int.eq_ofNat_of_zero_le (show 0 ≤ exponent + 1074 by omega)
    obtain ⟨magnitude, found⟩ := exists_value_eq (show excess ≤ 2045 by omega) fits
    have shift : (excess : Int) - 1074 = exponent := by omega
    exact ⟨magnitude, by rw [found, shift]⟩

/-- The least number that overflows is a natural number. -/
theorem overflow_eq_cast : overflow = ((2 ^ 1024 - 2 ^ 970 : Nat) : ℚ) := by
  have ascends : ∀ {low high : Nat}, low ≤ high → 2 ^ low ≤ 2 ^ high :=
    Nat.pow_le_pow_right Nat.two_pos
  have smaller : 970 ≤ 1024 := by decide
  unfold overflow
  rw [Nat.cast_sub (ascends smaller), Nat.cast_pow, Nat.cast_pow, Nat.cast_ofNat]

/-- Numbers overflow from the overflow units on. -/
theorem ratio_overflowUnits : ratio overflowUnits 1 = overflow := by
  have scale : (unitsPerOne : ℚ) ≠ 0 := Nat.cast_ne_zero.mpr (Nat.ne_of_gt unitsPerOne_pos)
  unfold ratio overflowUnits
  rw [Nat.cast_one, div_one, Nat.cast_mul, mul_div_cancel_right₀ _ scale, overflow_eq_cast]

/-- A magnitude is nearest if every other one is farther, or as far and it is the even one. -/
theorem IsNearest.of_closer {magnitude : Magnitude} {number : ℚ}
    (closer : ∀ other : Magnitude, other.index ≠ magnitude.index →
      |number - magnitude.value| < |number - other.value| ∨
        |number - magnitude.value| = |number - other.value| ∧ magnitude.index % 2 = 0) :
    magnitude.IsNearest number where
  nearest other := by
    by_cases same : other.index = magnitude.index
    · rw [eq_of_index_eq same]
    · exact (closer other same).elim le_of_lt fun tie => le_of_eq tie.1
  even other different tie :=
    (closer other fun same => different (eq_of_index_eq same)).elim
      (fun nearer => absurd tie (ne_of_lt nearer)) And.right

section Between

variable {number : ℚ} {place : Nat}

/-- The distance to a place below a number. -/
theorem distance_below (atLeast : valueAt place ≤ number) {index : Nat} (before : index ≤ place) :
    |number - valueAt index| = number - valueAt index := by
  have ordered := strictMono_valueAt.monotone before
  exact abs_of_nonneg (by linarith)

/-- The distance to a place above a number. -/
theorem distance_above (less : number < valueAt (place + 1)) {index : Nat}
    (behind : place + 1 ≤ index) : |number - valueAt index| = valueAt index - number := by
  have ordered := strictMono_valueAt.monotone behind
  rw [abs_of_nonpos (by linarith), neg_sub]

/-- The place below a number is nearest to it if the number is below the middle between its two
neighbours, or in the middle and the place is even. -/
theorem isNearest_below (atLeast : valueAt place ≤ number) (less : number < valueAt (place + 1))
    (near : 2 * number < valueAt place + valueAt (place + 1) ∨
      2 * number = valueAt place + valueAt (place + 1) ∧ place % 2 = 0)
    {magnitude : Magnitude} (isLower : magnitude.index = place) : magnitude.IsNearest number := by
  refine .of_closer fun other apart => ?_
  unfold value
  rw [isLower] at apart ⊢
  rw [distance_below atLeast (Nat.le_refl place)]
  obtain before | behind := Nat.lt_or_gt_of_ne apart
  · have ordered := strictMono_valueAt before
    rw [distance_below atLeast (Nat.le_of_lt before)]
    exact .inl (by linarith)
  · have ordered : valueAt (place + 1) ≤ valueAt other.index :=
      strictMono_valueAt.monotone behind
    rw [distance_above less behind]
    obtain nearer | ⟨tie, even⟩ := near
    · exact .inl (by linarith)
    · exact (lt_or_eq_of_le (by linarith)).imp_right fun same => ⟨same, even⟩

/-- The place above a number is nearest to it if the number is above the middle between its two
neighbours, or in the middle and the place below is odd. -/
theorem isNearest_above (atLeast : valueAt place ≤ number) (less : number < valueAt (place + 1))
    (near : valueAt place + valueAt (place + 1) < 2 * number ∨
      valueAt place + valueAt (place + 1) = 2 * number ∧ place % 2 = 1)
    {magnitude : Magnitude} (isUpper : magnitude.index = place + 1) :
    magnitude.IsNearest number := by
  refine .of_closer fun other apart => ?_
  unfold value
  rw [isUpper] at apart ⊢
  rw [distance_above less (Nat.le_refl (place + 1))]
  obtain before | behind := Nat.lt_or_gt_of_ne apart
  · have ordered : valueAt other.index ≤ valueAt place :=
      strictMono_valueAt.monotone (Nat.le_of_lt_succ before)
    rw [distance_below atLeast (Nat.le_of_lt_succ before)]
    obtain nearer | ⟨tie, odd⟩ := near
    · exact .inl (by linarith)
    · exact (lt_or_eq_of_le (by linarith)).imp_right fun same => ⟨same, by omega⟩
  · have ordered := strictMono_valueAt behind
    rw [distance_above less (Nat.le_of_lt behind)]
    exact .inl (by linarith)

end Between

/-- A number is not rounded to a magnitude and also to a greater one: if both were as near and even,
the place behind the first would be nearer. -/
theorem IsNearest.not_index_lt {first second : Magnitude} {number : ℚ}
    (firstNearest : first.IsNearest number) (secondNearest : second.IsNearest number) :
    ¬first.index < second.index := by
  intro less
  have different : second ≠ first := fun same => Nat.lt_irrefl first.index (by rwa [same] at less)
  have tie : |number - first.value| = |number - second.value| :=
    le_antisymm (firstNearest.nearest second) (secondNearest.nearest first)
  have firstEven := firstNearest.even second different tie
  have secondEven := secondNearest.even first different.symm tie.symm
  have between : first.index + 1 < second.index := by omega
  have inRange : first.index + 1 < magnitudeCount := Nat.lt_trans between second.index_lt
  have nearest : |number - valueAt first.index| ≤ |number - valueAt (first.index + 1)| :=
    firstNearest.nearest ⟨first.index + 1, inRange⟩
  have lower := strictMono_valueAt (Nat.lt_succ_self first.index)
  have upper := strictMono_valueAt between
  unfold value at tie
  have middle : number - valueAt first.index = -(number - valueAt second.index) := by
    obtain same | opposite := abs_eq_abs.mp tie
    · linarith
    · exact opposite
  have nearer : |number - valueAt (first.index + 1)| < number - valueAt first.index :=
    abs_lt.mpr ⟨by linarith, by linarith⟩
  exact absurd (lt_of_lt_of_le nearer (le_abs_self _)) (not_lt.mpr nearest)

/-- A number is rounded to one magnitude only. -/
theorem IsNearest.unique {first second : Magnitude} {number : ℚ}
    (firstNearest : first.IsNearest number) (secondNearest : second.IsNearest number) :
    first = second :=
  eq_of_index_eq (Nat.le_antisymm (Nat.not_lt.mp (secondNearest.not_index_lt firstNearest))
    (Nat.not_lt.mp (firstNearest.not_index_lt secondNearest)))

/-- The magnitude found for a quotient is the one that its value is rounded to. -/
theorem isNearest_of_nearest? {numerator denominator : Nat} {magnitude : Magnitude}
    (positive : 0 < denominator) (found : nearest? numerator denominator = some magnitude) :
    magnitude.IsNearest (ratio numerator denominator) := by
  have place : nearestIndex numerator denominator = magnitude.index := by
    unfold nearest? at found
    simp only [Option.dite_none_right_eq_some] at found
    obtain ⟨_, found⟩ := found
    rw [← Option.some.inj found]
  have doubled : 2 * ratio numerator denominator = ratio (2 * numerator) denominator := by
    rw [two_mul, Nat.two_mul, ratio_add]
  obtain ⟨below, atLeast, less, chosen⟩ := nearestIndex_cases numerator positive
  have middle : valueAt below + valueAt (below + 1) =
      ratio (unitsAt below + unitsAt (below + 1)) 1 := (ratio_add _ _ _).symm
  rw [place] at chosen
  have atLeastValue : valueAt below ≤ ratio numerator denominator := by
    rw [valueAt, ratio_le_ratio_iff Nat.one_pos positive]
    omega
  have lessValue : ratio numerator denominator < valueAt (below + 1) := by
    rw [valueAt, ← not_le, ratio_le_ratio_iff Nat.one_pos positive]
    omega
  obtain ⟨isLower, near⟩ | ⟨isUpper, near⟩ := chosen
  · refine isNearest_below atLeastValue lessValue ?_ isLower
    rw [doubled, middle]
    simp only [← not_le, le_antisymm_iff, ratio_le_ratio_iff Nat.one_pos positive,
      ratio_le_ratio_iff positive Nat.one_pos]
    omega
  · refine isNearest_above atLeastValue lessValue ?_ isUpper
    rw [doubled, middle]
    simp only [← not_le, le_antisymm_iff, ratio_le_ratio_iff Nat.one_pos positive,
      ratio_le_ratio_iff positive Nat.one_pos]
    omega

/-- A quotient overflows if and only if its value does. -/
theorem nearest?_eq_none_iff {numerator denominator : Nat} (positive : 0 < denominator) :
    nearest? numerator denominator = none ↔ overflow ≤ ratio numerator denominator := by
  rw [nearest?_eq_none_iff_units _ positive, ← ratio_overflowUnits,
    ratio_le_ratio_iff Nat.one_pos positive, Nat.mul_one]

/-- A quotient in range has the magnitude that its value is rounded to, and no other one. -/
theorem nearest?_eq_some_iff {numerator denominator : Nat} {magnitude : Magnitude}
    (positive : 0 < denominator) :
    nearest? numerator denominator = some magnitude ↔
      ratio numerator denominator < overflow ∧
        magnitude.IsNearest (ratio numerator denominator) := by
  rw [← not_le, ← nearest?_eq_none_iff positive]
  constructor
  · intro found
    rw [found]
    exact ⟨Option.some_ne_none magnitude, isNearest_of_nearest? positive found⟩
  · rintro ⟨inRange, nearest⟩
    obtain ⟨other, found⟩ := Option.ne_none_iff_exists'.mp inRange
    rw [found, (isNearest_of_nearest? positive found).unique nearest]

end Magnitude

namespace Decimal

/-- The exact value of a decimal. -/
def value (decimal : Decimal) : ℚ := decimal.digits * 10 ^ decimal.exponent

/-- The denominator of a decimal is a power of ten. -/
theorem denominator_pos (decimal : Decimal) : 0 < decimal.denominator := Nat.pow_pos (by decide)

/-- The numerator and the denominator of a decimal make up its value. -/
theorem ratio_eq_value (decimal : Decimal) :
    Magnitude.ratio decimal.numerator decimal.denominator = decimal.value := by
  have scale : (Magnitude.unitsPerOne : ℚ) ≠ 0 :=
    Nat.cast_ne_zero.mpr (Nat.ne_of_gt Magnitude.unitsPerOne_pos)
  obtain ⟨digits, exponent⟩ := decimal
  unfold Magnitude.ratio numerator denominator value
  simp only [Nat.pow_eq]
  rw [Nat.cast_mul, div_right_comm, mul_div_cancel_right₀ _ scale, Nat.cast_mul, Nat.cast_pow,
    Nat.cast_pow, Nat.cast_ofNat]
  obtain ⟨count, rfl | rfl⟩ := Int.eq_nat_or_neg exponent
  · rw [Int.toNat_natCast, Int.toNat_neg_natCast, pow_zero, div_one, zpow_natCast]
  · rw [Int.neg_neg, Int.toNat_natCast, Int.toNat_neg_natCast, pow_zero, mul_one, zpow_neg,
      zpow_natCast, div_eq_mul_inv]

/-- The magnitude of a decimal in range is the one that its value is rounded to. -/
theorem nearest?_eq_some_iff {decimal : Decimal} {magnitude : Magnitude} :
    decimal.nearest? = some magnitude ↔
      decimal.value < Magnitude.overflow ∧ magnitude.IsNearest decimal.value := by
  rw [nearest?, Magnitude.nearest?_eq_some_iff decimal.denominator_pos, ratio_eq_value]

/-- A decimal overflows if and only if its value does. -/
theorem nearest?_eq_none_iff {decimal : Decimal} :
    decimal.nearest? = none ↔ Magnitude.overflow ≤ decimal.value := by
  rw [nearest?, Magnitude.nearest?_eq_none_iff decimal.denominator_pos, ratio_eq_value]

end Decimal

end Calculator
