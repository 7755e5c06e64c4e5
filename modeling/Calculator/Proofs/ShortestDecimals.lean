import Calculator.Decimal.Shortest
import Calculator.Proofs.Numerals
import Calculator.Proofs.Rounding

/-!
# The shortest decimal of a magnitude

The numbers that are rounded to a magnitude have no gap. So on a grid of powers of ten that holds
one of them, a neighbour of the magnitude is one. The coarsest grid of these holds a decimal with
the fewest digits, since a decimal with fewer digits on a finer grid would be too small: a power of
ten, which is on a coarser grid, would lie between them.
-/

namespace Calculator

namespace Magnitude

/-- The number is in range and is rounded to the magnitude. -/
def Rounds (magnitude : Magnitude) (number : ℚ) : Prop :=
  number < overflow ∧ magnitude.IsNearest number

/-- On the way up a number comes nearer to a greater one rather than to a smaller one. -/
theorem abs_sub_sub_abs_sub_le {small great low high : ℚ} (less : small ≤ great)
    (upward : low ≤ high) :
    |high - great| - |high - small| ≤ |low - great| - |low - small| := by
  rcases abs_cases (high - great) with _ | _ <;> rcases abs_cases (high - small) with _ | _ <;>
    rcases abs_cases (low - great) with _ | _ <;> rcases abs_cases (low - small) with _ | _ <;>
    linarith

/-- Between two numbers that a magnitude is nearest to there is no other one. -/
theorem IsNearest.between {magnitude : Magnitude} {low middle high : ℚ}
    (lowNearest : magnitude.IsNearest low) (highNearest : magnitude.IsNearest high)
    (above : low ≤ middle) (below : middle ≤ high) : magnitude.IsNearest middle := by
  constructor
  · intro other
    have fromLow := lowNearest.nearest other
    have fromHigh := highNearest.nearest other
    obtain greater | less := le_total magnitude.value other.value
    · have compared := abs_sub_sub_abs_sub_le greater below
      linarith
    · have compared := abs_sub_sub_abs_sub_le less above
      linarith
  · intro other different tie
    have fromLow := lowNearest.nearest other
    have fromHigh := highNearest.nearest other
    obtain greater | less := le_total magnitude.value other.value
    · have compared := abs_sub_sub_abs_sub_le greater below
      exact highNearest.even other different (by linarith)
    · have compared := abs_sub_sub_abs_sub_le less above
      exact lowNearest.even other different (by linarith)

/-- Between two numbers that are rounded to a magnitude all are. -/
theorem Rounds.between {magnitude : Magnitude} {low middle high : ℚ}
    (lowRounds : magnitude.Rounds low) (highRounds : magnitude.Rounds high) (above : low ≤ middle)
    (below : middle ≤ high) : magnitude.Rounds middle :=
  ⟨lt_of_le_of_lt below highRounds.1, lowRounds.2.between highRounds.2 above below⟩

end Magnitude

namespace Decimal

/-- A decimal has the nearest magnitude that its value is rounded to. -/
theorem nearest?_eq_some_iff_rounds {decimal : Decimal} {magnitude : Magnitude} :
    decimal.nearest? = some magnitude ↔ magnitude.Rounds decimal.value := nearest?_eq_some_iff

/-- Decimals of the same value have the same nearest magnitude. -/
theorem nearest?_congr {decimal other : Decimal} (same : decimal.value = other.value) :
    decimal.nearest? = other.nearest? := by
  cases found : other.nearest? with
  | none => rwa [nearest?_eq_none_iff, same, ← nearest?_eq_none_iff]
  | some magnitude => rwa [nearest?_eq_some_iff, same, ← nearest?_eq_some_iff]

/-- A positive number lies between the powers of ten that its digits are counted by. -/
theorem pow_length_toDigits {number : Nat} (positive : number ≠ 0) :
    10 ^ ((Nat.toDigits 10 number).length - 1) ≤ number ∧
      number < 10 ^ (Nat.toDigits 10 number).length := by
  have someDigit : 0 < (Nat.toDigits 10 number).length := Nat.length_toDigits_pos
  refine ⟨?_, (Nat.length_toDigits_le_iff (by decide) someDigit).mp (Nat.le_refl _)⟩
  by_contra less
  by_cases single : (Nat.toDigits 10 number).length - 1 = 0
  · rw [single] at less
    exact less (Nat.one_le_iff_ne_zero.mpr positive)
  · have shorter := (Nat.length_toDigits_le_iff (by decide) (Nat.pos_of_ne_zero single)).mpr
      (Nat.not_le.mp less)
    omega

end Decimal

namespace Magnitude

/-- The exact value of a magnitude is rounded to it. -/
theorem rounds_value (magnitude : Magnitude) : magnitude.Rounds magnitude.value := by
  have found := magnitude.nearest?_units Nat.one_pos
  rw [nearest?_eq_some_iff Nat.one_pos, Nat.mul_one] at found
  exact found

/-- Zero is rounded to zero. -/
theorem rounds_zero : zero.Rounds 0 := by
  have value : zero.value = 0 := by
    have units : unitsAt 0 = 0 := rfl
    rw [Magnitude.value, valueAt, ratio, zero, units, Nat.cast_zero, zero_div, zero_div]
  rw [← value]
  exact zero.rounds_value

/-- A decimal reads back as a magnitude if its value is rounded to it. -/
theorem isReadFrom_iff {magnitude : Magnitude} {decimal : Decimal} :
    magnitude.isReadFrom decimal = true ↔ magnitude.Rounds decimal.value := by
  rw [← Decimal.nearest?_eq_some_iff_rounds, isReadFrom, beq_iff_eq, Decimal.nearest?, nearest?,
    Decimal.nearestIndex, Option.dite_none_right_eq_some]
  constructor
  · intro same
    exact ⟨same ▸ magnitude.index_lt, congrArg some (eq_of_index_eq same)⟩
  · rintro ⟨_, found⟩
    rw [← Option.some.inj found]

/-- The exact value of a magnitude is that of its exact decimal. -/
theorem value_exactNumber (magnitude : Magnitude) :
    Decimal.value ⟨magnitude.exactNumber, -(unitDigits : Int)⟩ = magnitude.value := by
  have scaled : ∀ count : Nat, ((magnitude.units * Nat.pow 5 count : Nat) : ℚ) *
      10 ^ (-(count : Int)) = magnitude.units / ((Nat.pow 2 count : Nat) : ℚ) := by
    intro count
    have ten : (10 : ℚ) ^ count = 5 ^ count * 2 ^ count := by
      rw [← mul_pow]
      norm_num
    have five : (5 : ℚ) ^ count ≠ 0 := pow_ne_zero _ (by norm_num)
    simp only [Nat.pow_eq]
    rw [zpow_neg, zpow_natCast, ten, Nat.cast_mul, Nat.cast_pow, Nat.cast_pow, Nat.cast_ofNat,
      Nat.cast_ofNat, ← div_eq_mul_inv, mul_comm ((5 : ℚ) ^ count), mul_div_mul_right _ _ five]
  have perOne : unitsPerOne = Nat.pow 2 unitDigits := by decide +kernel
  rw [Decimal.value, value, valueAt, ratio, Nat.cast_one, div_one, perOne]
  exact scaled unitDigits

/-! ## Grids -/

/-- Powers of ten are positive. -/
theorem ten_zpow_pos (exponent : Int) : (0 : ℚ) < 10 ^ exponent := zpow_pos (by norm_num) exponent

/-- The value at a place times the units in the number one is the number of units there. -/
theorem valueAt_mul (index : Nat) : valueAt index * unitsPerOne = unitsAt index := by
  have scale : (unitsPerOne : ℚ) ≠ 0 := Nat.cast_ne_zero.mpr (Nat.ne_of_gt unitsPerOne_pos)
  rw [valueAt, ratio, Nat.cast_one, div_one, div_mul_cancel₀ _ scale]

/-- A quotient in the scale of a grid is the value of the magnitude. -/
theorem value_eq_mul_zpow (magnitude : Magnitude) (exponent : Int) :
    magnitude.value * (unitsPerOne * Nat.pow 10 exponent.toNat : Nat) =
      (magnitude.units * Nat.pow 10 (-exponent).toNat : Nat) * 10 ^ exponent := by
  have units : magnitude.value * unitsPerOne = magnitude.units := valueAt_mul magnitude.index
  have tens : (10 : ℚ) ^ exponent.toNat = 10 ^ (-exponent).toNat * 10 ^ exponent := by
    rw [← zpow_natCast, ← zpow_natCast, ← zpow_add₀ (by norm_num)]
    congr 1
    omega
  simp only [Nat.pow_eq]
  rw [Nat.cast_mul, Nat.cast_mul, Nat.cast_pow, Nat.cast_pow, Nat.cast_ofNat, ← mul_assoc, units,
    tens, mul_assoc]

/-- The natural number that division to the nearest one takes is no farther from the quotient than
the other neighbour of the quotient is, in any scale. -/
theorem divideEven_nearer {numerator divisor : Nat} {number step : ℚ} (positive : 0 < divisor)
    (stepPositive : 0 < step) (scaled : number * divisor = numerator * step) :
    ∃ below nearer farther : Nat, below = numerator / divisor ∧
      nearer = divideEven numerator divisor ∧
      farther = (if nearer = below then below + 1 else below) ∧
      (nearer = below ∧ farther = below + 1 ∨ nearer = below + 1 ∧ farther = below) ∧
      below * step ≤ number ∧ number < (below + 1 : Nat) * step ∧
      |number - nearer * step| ≤ |number - farther * step| := by
  have divides : (0 : ℚ) < divisor := Nat.cast_pos.mpr positive
  have scaledTimes : ∀ times : Nat,
      ((times * numerator : Nat) : ℚ) * step = times * number * divisor := by
    intro times
    rw [mul_assoc, scaled, Nat.cast_mul, mul_assoc]
  have atMost : ∀ count times : Nat,
      count * divisor ≤ times * numerator → count * step ≤ times * number := by
    intro count times ordered
    rw [← mul_le_mul_iff_left₀ divides, ← scaledTimes, mul_right_comm]
    exact mul_le_mul_of_nonneg_right (by exact_mod_cast ordered) stepPositive.le
  have atLeast : ∀ count times : Nat,
      times * numerator ≤ count * divisor → times * number ≤ count * step := by
    intro count times ordered
    rw [← mul_le_mul_iff_left₀ divides, ← scaledTimes, mul_right_comm]
    exact mul_le_mul_of_nonneg_right (by exact_mod_cast ordered) stepPositive.le
  obtain ⟨below, lower, upper, isQuotient, chosen⟩ := divideEven_cases numerator positive
  have lowerValue : below * step ≤ number := by simpa using atMost below 1 (by omega)
  have upperValue : number < (below + 1 : Nat) * step := by
    rw [← mul_lt_mul_iff_left₀ divides, scaled, mul_right_comm]
    exact mul_lt_mul_of_pos_right (by exact_mod_cast upper) stepPositive
  have distances : |number - below * step| = number - below * step ∧
      |number - (below + 1 : Nat) * step| = (below + 1 : Nat) * step - number :=
    ⟨abs_of_nonneg (by linarith), by rw [abs_of_nonpos (by linarith), neg_sub]⟩
  obtain ⟨taken, near⟩ | ⟨taken, near⟩ := chosen
  · have half := atLeast (below + (below + 1)) 2 (by omega)
    refine ⟨below, below, below + 1, isQuotient, taken.symm, (if_pos rfl).symm, .inl ⟨rfl, rfl⟩,
      lowerValue, upperValue, ?_⟩
    rw [distances.1, distances.2]
    push_cast at half ⊢
    linarith
  · have half := atMost (below + (below + 1)) 2 (by omega)
    refine ⟨below, below + 1, below, isQuotient, taken.symm, (if_neg (by omega)).symm,
      .inr ⟨rfl, rfl⟩, lowerValue, upperValue, ?_⟩
    rw [distances.1, distances.2]
    push_cast at half ⊢
    linarith

/-- The two points of a grid next to a magnitude: what is taken is the nearer one if it reads back,
and otherwise the farther one if that does. -/
theorem onGrid?_eq (magnitude : Magnitude) (exponent : Int) :
    ∃ below nearer farther : Nat,
      magnitude.onGrid? exponent =
        (if magnitude.isReadFrom ⟨nearer, exponent⟩ then some ⟨nearer, exponent⟩
        else if magnitude.isReadFrom ⟨farther, exponent⟩ then some ⟨farther, exponent⟩
        else none) ∧
      (nearer = below ∧ farther = below + 1 ∨ nearer = below + 1 ∧ farther = below) ∧
      below * 10 ^ exponent ≤ magnitude.value ∧
      magnitude.value < (below + 1 : Nat) * 10 ^ exponent ∧
      |magnitude.value - nearer * 10 ^ exponent| ≤ |magnitude.value - farther * 10 ^ exponent| := by
  have positive : 0 < unitsPerOne * Nat.pow 10 exponent.toNat :=
    Nat.mul_pos unitsPerOne_pos (Nat.pow_pos (by decide))
  obtain ⟨below, nearer, farther, isBelow, isNearer, isFarther, neighbours, atLeast, less, near⟩ :=
    divideEven_nearer positive (ten_zpow_pos exponent) (magnitude.value_eq_mul_zpow exponent)
  refine ⟨below, nearer, farther, ?_, neighbours, atLeast, less, near⟩
  rw [isFarther, isBelow, isNearer]
  rfl

/-- What is found on a grid is rounded to the magnitude, and it is the nearest point of the grid
that is. Where nothing is found, there is no such point. -/
theorem onGrid?_spec (magnitude : Magnitude) (exponent : Int) :
    (∃ count : Nat, magnitude.onGrid? exponent = some ⟨count, exponent⟩ ∧
      magnitude.Rounds (count * 10 ^ exponent) ∧
      ∀ other : Nat, magnitude.Rounds (other * 10 ^ exponent) →
        |magnitude.value - count * 10 ^ exponent| ≤ |magnitude.value - other * 10 ^ exponent|) ∨
    magnitude.onGrid? exponent = none ∧
      ∀ other : Nat, ¬magnitude.Rounds (other * 10 ^ exponent) := by
  obtain ⟨below, nearer, farther, found, neighbours, atLeast, less, near⟩ :=
    magnitude.onGrid?_eq exponent
  have step := ten_zpow_pos exponent
  have itself := magnitude.rounds_value
  -- A point that is rounded to the magnitude is no nearer than the neighbour on its side, which is
  -- rounded to the magnitude, too.
  have onSide : ∀ other : Nat, magnitude.Rounds (other * 10 ^ exponent) →
      ∃ neighbour : Nat, (neighbour = nearer ∨ neighbour = farther) ∧
        magnitude.Rounds (neighbour * 10 ^ exponent) ∧
        |magnitude.value - neighbour * 10 ^ exponent| ≤
          |magnitude.value - other * 10 ^ exponent| := by
    intro other rounds
    obtain before | behind := Nat.lt_or_ge below other
    · have ordered : ((below + 1 : Nat) : ℚ) * 10 ^ exponent ≤ other * 10 ^ exponent :=
        mul_le_mul_of_nonneg_right (by exact_mod_cast before) step.le
      refine ⟨below + 1, by omega, itself.between rounds less.le ordered, ?_⟩
      rw [abs_of_nonpos (by linarith), abs_of_nonpos (by linarith)]
      linarith
    · have ordered : (other : ℚ) * 10 ^ exponent ≤ below * 10 ^ exponent :=
        mul_le_mul_of_nonneg_right (by exact_mod_cast behind) step.le
      refine ⟨below, by omega, rounds.between itself ordered atLeast, ?_⟩
      rw [abs_of_nonneg (by linarith), abs_of_nonneg (by linarith)]
      linarith
  have readsBack : ∀ count : Nat, magnitude.isReadFrom ⟨count, exponent⟩ = true ↔
      magnitude.Rounds (count * 10 ^ exponent) := fun count => isReadFrom_iff
  rw [found]
  by_cases nearerRounds : magnitude.Rounds (nearer * 10 ^ exponent)
  · refine .inl ⟨nearer, if_pos ((readsBack nearer).mpr nearerRounds), nearerRounds, ?_⟩
    intro other rounds
    obtain ⟨_, rfl | rfl, _, closer⟩ := onSide other rounds
    · exact closer
    · exact near.trans closer
  · rw [if_neg (mt (readsBack nearer).mp nearerRounds)]
    by_cases fartherRounds : magnitude.Rounds (farther * 10 ^ exponent)
    · refine .inl ⟨farther, if_pos ((readsBack farther).mpr fartherRounds), fartherRounds, ?_⟩
      intro other rounds
      obtain ⟨_, rfl | rfl, neighbourRounds, closer⟩ := onSide other rounds
      · exact absurd neighbourRounds nearerRounds
      · exact closer
    · refine .inr ⟨if_neg (mt (readsBack farther).mp fartherRounds), fun other rounds => ?_⟩
      obtain ⟨_, rfl | rfl, neighbourRounds, _⟩ := onSide other rounds
      · exact nearerRounds neighbourRounds
      · exact fartherRounds neighbourRounds

/-! ## The coarsest grid -/

/-- The decimal that is found from a grid on is rounded to the magnitude, it is the nearest one on
its own grid that is, and no grid between the two holds another one. -/
theorem shortestFrom_spec (magnitude : Magnitude) (place : Nat) :
    magnitude.Rounds (magnitude.shortestFrom place).value ∧
      (∀ count : Nat,
        magnitude.Rounds (count * 10 ^ (magnitude.shortestFrom place).exponent) →
          |magnitude.value - (magnitude.shortestFrom place).value| ≤
            |magnitude.value - count * 10 ^ (magnitude.shortestFrom place).exponent|) ∧
      ∀ (count : Nat) (exponent : Int), exponent ≤ place - 1074 →
        magnitude.Rounds (count * 10 ^ exponent) →
          exponent ≤ (magnitude.shortestFrom place).exponent := by
  induction place with
  | zero =>
    have digits : unitDigits = 1074 := rfl
    have last : (-1074 : Int) = -(unitDigits : Int) := by omega
    have exact : magnitude.shortestFrom 0 = ⟨magnitude.exactNumber, -(unitDigits : Int)⟩ := by
      rw [shortestFrom, last, ← digits, exactNumber]
    rw [exact, value_exactNumber]
    refine ⟨magnitude.rounds_value, fun count _ => ?_, fun count exponent limit _ => ?_⟩
    · rw [sub_self, abs_zero]
      exact abs_nonneg _
    · simp only
      omega
  | succ place ih =>
    rw [shortestFrom]
    obtain ⟨count, found, rounds, nearest⟩ | ⟨found, nothing⟩ :=
      magnitude.onGrid?_spec ((place + 1 : Nat) - 1074)
    · rw [found, Option.getD_some]
      exact ⟨rounds, nearest, fun _ _ limit _ => limit⟩
    · rw [found, Option.getD_none]
      refine ⟨ih.1, ih.2.1, fun count exponent limit rounds => ih.2.2 count exponent ?_ rounds⟩
      have other : exponent ≠ (place + 1 : Nat) - 1074 := by
        rintro rfl
        exact nothing count rounds
      omega

/-- A power of two is below a power of ten if its exponent is by a factor that is a little greater
than the logarithm of two to the base ten, or a little less for negative exponents. -/
theorem two_zpow_le_ten_zpow {power exponent : Int}
    (smaller : 0 ≤ power ∧ 28 * power ≤ 93 * exponent ∨
      power ≤ 0 ∧ 59 * power ≤ 196 * exponent) : (2 : ℚ) ^ power ≤ 10 ^ exponent := by
  have ascends : ∀ {low high : Int}, low ≤ high → (10 : ℚ) ^ low ≤ 10 ^ high :=
    fun ordered => zpow_le_zpow_right₀ (by norm_num) ordered
  have nonneg : (0 : ℚ) ≤ 2 ^ power := (zpow_pos (by norm_num) power).le
  obtain ⟨positive, ordered⟩ | ⟨negative, ordered⟩ := smaller
  · rw [← pow_le_pow_iff_left₀ nonneg (ten_zpow_pos exponent).le (show 93 ≠ 0 by decide)]
    have compared : (2 : ℚ) ^ (93 : Int) ≤ 10 ^ (28 : Int) := by norm_num
    calc ((2 : ℚ) ^ power) ^ 93 = (2 ^ (93 : Int)) ^ power := by
          rw [← zpow_natCast, zpow_comm]
          rfl
      _ ≤ (10 ^ (28 : Int)) ^ power := zpow_le_zpow_left₀ positive (by norm_num) compared
      _ = 10 ^ (28 * power) := by rw [← zpow_mul]
      _ ≤ 10 ^ (93 * exponent) := ascends ordered
      _ = (10 ^ exponent) ^ 93 := by
          rw [← zpow_natCast, ← zpow_mul, mul_comm]
          rfl
  · rw [← pow_le_pow_iff_left₀ nonneg (ten_zpow_pos exponent).le (show 196 ≠ 0 by decide)]
    have compared : (10 : ℚ) ^ (59 : Int) ≤ 2 ^ (196 : Int) := by norm_num
    have inverse : ((10 : ℚ) ^ (59 : Int)) ^ (-power) ≤ (2 ^ (196 : Int)) ^ (-power) :=
      zpow_le_zpow_left₀ (by omega) (by norm_num) compared
    calc ((2 : ℚ) ^ power) ^ 196 = (2 ^ (196 : Int)) ^ power := by
          rw [← zpow_natCast, zpow_comm]
          rfl
      _ ≤ (10 ^ (59 : Int)) ^ power := by
          rw [zpow_neg, zpow_neg] at inverse
          exact (inv_le_inv₀ (zpow_pos (by norm_num) _) (zpow_pos (by norm_num) _)).mp inverse
      _ = 10 ^ (59 * power) := by rw [← zpow_mul]
      _ ≤ 10 ^ (196 * exponent) := ascends ordered
      _ = (10 ^ exponent) ^ 196 := by
          rw [← zpow_natCast, ← zpow_mul, mul_comm]
          rfl

/-- Every place is in a row with the next one, with the same spacing. -/
theorem exists_row_succ (index : Nat) :
    ∃ excess significand, index = excess * 2 ^ 52 + significand ∧ significand < 2 ^ 53 ∧
      (excess = 0 ∨ 2 ^ 52 ≤ significand) ∧ unitsAt index = significand * 2 ^ excess ∧
      unitsAt (index + 1) = (significand + 1) * 2 ^ excess := by
  obtain ⟨excess, significand, rfl, fits, normal⟩ := exists_row index
  refine ⟨excess, significand, rfl, fits, normal, unitsAt_row (Nat.le_of_lt fits) normal, ?_⟩
  rw [Nat.add_assoc]
  exact unitsAt_row (by omega) (by omega)

/-- A positive magnitude is at least half as great as the one at the next place. -/
theorem unitsAt_succ_le {index : Nat} (positive : index ≠ 0) :
    unitsAt (index + 1) ≤ 2 * unitsAt index := by
  obtain ⟨excess, significand, isIndex, _, _, first, second⟩ := exists_row_succ index
  rw [first, second, ← Nat.mul_assoc]
  exact Nat.mul_le_mul_right _ (by omega)

/-- A number that is rounded to a magnitude is not above the middle to the next place. -/
theorem Rounds.two_mul_le {magnitude : Magnitude} {number : ℚ} (rounds : magnitude.Rounds number) :
    2 * number ≤ valueAt magnitude.index + valueAt (magnitude.index + 1) := by
  obtain ⟨inRange, nearest⟩ := rounds
  by_cases isNext : magnitude.index + 1 < magnitudeCount
  · have closer := nearest.nearest ⟨magnitude.index + 1, isNext⟩
    have ascends := strictMono_valueAt (Nat.lt_succ_self magnitude.index)
    unfold value at closer
    simp only at closer
    rcases abs_cases (number - valueAt magnitude.index) with _ | _ <;>
      rcases abs_cases (number - valueAt (magnitude.index + 1)) with _ | _ <;> linarith
  · have isLast : magnitude.index = magnitudeCount - 1 := by
      have bounded := magnitude.index_lt
      omega
    have someLast : magnitudeCount - 1 + 1 = magnitudeCount := by decide
    have middle : valueAt (magnitudeCount - 1) + valueAt magnitudeCount = 2 * overflow := by
      rw [valueAt, valueAt, ← ratio_add, last_place.2, Nat.two_mul, ratio_add, ratio_overflowUnits,
        two_mul]
    rw [isLast, someLast, middle]
    linarith

/-- A number that is rounded to a positive magnitude is less than twice as great, and so it has at
most one bit more. -/
theorem Rounds.lt_two_zpow {magnitude : Magnitude} {number : ℚ} (positive : magnitude.index ≠ 0)
    (rounds : magnitude.Rounds number) : number < 2 ^ ((magnitude.units.log2 : Int) - 1072) := by
  obtain ⟨count, isCount, natural⟩ : ∃ count, count = 1074 ∧ unitsPerOne = 2 ^ count :=
    ⟨1074, rfl, by decide +kernel⟩
  have scale : (0 : ℚ) < unitsPerOne := Nat.cast_pos.mpr unitsPerOne_pos
  have middle := rounds.two_mul_le
  have next : valueAt (magnitude.index + 1) ≤ 2 * valueAt magnitude.index := by
    rw [valueAt, valueAt, two_mul, ← ratio_add, ratio_le_ratio_iff Nat.one_pos Nat.one_pos,
      ← Nat.two_mul, Nat.mul_one, Nat.mul_one]
    exact unitsAt_succ_le positive
  have nonneg : 0 ≤ valueAt magnitude.index :=
    div_nonneg (div_nonneg (Nat.cast_nonneg _) (Nat.cast_nonneg _)) (Nat.cast_nonneg _)
  have bits : (magnitude.units : ℚ) < 2 ^ (magnitude.units.log2 + 1) := by
    exact_mod_cast Nat.lt_log2_self
  have exponents : (2 : ℚ) ^ ((magnitude.units.log2 : Int) - 1072) * unitsPerOne =
      2 * 2 ^ (magnitude.units.log2 + 1) := by
    have sum : (magnitude.units.log2 : Int) - 1072 + count =
        1 + ((magnitude.units.log2 + 1 : Nat) : Int) := by omega
    rw [natural, Nat.cast_pow, Nat.cast_ofNat, ← zpow_natCast, ← zpow_natCast,
      ← zpow_add₀ two_ne_zero, ← zpow_one_add₀ two_ne_zero, sum]
  have below : 2 * valueAt magnitude.index < 2 ^ ((magnitude.units.log2 : Int) - 1072) := by
    have same : valueAt magnitude.index * unitsPerOne = magnitude.units := valueAt_mul _
    rw [← mul_lt_mul_iff_left₀ scale, exponents, mul_assoc, same]
    linarith
  linarith

/-- A magnitude has no more bits than the least number of units that overflows. -/
theorem log2_units_lt (magnitude : Magnitude) : magnitude.units.log2 < 2098 := by
  have ascends : magnitude.units ≤ unitsAt (magnitudeCount - 1) :=
    strictMono_unitsAt.monotone (Nat.le_sub_one_of_lt magnitude.index_lt)
  obtain ⟨bits, isBits, last⟩ : ∃ bits, bits = 2098 ∧ unitsAt (magnitudeCount - 1) < 2 ^ bits :=
    ⟨2098, rfl, by decide +kernel⟩
  rw [← isBits]
  by_cases nothing : magnitude.units = 0
  · rw [nothing, isBits]
    decide
  · exact (Nat.log2_lt nothing).mpr (Nat.lt_of_le_of_lt ascends last)

/-- Zero is not rounded to a positive magnitude. -/
theorem Rounds.count_ne_zero {magnitude : Magnitude} (positive : magnitude.index ≠ 0) {count : Nat}
    {exponent : Int} (rounds : magnitude.Rounds (count * 10 ^ exponent)) : count ≠ 0 := by
  rintro rfl
  rw [Nat.cast_zero, zero_mul] at rounds
  have isZero := rounds.2.unique rounds_zero.2
  exact positive (by rw [isZero]; rfl)

/-- The grids from which the search for the shortest decimal starts are coarse enough: none above
holds a number that is rounded to the magnitude. -/
theorem exponent_le_shortest {magnitude : Magnitude} (positive : magnitude.index ≠ 0) {count : Nat}
    {exponent : Int} (rounds : magnitude.Rounds (count * 10 ^ exponent)) :
    exponent ≤ magnitude.shortest.exponent := by
  have someCount := rounds.count_ne_zero positive
  have least : (10 : ℚ) ^ exponent ≤ count * 10 ^ exponent := by
    have one : (1 : ℚ) ≤ count := by exact_mod_cast Nat.one_le_iff_ne_zero.mpr someCount
    exact le_mul_of_one_le_left (ten_zpow_pos exponent).le one
  have few := magnitude.log2_units_lt
  have bounded : (2 : ℚ) ^ ((magnitude.units.log2 : Int) - 1072) ≤
      10 ^ (magnitude.decimalTop + 1) := by
    apply two_zpow_le_ten_zpow
    unfold decimalTop
    omega
  have less : (10 : ℚ) ^ exponent < 10 ^ (magnitude.decimalTop + 1) :=
    lt_of_le_of_lt least (lt_of_lt_of_le (rounds.lt_two_zpow positive) bounded)
  have onTop : exponent < magnitude.decimalTop + 1 :=
    (zpow_lt_zpow_iff_right₀ (by norm_num)).mp less
  exact (magnitude.shortestFrom_spec _).2.2 count exponent (by omega) rounds

/-- The shortest decimal is rounded to its magnitude. -/
theorem rounds_shortest (magnitude : Magnitude) : magnitude.Rounds magnitude.shortest.value :=
  (magnitude.shortestFrom_spec _).1

/-- The shortest decimal of a positive magnitude is positive. -/
theorem shortest_digits_ne_zero {magnitude : Magnitude} (positive : magnitude.index ≠ 0) :
    magnitude.shortest.digits ≠ 0 :=
  shortestFrom_digits_ne_zero positive _

/-- A power of ten with no more digits than the shortest decimal is rounded to the magnitude if
another such number is not above it on the grid of the shortest decimal. -/
theorem Rounds.power {magnitude : Magnitude} {number : ℚ} {digits : Nat}
    (rounds : magnitude.Rounds number)
    (above : number ≤ 10 ^ digits * 10 ^ magnitude.shortest.exponent)
    (least : 10 ^ digits ≤ magnitude.shortest.digits) :
    magnitude.Rounds (10 ^ digits * 10 ^ magnitude.shortest.exponent) :=
  rounds.between magnitude.rounds_shortest above
    (mul_le_mul_of_nonneg_right (by exact_mod_cast least) (ten_zpow_pos _).le)

/-- Only a power of ten that is the first point of the grid can be so, since the others are on a
coarser grid. -/
theorem Rounds.power_eq_one {magnitude : Magnitude} (positive : magnitude.index ≠ 0) {digits : Nat}
    (rounds : magnitude.Rounds (10 ^ digits * 10 ^ magnitude.shortest.exponent)) : digits = 0 := by
  have onCoarser : magnitude.Rounds
      ((1 : Nat) * 10 ^ ((digits : Int) + magnitude.shortest.exponent)) := by
    rwa [Nat.cast_one, one_mul, zpow_add₀ (by norm_num), zpow_natCast]
  have finer := exponent_le_shortest positive onCoarser
  omega

/-- No decimal that is rounded to the magnitude has fewer digits than the shortest one. -/
theorem length_shortest_le {magnitude : Magnitude} (positive : magnitude.index ≠ 0)
    {count digits : Nat} {exponent : Int} (few : count < 10 ^ digits)
    (rounds : magnitude.Rounds (count * 10 ^ exponent)) :
    (Nat.toDigits 10 magnitude.shortest.digits).length ≤ digits := by
  by_contra fewer
  have someDigit : 0 < digits := by
    have someCount := rounds.count_ne_zero positive
    by_contra none
    obtain rfl : digits = 0 := by omega
    omega
  have least : 10 ^ digits ≤ magnitude.shortest.digits := by
    rwa [Nat.length_toDigits_le_iff (by decide) someDigit, Nat.not_lt] at fewer
  have finer := exponent_le_shortest positive rounds
  have above : count * 10 ^ exponent ≤ (10 : ℚ) ^ digits * 10 ^ magnitude.shortest.exponent :=
    mul_le_mul (by exact_mod_cast few.le) (zpow_le_zpow_right₀ (by norm_num) finer)
      (ten_zpow_pos _).le (by positivity)
  have noCoarser := (rounds.power above least).power_eq_one positive
  omega

/-! ## The nearest of the shortest decimals -/

/-- The spacing at most doubles from one place to the next. -/
theorem unitsAt_add_two_le (index : Nat) :
    unitsAt (index + 2) + 2 * unitsAt index ≤ 3 * unitsAt (index + 1) := by
  obtain ⟨excess, significand, rfl, fits, normal, first, second⟩ := exists_row_succ index
  have third : unitsAt (excess * 2 ^ 52 + significand + 2) ≤ (significand + 3) * 2 ^ excess := by
    by_cases full : significand + 1 = 2 ^ 53
    · have nextRow : excess * 2 ^ 52 + significand + 2 = (excess + 1) * 2 ^ 52 + (2 ^ 52 + 1) := by
        omega
      have doubled : 2 ^ (excess + 1) = 2 * 2 ^ excess := pow_succ' 2 excess
      rw [nextRow, unitsAt_row (by omega) (by omega), doubled, ← Nat.mul_assoc]
      exact Nat.mul_le_mul_right _ (by omega)
    · rw [Nat.add_assoc, unitsAt_row (by omega) (by omega)]
      exact Nat.mul_le_mul_right _ (by omega)
  rw [first, second]
  calc unitsAt (excess * 2 ^ 52 + significand + 2) + 2 * (significand * 2 ^ excess)
      ≤ (significand + 3) * 2 ^ excess + 2 * (significand * 2 ^ excess) :=
        Nat.add_le_add_right third _
    _ = 3 * ((significand + 1) * 2 ^ excess) := by ring

/-- A number that is rounded to a positive magnitude is not below the middle to the place before. -/
theorem Rounds.le_two_mul {magnitude : Magnitude} {number : ℚ} {before : Nat}
    (isBefore : magnitude.index = before + 1) (rounds : magnitude.Rounds number) :
    valueAt before + valueAt magnitude.index ≤ 2 * number := by
  have inRange := magnitude.index_lt
  have closer := rounds.2.nearest ⟨before, by omega⟩
  have ascends := strictMono_valueAt (show before < magnitude.index by omega)
  unfold value at closer
  simp only at closer
  rcases abs_cases (number - valueAt magnitude.index) with _ | _ <;>
    rcases abs_cases (number - valueAt before) with _ | _ <;> linarith

/-- Only the least magnitudes have numbers rounded to them of which one is by a tenth less than the
other. -/
theorem index_le_of_wide {before : Nat}
    (wide : 10 * (valueAt before + valueAt (before + 1)) ≤
      9 * (valueAt (before + 1) + valueAt (before + 2))) : before ≤ 13 := by
  have scale : (0 : ℚ) < unitsPerOne := Nat.cast_pos.mpr unitsPerOne_pos
  have units : 10 * (unitsAt before + unitsAt (before + 1)) ≤
      9 * (unitsAt (before + 1) + unitsAt (before + 2)) := by
    have scaled := mul_le_mul_of_nonneg_right wide scale.le
    simp only [mul_assoc, add_mul, valueAt_mul] at scaled
    exact_mod_cast scaled
  have spacing := unitsAt_add_two_le before
  obtain ⟨excess, significand, rfl, fits, normal, first, second⟩ := exists_row_succ before
  have bounded : 28 * significand * 2 ^ excess ≤ 26 * (significand + 1) * 2 ^ excess := by
    rw [Nat.mul_assoc, Nat.mul_assoc]
    omega
  have few := Nat.le_of_mul_le_mul_right bounded (Nat.two_pow_pos excess)
  omega

/-- A power of ten that is greater than one of the least positive magnitudes, but not by more than
half a unit, is 10^-323, which is a little more than two units. -/
theorem zpow_between_units {units : Nat} {exponent : Int} (positive : units ≠ 0) (few : units ≤ 14)
    (above : units < (10 : ℚ) ^ exponent * unitsPerOne)
    (near : 2 * ((10 : ℚ) ^ exponent * unitsPerOne) ≤ 2 * units + 1) :
    units = 2 ∧ 19 * ((10 : ℚ) ^ exponent * unitsPerOne) ≤ 40 := by
  obtain ⟨shift, least, greatest⟩ :
      ∃ shift, 2 * 10 ^ shift < unitsPerOne ∧ 19 * unitsPerOne ≤ 40 * 10 ^ shift :=
    ⟨323, by decide +kernel, by decide +kernel⟩
  have scale : (0 : ℚ) < unitsPerOne := Nat.cast_pos.mpr unitsPerOne_pos
  have power : (0 : ℚ) < 10 ^ shift := pow_pos (by norm_num) shift
  have one : (10 : ℚ) ^ (-(shift : Int)) * 10 ^ shift = 1 := by
    rw [zpow_neg, zpow_natCast, inv_mul_cancel₀ power.ne']
  have most : 19 * ((10 : ℚ) ^ (-(shift : Int)) * unitsPerOne) ≤ 40 := by
    rw [← mul_le_mul_iff_left₀ power]
    have cast : (19 : ℚ) * unitsPerOne ≤ 40 * 10 ^ shift := by exact_mod_cast greatest
    calc 19 * ((10 : ℚ) ^ (-(shift : Int)) * unitsPerOne) * 10 ^ shift
        = 19 * unitsPerOne * (10 ^ (-(shift : Int)) * 10 ^ shift) := by ring
      _ ≤ 40 * 10 ^ shift := by rwa [one, mul_one]
  have more : 2 < (10 : ℚ) ^ (-(shift : Int)) * unitsPerOne := by
    rw [← mul_lt_mul_iff_left₀ power]
    have cast : (2 : ℚ) * 10 ^ shift < unitsPerOne := by exact_mod_cast least
    calc (2 : ℚ) * 10 ^ shift < unitsPerOne * (10 ^ (-(shift : Int)) * 10 ^ shift) := by
          rwa [one, mul_one]
      _ = 10 ^ (-(shift : Int)) * unitsPerOne * 10 ^ shift := by ring
  have someUnit : (1 : ℚ) ≤ units := by exact_mod_cast Nat.one_le_iff_ne_zero.mpr positive
  have fewUnits : (units : ℚ) ≤ 14 := by exact_mod_cast few
  have ascends : ∀ {low high : Int}, low ≤ high →
      (10 : ℚ) ^ low * unitsPerOne ≤ 10 ^ high * unitsPerOne := fun ordered =>
    mul_le_mul_of_nonneg_right (zpow_le_zpow_right₀ (by norm_num) ordered) scale.le
  obtain smaller | rfl | greater := lt_trichotomy exponent (-shift)
  · -- The power of ten is less than one unit.
    have tenth : (10 : ℚ) ^ (-(shift : Int)) = 10 ^ (-(shift : Int) - 1) * 10 := by
      rw [← zpow_add_one₀ (by norm_num), sub_add_cancel]
    have bounded := ascends (show exponent ≤ -(shift : Int) - 1 by omega)
    rw [tenth] at most
    linarith
  · have twoUnits : 1 < units ∧ units < 3 := by
      constructor
      · have cast : (1 : ℚ) < units := by linarith
        exact_mod_cast cast
      · have cast : (units : ℚ) < 3 := by linarith
        exact_mod_cast cast
    exact ⟨by omega, most⟩
  · -- The power of ten is more than twenty units.
    have tenfold : (10 : ℚ) ^ (-(shift : Int) + 1) = 10 ^ (-(shift : Int)) * 10 :=
      zpow_add_one₀ (by norm_num) _
    have bounded := ascends (show -(shift : Int) + 1 ≤ exponent by omega)
    rw [tenfold] at bounded
    linarith

/-- Of a power of ten and a number that is by at least a tenth less, both rounded to one magnitude,
the power of ten is nearer to it. There is one such magnitude only, of two units. -/
theorem zpow_nearer {magnitude : Magnitude} (positive : magnitude.index ≠ 0) {number : ℚ}
    {exponent : Int} (rounds : magnitude.Rounds number)
    (powerRounds : magnitude.Rounds (10 ^ exponent)) (less : 10 * number ≤ 9 * 10 ^ exponent) :
    |magnitude.value - 10 ^ exponent| ≤ |magnitude.value - number| := by
  have power := ten_zpow_pos exponent
  obtain behind | before := le_or_gt (10 ^ exponent) magnitude.value
  · rw [abs_of_nonneg (by linarith), abs_of_nonneg (by linarith)]
    linarith
  · obtain ⟨place, isPlace⟩ := Nat.exists_eq_add_one_of_ne_zero positive
    have scale : (0 : ℚ) < unitsPerOne := Nat.cast_pos.mpr unitsPerOne_pos
    have lower := rounds.le_two_mul isPlace
    have upper := powerRounds.two_mul_le
    rw [value, isPlace] at before ⊢
    rw [isPlace] at lower upper
    have few : place ≤ 13 := index_le_of_wide (by linarith)
    have small : ∀ index, index ≤ 15 → valueAt index * unitsPerOne = index := by
      intro index bounded
      have exactUnits : unitsAt index = index := if_pos (Nat.lt_of_le_of_lt bounded (by decide))
      rw [valueAt_mul, exactUnits]
    have here := small (place + 1) (by omega)
    have next := small (place + 1 + 1) (by omega)
    have aboveUnits := mul_lt_mul_of_pos_right before scale
    have nearUnits := mul_le_mul_of_nonneg_right upper scale.le
    rw [here] at aboveUnits
    rw [add_mul, here, next, mul_assoc] at nearUnits
    push_cast at nearUnits
    obtain ⟨two, bounded⟩ := zpow_between_units (by omega) (by omega) aboveUnits
      (by push_cast; linarith)
    have middle : 19 * (10 : ℚ) ^ exponent ≤ 20 * valueAt (place + 1) := by
      rw [← mul_le_mul_iff_left₀ scale, mul_assoc, mul_assoc, here, two,
        Nat.cast_ofNat]
      linarith
    rw [abs_of_nonpos (by linarith), abs_of_nonneg (by linarith)]
    linarith

/-- No decimal with as few digits as the shortest one that is rounded to the magnitude is nearer
to it. -/
theorem shortest_nearest {magnitude : Magnitude} (positive : magnitude.index ≠ 0)
    {count : Nat} {exponent : Int}
    (few : count < 10 ^ (Nat.toDigits 10 magnitude.shortest.digits).length)
    (rounds : magnitude.Rounds (count * 10 ^ exponent)) :
    |magnitude.value - magnitude.shortest.value| ≤ |magnitude.value - count * 10 ^ exponent| := by
  have onGrid : ∀ other : Nat, magnitude.Rounds (other * 10 ^ magnitude.shortest.exponent) →
      |magnitude.value - magnitude.shortest.value| ≤
        |magnitude.value - other * 10 ^ magnitude.shortest.exponent| :=
    (magnitude.shortestFrom_spec _).2.1
  have finer := exponent_le_shortest positive rounds
  obtain coarsest | less := Int.le_iff_eq_or_lt.mp finer
  · rw [coarsest] at rounds ⊢
    exact onGrid count rounds
  · have least := (Decimal.pow_length_toDigits (shortest_digits_ne_zero positive)).1
    have someDigit : 0 < (Nat.toDigits 10 magnitude.shortest.digits).length :=
      Nat.length_toDigits_pos
    generalize (Nat.toDigits 10 magnitude.shortest.digits).length = length at few least someDigit
    obtain ⟨digits, rfl⟩ := Nat.exists_eq_add_one_of_ne_zero someDigit.ne'
    rw [Nat.add_sub_cancel] at least
    have grid := ten_zpow_pos magnitude.shortest.exponent
    have step : 10 * (10 : ℚ) ^ exponent ≤ 10 ^ magnitude.shortest.exponent := by
      rw [← zpow_one_add₀ (by norm_num)]
      exact zpow_le_zpow_right₀ (by norm_num) (by omega)
    have tenfold : 10 * (count * (10 : ℚ) ^ exponent) ≤
        count * 10 ^ magnitude.shortest.exponent := by
      rw [mul_left_comm]
      exact mul_le_mul_of_nonneg_left step (Nat.cast_nonneg count)
    have above : count * (10 : ℚ) ^ exponent ≤
        10 ^ digits * 10 ^ magnitude.shortest.exponent := by
      have bounded : (count : ℚ) ≤ 10 * 10 ^ digits := by
        rw [← pow_succ']
        exact_mod_cast few.le
      have scaled := mul_le_mul_of_nonneg_right bounded grid.le
      linarith
    -- The shortest decimal has one digit only, or else its grid would not be the coarsest.
    have powerRounds := rounds.power above least
    obtain rfl := powerRounds.power_eq_one positive
    rw [pow_zero, one_mul] at powerRounds
    have oneDigit : (count : ℚ) ≤ 9 := by
      have bounded : count ≤ 9 := by omega
      exact_mod_cast bounded
    have tenth : 10 * (count * (10 : ℚ) ^ exponent) ≤ 9 * 10 ^ magnitude.shortest.exponent :=
      tenfold.trans (mul_le_mul_of_nonneg_right oneDigit grid.le)
    have nearer := zpow_nearer positive rounds powerRounds tenth
    have one := onGrid 1 (by rwa [Nat.cast_one, one_mul])
    rw [Nat.cast_one, one_mul] at one
    exact one.trans nearer

end Magnitude

end Calculator
