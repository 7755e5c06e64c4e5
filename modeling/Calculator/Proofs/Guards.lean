import Calculator.Proofs.Grammar
import Calculator.Proofs.Numerals
import Calculator.Proofs.StackMachine

/-!
# Guarded arithmetic

Arithmetic as hardware and libraries offer it has a quotient and a power that may fail. Guards in
front of them and handlers behind them make operations that never do. The main statements are that
no guarded operation fails, whatever the operands are, as long as a quotient fails for a zero
divisor only and a power only for an overflow or for lack of a real value; and that the guarded
operations over IEEE 754 arithmetic are the operations of expressions.
-/

namespace Calculator

namespace Magnitude

/-- The magnitude is zero exactly if it has no units. -/
theorem units_eq_zero_iff (magnitude : Magnitude) : magnitude.units = 0 ↔ magnitude.index = 0 := by
  constructor
  · intro nothing
    by_contra positive
    exact units_ne_zero positive nothing
  · intro zero
    rw [units, zero]
    rfl

/-- A number leaves exactly the divisor when divided by twice the divisor if its quotient by the
divisor is exact and odd. -/
theorem mod_two_mul_eq_iff (number : Nat) {divisor : Nat} (positive : 0 < divisor) :
    number % (2 * divisor) = divisor ↔
      number % divisor = 0 ∧ number / divisor % 2 = 1 := by
  have rest : number % divisor < divisor := Nat.mod_lt _ positive
  have half : number / divisor % 2 = 0 ∨ number / divisor % 2 = 1 := Nat.mod_two_eq_zero_or_one _
  rw [Nat.mul_comm, Nat.mod_mul]
  obtain even | odd := half
  · rw [even]
    omega
  · rw [odd]
    omega

/-- Only zero has the place zero. -/
theorem eq_zero_of_index {magnitude : Magnitude} (noUnits : magnitude.index = 0) :
    magnitude = .zero :=
  eq_of_index_eq noUnits

end Magnitude

namespace Double

/-- The number is finite. -/
def isFinite : Double → Bool
  | finite _ _ => true
  | _ => false

/-- The number is an infinity. -/
def isInfinite : Double → Bool
  | infinite _ => true
  | _ => false

/-- The number is a finite whole number. -/
def isWhole : Double → Bool
  | finite _ magnitude => magnitude.isWhole
  | _ => false

/-- The number without its sign. -/
def abs (x : Double) : Double := if x.isNegative then x.neg else x

/-- The whole part of a number, rounded towards zero. Only a finite number has one. -/
def wholePart : Double → Except ArithmeticFault Int
  | finite negative magnitude =>
    let whole := magnitude.units / Magnitude.unitsPerOne
    .ok (if negative then -(whole : Int) else whole)
  | _ => .error .notFinite

/-- Whether the number is odd, by its whole part where it is a finite whole number. -/
def oddByWholePart (x : Double) : Except ArithmeticFault Bool :=
  if x.isFinite && x.isWhole then x.wholePart.map fun whole => whole % 2 == 1 else .ok false

/-- A whole part is asked for only where there is one, and it tells the odd numbers. -/
theorem oddByWholePart_eq (x : Double) : x.oddByWholePart = .ok x.isOddInteger := by
  cases x with
  | nan => rfl
  | infinite negative => rfl
  | finite negative magnitude =>
    have odd := Magnitude.mod_two_mul_eq_iff magnitude.units Magnitude.unitsPerOne_pos
    unfold oddByWholePart
    simp only [isFinite, isWhole, Bool.true_and, wholePart, isOddInteger, Magnitude.isWhole,
      Magnitude.isOdd]
    by_cases whole : magnitude.units % Magnitude.unitsPerOne = 0
    · have remainder : (if negative then -((magnitude.units / Magnitude.unitsPerOne : Nat) : Int)
          else (magnitude.units / Magnitude.unitsPerOne : Nat)) % 2 = 1 ↔
            magnitude.units / Magnitude.unitsPerOne % 2 = 1 := by
        generalize magnitude.units / Magnitude.unitsPerOne = quotient
        split <;> omega
      rw [whole, beq_self_eq_true, if_pos rfl, Except.map, Except.ok.injEq, Bool.eq_iff_iff,
        beq_iff_eq, beq_iff_eq, remainder, odd]
      exact ⟨fun quotient => ⟨whole, quotient⟩, fun both => both.2⟩
    · have notOdd : magnitude.units % (2 * Magnitude.unitsPerOne) ≠ Magnitude.unitsPerOne :=
        fun isOdd => whole (odd.mp isOdd).1
      rw [if_neg (by simpa using whole), Except.ok.injEq, eq_comm, beq_eq_false_iff_ne]
      exact notOdd

/-- A number is less than zero exactly if it has a negative sign and is no zero. -/
theorem less_zero (x : Double) : x.less (zero false) = (x.isNegative && !x.isZero) := by
  cases x with
  | nan => rfl
  | infinite negative => cases negative <;> rfl
  | finite negative magnitude =>
    have nothing : Magnitude.zero.units = 0 := rfl
    have positive := magnitude.units_eq_zero_iff
    rw [Bool.eq_iff_iff]
    simp only [zero, less, signedUnits, isNegative, isZero, nothing, decide_eq_true_eq,
      Bool.and_eq_true, Bool.not_eq_true', beq_eq_false_iff_ne]
    cases negative with
    | false => simp
    | true =>
      simp only [if_true, Bool.false_eq_true, if_false, true_and]
      omega

/-- A zero is one of the two zeros. -/
theorem eq_zero_of_isZero {x : Double} (isZero : x.isZero = true) : x = zero x.isNegative := by
  cases x with
  | nan => cases isZero
  | infinite negative => cases isZero
  | finite negative magnitude =>
    have noUnits : magnitude.index = 0 := by simpa [Double.isZero] using isZero
    rw [Magnitude.eq_zero_of_index noUnits]
    rfl

/-- A zero base with an exponent below zero has an infinite power, which is negative only for the
negative zero and an odd exponent. -/
theorem power_of_zero_base {x y : Double} (isZero : x.isZero = true)
    (below : y.less (.zero false) = true) :
    x.power y = .infinite (x.isNegative && y.isOddInteger) := by
  rw [less_zero, Bool.and_eq_true, Bool.not_eq_true'] at below
  obtain ⟨negative, notZero⟩ := below
  rw [eq_zero_of_isZero isZero]
  cases y with
  | nan => cases negative
  | infinite reciprocal =>
    obtain rfl : reciprocal = true := negative
    cases x.isNegative <;> decide +kernel
  | finite reciprocal n =>
    obtain rfl : reciprocal = true := negative
    unfold power
    rw [if_neg (by simp [notZero])]
    rfl

/-- A unit base with an infinite exponent has no power. -/
theorem power_of_unit_base {x y : Double} (unit : x.abs = .one) (infinite : y.isInfinite = true) :
    x.power y = .nan := by
  cases y with
  | nan => cases infinite
  | finite negative n => cases infinite
  | infinite negative =>
    have known : (if x.isNegative then x.neg else x) = one := unit
    cases x with
    | nan => cases unit
    | infinite sign => cases sign <;> cases unit
    | finite sign m =>
      change infinitePower (.finite sign m) negative = nan
      unfold infinitePower
      simp only [known, if_true]

/-- A negative base with a fractional exponent has no power. -/
theorem power_of_fractional_exponent {x y : Double} (finite : x.isFinite = true)
    (below : x.less (.zero false) = true) (finiteExponent : y.isFinite = true)
    (fractional : y.isWhole = false) : x.power y = .nan := by
  rw [less_zero, Bool.and_eq_true, Bool.not_eq_true'] at below
  obtain ⟨negative, notZero⟩ := below
  cases x with
  | nan => cases finite
  | infinite sign => cases finite
  | finite sign m =>
    cases y with
    | nan => cases finiteExponent
    | infinite reciprocal => cases finiteExponent
    | finite reciprocal n =>
      obtain rfl : sign = true := negative
      have units : m.index ≠ 0 := by simpa [isZero] using notZero
      have exponent : (Double.finite reciprocal n).isZero = false := by
        rw [Bool.eq_false_iff]
        intro isZero
        have noUnits : n.index = 0 := by simpa [Double.isZero] using isZero
        rw [Magnitude.eq_zero_of_index noUnits] at fractional
        have nothing : Magnitude.zero.units = 0 := rfl
        rw [isWhole, Magnitude.isWhole, nothing, Nat.zero_mod] at fractional
        cases fractional
      have part : n.isWhole = false := fractional
      simp [power, exponent, units, part]

/-- A zero base has no infinite power, unless the exponent is below zero. -/
theorem isInfinite_power_of_zero_base {x y : Double} (isZero : x.isZero = true)
    (finiteExponent : y.isFinite = true) (notBelow : y.less (.zero false) = false) :
    (x.power y).isInfinite = false := by
  rw [less_zero] at notBelow
  cases y with
  | nan => cases finiteExponent
  | infinite reciprocal => cases finiteExponent
  | finite reciprocal n =>
    rw [eq_zero_of_isZero isZero, zero]
    cases exponent : (Double.finite reciprocal n).isZero with
    | true =>
      rw [power, if_pos exponent]
      rfl
    | false =>
      rw [exponent] at notBelow
      obtain rfl : reciprocal = false := by simpa [isNegative] using notBelow
      simp [power, exponent, zero, Magnitude.zero, isInfinite]

/-- A power of finite numbers that is infinite has the sign that a negative base and an odd exponent
give it, unless the base is zero and the exponent below zero. -/
theorem power_of_overflow {x y : Double} (finite : x.isFinite = true)
    (finiteExponent : y.isFinite = true)
    (regular : (x.isZero && y.less (.zero false)) = false)
    (overflow : (x.power y).isInfinite = true) :
    x.isZero = false ∧ x.power y = .infinite (x.less (.zero false) && y.isOddInteger) := by
  have notZero : x.isZero = false := by
    rw [← Bool.not_eq_true]
    intro isZero
    rw [isZero, Bool.true_and] at regular
    rw [isInfinite_power_of_zero_base isZero finiteExponent regular] at overflow
    cases overflow
  refine ⟨notZero, ?_⟩
  cases x with
  | nan => cases finite
  | infinite sign => cases finite
  | finite sign m =>
    cases y with
    | nan => cases finiteExponent
    | infinite reciprocal => cases finiteExponent
    | finite reciprocal n =>
      rw [less_zero, notZero, Bool.not_false, Bool.and_true]
      have units : m.index ≠ 0 := by simpa [isZero] using notZero
      cases exponent : (Double.finite reciprocal n).isZero with
      | true =>
        rw [power, if_pos exponent] at overflow
        cases overflow
      | false =>
        simp only [power, exponent, units, Bool.false_eq_true, if_false] at overflow ⊢
        split at overflow
        · cases overflow
        · next whole =>
          rw [if_neg whole]
          cases found : m.power n reciprocal with
          | none => rfl
          | some magnitude =>
            rw [found] at overflow
            cases overflow

end Double

/-- The arithmetic that guards are put around. Sums, differences and products always have a
result. -/
structure Arithmetic where
  /-- The sum of two numbers. -/
  sum : Double → Double → Double
  /-- The difference of two numbers. -/
  difference : Double → Double → Double
  /-- The product of two numbers. -/
  product : Double → Double → Double
  /-- The quotient of two numbers, which may fail. -/
  quotient : Double → Double → Except ArithmeticFault Double
  /-- The power of two numbers, which may fail. -/
  power : Double → Double → Except ArithmeticFault Double

namespace Arithmetic

/-- The arithmetic fails only where it may: a quotient for a zero divisor, a power for an overflow
or for lack of a real value. -/
structure Dependable (arithmetic : Arithmetic) : Prop where
  quotient_ok : ∀ x y, y.isZero = false → ∃ value, arithmetic.quotient x y = .ok value
  power_cases : ∀ x y, (∃ value, arithmetic.power x y = .ok value) ∨
    arithmetic.power x y = .error .overflow ∨ arithmetic.power x y = .error .domain

/-- The quotient with a guard. A zero divisor gives an infinity, or what is not a number. -/
def guardedQuotient (arithmetic : Arithmetic) (x y : Double) : Except ArithmeticFault Double :=
  if y.isZero then
    if x.isZero || x.isNaN then .ok .nan else .ok (.infinite (x.isNegative != y.isNegative))
  else arithmetic.quotient x y

/-- The power with guards in front of it and handlers for its failures behind it. -/
def guardedPower (arithmetic : Arithmetic) (x y : Double) : Except ArithmeticFault Double :=
  if x.isZero && y.less (.zero false) then
    if x.isNegative then y.oddByWholePart.map .infinite else .ok (.infinite false)
  else if x.abs = .one && y.isInfinite then .ok .nan
  else
    match arithmetic.power x y with
    | .ok value => .ok value
    | .error .overflow =>
      if x.less (.zero false) then y.oddByWholePart.map .infinite else .ok (.infinite false)
    | .error .domain => .ok .nan
    | .error fault => .error fault

/-- The sign of an infinity is that of the base, if the exponent is odd. -/
theorem map_oddByWholePart (negative : Bool) (y : Double) :
    (if negative then y.oddByWholePart.map Double.infinite else .ok (.infinite false)) =
      .ok (.infinite (negative && y.isOddInteger)) := by
  rw [Double.oddByWholePart_eq]
  cases negative with
  | true => rfl
  | false => rfl

section Power

variable (arithmetic : Arithmetic) {x y : Double}

/-- The first guard answers for a zero base with an exponent below zero. -/
theorem guardedPower_of_zeroBase (zeroBase : (x.isZero && y.less (.zero false)) = true) :
    arithmetic.guardedPower x y = .ok (.infinite (x.isNegative && y.isOddInteger)) := by
  rw [guardedPower, if_pos zeroBase, map_oddByWholePart]

/-- The second guard answers for a unit base with an infinite exponent. -/
theorem guardedPower_of_unitBase (regular : (x.isZero && y.less (.zero false)) = false)
    (unitBase : (x.abs = .one && y.isInfinite) = true) :
    arithmetic.guardedPower x y = .ok .nan := by
  rw [guardedPower, if_neg (ne_true_of_eq_false regular), if_pos unitBase]

/-- Behind the guards the power is asked for, and its failures are handled. -/
theorem guardedPower_of_regular (regular : (x.isZero && y.less (.zero false)) = false)
    (notUnit : (x.abs = .one && y.isInfinite) = false) :
    arithmetic.guardedPower x y =
      match arithmetic.power x y with
      | .ok value => .ok value
      | .error .overflow => .ok (.infinite (x.less (.zero false) && y.isOddInteger))
      | .error .domain => .ok .nan
      | .error fault => .error fault := by
  rw [guardedPower, if_neg (ne_true_of_eq_false regular), if_neg (ne_true_of_eq_false notUnit),
    map_oddByWholePart]

end Power

/-- The guarded operation of a symbol; a parenthesis has none. -/
def operation? (arithmetic : Arithmetic) :
    Symbol → Option (Double → Double → Except ArithmeticFault Double)
  | .maximum => some fun x y => .ok (x.maximum y)
  | .plus => some fun x y => .ok (arithmetic.sum x y)
  | .minus => some fun x y => .ok (arithmetic.difference x y)
  | .times => some fun x y => .ok (arithmetic.product x y)
  | .divide => some arithmetic.guardedQuotient
  | .power => some arithmetic.guardedPower
  | .openParen | .closeParen => none

/-- The guarded operations of expressions, by their symbols. -/
def operations (arithmetic : Arithmetic) : StackMachine.Operations := fun label =>
  (Symbol.ofText? label.toList).bind arithmetic.operation?

/-- A guarded quotient never fails. -/
theorem Dependable.guardedQuotient_ok {arithmetic : Arithmetic}
    (dependable : arithmetic.Dependable) (x y : Double) :
    ∃ value, arithmetic.guardedQuotient x y = .ok value := by
  unfold guardedQuotient
  split
  · split
    · exact ⟨_, rfl⟩
    · exact ⟨_, rfl⟩
  · next notZero =>
    apply dependable.quotient_ok
    simpa using notZero

/-- A guarded power never fails. -/
theorem Dependable.guardedPower_ok {arithmetic : Arithmetic}
    (dependable : arithmetic.Dependable) (x y : Double) :
    ∃ value, arithmetic.guardedPower x y = .ok value := by
  cases regular : x.isZero && y.less (.zero false) with
  | true => exact ⟨_, arithmetic.guardedPower_of_zeroBase regular⟩
  | false =>
    cases unitBase : decide (x.abs = .one) && y.isInfinite with
    | true => exact ⟨_, arithmetic.guardedPower_of_unitBase regular unitBase⟩
    | false =>
      rw [arithmetic.guardedPower_of_regular regular unitBase]
      obtain ⟨value, found⟩ | overflow | domain := dependable.power_cases x y
      · rw [found]
        exact ⟨value, rfl⟩
      · rw [overflow]
        exact ⟨_, rfl⟩
      · rw [domain]
        exact ⟨_, rfl⟩

/-- Every operator has a guarded operation, which never fails. -/
theorem Dependable.exists_operation {arithmetic : Arithmetic}
    (dependable : arithmetic.Dependable) {s : Symbol} {level : Level}
    (operator : s.level? = some level) :
    ∃ operation, arithmetic.operations s.text = some operation ∧
      ∀ x y, ∃ value, operation x y = .ok value := by
  rw [operations, Symbol.ofText?_text, Option.bind_some]
  cases s with
  | maximum => exact ⟨_, rfl, fun x y => ⟨_, rfl⟩⟩
  | plus => exact ⟨_, rfl, fun x y => ⟨_, rfl⟩⟩
  | minus => exact ⟨_, rfl, fun x y => ⟨_, rfl⟩⟩
  | times => exact ⟨_, rfl, fun x y => ⟨_, rfl⟩⟩
  | divide => exact ⟨_, rfl, dependable.guardedQuotient_ok⟩
  | power => exact ⟨_, rfl, dependable.guardedPower_ok⟩
  | openParen => cases operator
  | closeParen => cases operator

/-! ## IEEE 754 arithmetic -/

/-- The power of a mathematical library. It fails where a zero base has a negative exponent, where
a negative base has a fractional one, and where finite operands have too large a power. A unit
base has the power one even for an infinite exponent. -/
def libraryPower (x y : Double) : Except ArithmeticFault Double :=
  if x.isFinite && y.isFinite then
    if x.isZero && y.less (.zero false) then .error .domain
    else if x.less (.zero false) && !y.isWhole then .error .domain
    else if (x.power y).isInfinite then .error .overflow
    else .ok (x.power y)
  else if x.abs = .one && y.isInfinite then .ok .one
  else .ok (x.power y)

section Library

variable {x y : Double}

/-- Behind its domain errors the library overflows or returns the power. -/
theorem libraryPower_of_regular (finite : x.isFinite = true) (finiteExponent : y.isFinite = true)
    (regular : (x.isZero && y.less (.zero false)) = false)
    (notFractional : (x.less (.zero false) && !y.isWhole) = false) :
    libraryPower x y =
      if (x.power y).isInfinite then .error .overflow else .ok (x.power y) := by
  simp only [libraryPower, finite, finiteExponent, regular, notFractional, Bool.and_self, if_true,
    Bool.false_eq_true, if_false]

/-- What the library returns is the power, but for a unit base with an infinite exponent. -/
theorem libraryPower_ok_cases {value : Double} (returned : libraryPower x y = .ok value) :
    value = x.power y ∨ x.abs = .one ∧ y.isInfinite = true ∧ value = .one := by
  unfold libraryPower at returned
  split_ifs at returned with finite zeroBase fractional overflow unit
  · exact .inl (Except.ok.inj returned).symm
  · rw [Bool.and_eq_true, decide_eq_true_eq] at unit
    exact .inr ⟨unit.1, unit.2, (Except.ok.inj returned).symm⟩
  · exact .inl (Except.ok.inj returned).symm

/-- The library fails for finite numbers only, and with the first of its reasons that applies. -/
theorem libraryPower_error_cases {fault : ArithmeticFault}
    (failed : libraryPower x y = .error fault) :
    x.isFinite = true ∧ y.isFinite = true ∧
      (fault = .domain ∧ (x.isZero && y.less (.zero false)) = true ∨
        fault = .domain ∧ (x.less (.zero false) && !y.isWhole) = true ∨
        fault = .overflow ∧ (x.isZero && y.less (.zero false)) = false ∧
          (x.power y).isInfinite = true) := by
  unfold libraryPower at failed
  split_ifs at failed with finite zeroBase fractional overflow unit
  all_goals
    obtain ⟨finiteBase, finiteExponent⟩ := Bool.and_eq_true_iff.mp finite
    refine ⟨finiteBase, finiteExponent, ?_⟩
  · exact .inl ⟨(Except.error.inj failed).symm, zeroBase⟩
  · exact .inr (.inl ⟨(Except.error.inj failed).symm, fractional⟩)
  · exact .inr (.inr ⟨(Except.error.inj failed).symm, Bool.not_eq_true _ ▸ zeroBase, overflow⟩)

end Library

/-- The arithmetic of IEEE 754 with the power of a mathematical library. -/
def standard : Arithmetic where
  sum := Double.add
  difference := Double.sub
  product := Double.mul
  quotient x y := if y.isZero then .error .divisionByZero else .ok (x.div y)
  power := libraryPower

/-- The arithmetic of IEEE 754 fails only where it may. -/
theorem standard_dependable : standard.Dependable where
  quotient_ok x y notZero := ⟨x.div y, if_neg (by simpa using notZero)⟩
  power_cases x y := by
    change (∃ value, libraryPower x y = .ok value) ∨ libraryPower x y = .error .overflow ∨
      libraryPower x y = .error .domain
    cases outcome : libraryPower x y with
    | ok value => exact .inl ⟨value, rfl⟩
    | error fault =>
      obtain ⟨_, _, ⟨rfl, _⟩ | ⟨rfl, _⟩ | ⟨rfl, _⟩⟩ := libraryPower_error_cases outcome
      · exact .inr (.inr rfl)
      · exact .inr (.inr rfl)
      · exact .inr (.inl rfl)

/-- The guarded quotient of IEEE 754 is the quotient of expressions. -/
theorem standard_guardedQuotient (x y : Double) :
    standard.guardedQuotient x y = .ok (x.div y) := by
  unfold guardedQuotient standard
  by_cases zero : y.isZero = true
  · rw [if_pos zero]
    cases y with
    | nan => cases zero
    | infinite negative => cases zero
    | finite negative n =>
      have noUnits : n.index = 0 := by simpa [Double.isZero] using zero
      cases x with
      | nan => rfl
      | infinite sign => rfl
      | finite sign m =>
        by_cases nothing : m.index = 0
        · simp [Double.isZero, Double.div, noUnits, nothing]
        · simp [Double.isZero, Double.isNaN, Double.isNegative, Double.div, noUnits, nothing]
  · simp only [if_neg zero]

/-- The guarded power over IEEE 754 arithmetic is the power of expressions. -/
theorem standard_guardedPower (x y : Double) : standard.guardedPower x y = .ok (x.power y) := by
  cases zeroBase : x.isZero && y.less (.zero false) with
  | true =>
    obtain ⟨isZero, below⟩ := Bool.and_eq_true_iff.mp zeroBase
    rw [guardedPower_of_zeroBase standard zeroBase, Double.power_of_zero_base isZero below]
  | false =>
    cases unit : decide (x.abs = .one) && y.isInfinite with
    | true =>
      obtain ⟨isOne, infinite⟩ := Bool.and_eq_true_iff.mp unit
      rw [guardedPower_of_unitBase standard zeroBase unit,
        Double.power_of_unit_base (of_decide_eq_true isOne) infinite]
    | false =>
      have library : standard.power x y = libraryPower x y := rfl
      rw [guardedPower_of_regular standard zeroBase unit, library]
      cases outcome : libraryPower x y with
      | ok value =>
        obtain rfl | ⟨isOne, infinite, _⟩ := libraryPower_ok_cases outcome
        · rfl
        · rw [infinite, decide_eq_true isOne] at unit
          cases unit
      | error fault =>
        obtain ⟨finite, finiteExponent, failed⟩ := libraryPower_error_cases outcome
        obtain ⟨_, isZeroBase⟩ | ⟨rfl, fractional⟩ | ⟨rfl, _, overflow⟩ := failed
        · rw [zeroBase] at isZeroBase
          cases isZeroBase
        · rw [Bool.and_eq_true, Bool.not_eq_true'] at fractional
          rw [Double.power_of_fractional_exponent finite fractional.1 finiteExponent fractional.2]
        · rw [(Double.power_of_overflow finite finiteExponent zeroBase overflow).2]

/-- The guarded operations of IEEE 754 are the operations of expressions. -/
theorem standard_operations (label : String) :
    standard.operations label =
      (operators label).map fun operation x y => .ok (operation x y) := by
  unfold operations operators
  cases Symbol.ofText? label.toList with
  | none => rfl
  | some s =>
    rw [Option.bind_some, Option.bind_some]
    cases s with
    | divide => exact congrArg some (funext fun x => funext (standard_guardedQuotient x))
    | power => exact congrArg some (funext fun x => funext (standard_guardedPower x))
    | _ => rfl

/-- A tree has a value over the guarded operations of IEEE 754 exactly if it has that value as an
expression. -/
theorem standard_value_eq_ok_iff {tree : Tree} {value : Double} :
    StackMachine.value standard.operations tree = .ok value ↔ tree.evaluate = .ok value := by
  rw [StackMachine.value_of_total standard_operations, Tree.evaluate, Tree.evaluateWith_eq]
  cases tree.valueWith operators with
  | error error =>
    constructor
    · intro found
      cases found
    · intro found
      cases found
  | ok found =>
    constructor
    · intro same
      cases same
      rfl
    · intro same
      cases same
      rfl

end Arithmetic

end Calculator
